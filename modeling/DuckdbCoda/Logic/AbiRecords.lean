import DuckdbCoda.Model.Abi

/-!
# What the readers allocate and the `free_*` functions release

Beside each function of `Model.Abi`: the record it builds is that of
`Model.Json` with pointers, and the blocks it adds to the memory are those of
the record. A `free_*` function takes exactly the blocks of its argument.
-/

namespace DuckdbCoda.Abi

open Ownership

variable {memory : Memory} {owned : Multiset Nat}

/-! ## Strings and arrays -/

/-- How many blocks a text takes. -/
def textBlocks (value : String) : Nat := if value.isEmpty then 0 else 1

@[simp] theorem allocString_contents (value : String) (memory : Memory) :
    (allocString value memory).1.contents = value :=
  RawParts.into_contents _ _ _

/-- A string that is given away. -/
theorem allocString_spec (value : String) (h : memory.Holds owned) :
    ∃ result memory', allocString value memory = (result, memory') ∧ result.contents = value ∧
      result.blocks.card = textBlocks value ∧ memory'.Holds (result.blocks + owned) :=
   ⟨_, _, rfl, allocString_contents value memory, RawParts.card_into_blocks _ _ _,
    RawParts.into_holds _ _ h⟩

variable {α : Type}

@[simp] theorem vecIntoRawParts_contents (items : List α) (memory : Memory) :
    (vecIntoRawParts items memory).1.contents = items :=
  RawParts.into_contents _ _ _

/-- An array that is given away. -/
theorem vecIntoRawParts_spec (items : List α) (h : memory.Holds owned) :
    ∃ array memory', vecIntoRawParts items memory = (array, memory') ∧ array.contents = items ∧
      array.blocks.card = (if items.isEmpty then 0 else 1) ∧
      memory'.Holds (array.blocks + owned) :=
  ⟨_, _, rfl, vecIntoRawParts_contents items memory, RawParts.card_into_blocks _ _ _,
    RawParts.into_holds _ _ h⟩

/-- An empty array is not allocated. -/
theorem vecIntoRawParts_blocks_nil {items : List α} (memory : Memory) (h : items = []) :
    (vecIntoRawParts items memory).1.blocks = 0 := by
  subst h
  rfl

/-- An array that is given away with what its items own. -/
theorem vecIntoRawParts_holds {blocks : α → Multiset Nat} {items : List α}
    (h : memory.Holds (blocksOf blocks items + owned)) :
    (vecIntoRawParts items memory).2.Holds ((vecIntoRawParts items memory).1.blocks +
      blocksOf blocks (vecIntoRawParts items memory).1.contents + owned) := by
  rw [vecIntoRawParts_contents, add_assoc]
  exact RawParts.into_holds _ _ h

theorem vecFromRawParts_holds {items : RawParts (List α)}
    (h : memory.Holds (items.blocks + owned)) : (vecFromRawParts items memory).2.Holds owned :=
  RawParts.release_holds h

/-! ## `free_*` -/

theorem freeTable_holds (table : RustExtTable) (memory : Memory) (owned : Multiset Nat)
    (h : memory.Holds (table.blocks + owned)) : (freeTable memory table).Holds owned := by
  rw [RustExtTable.blocks, add_assoc] at h
  exact RawParts.release_holds (RawParts.release_holds h)

theorem freeColumn_holds (column : RustExtColumn) (memory : Memory) (owned : Multiset Nat)
    (h : memory.Holds (column.blocks + owned)) : (freeColumn memory column).Holds owned := by
  rw [RustExtColumn.blocks, add_assoc, add_assoc] at h
  exact RawParts.release_holds (RawParts.release_holds (RawParts.release_holds h))

theorem freeColumns_holds {list : RustExtColumnList} (h : memory.Holds (list.blocks + owned)) :
    (freeColumns list memory).Holds owned := by
  rw [RustExtColumnList.blocks, add_assoc, add_assoc] at h
  exact RawParts.release_holds
    (foldl_release_holds freeColumn_holds _ (vecFromRawParts_holds h))

theorem freeCell_holds (cell : RustExtCell) (memory : Memory) (owned : Multiset Nat)
    (h : memory.Holds (cell.blocks + owned)) : (freeCell memory cell).Holds owned := by
  rw [RustExtCell.blocks, add_assoc] at h
  exact RawParts.release_holds (RawParts.release_holds h)

theorem freeRow_holds (row : RustExtRow) (memory : Memory) (owned : Multiset Nat)
    (h : memory.Holds (row.blocks + owned)) : (freeRow memory row).Holds owned := by
  simp only [RustExtRow.blocks, add_assoc] at h
  have hstrings := RawParts.release_holds (RawParts.release_holds (RawParts.release_holds h))
  exact foldl_release_holds freeCell_holds _ (vecFromRawParts_holds hstrings)

theorem freeRowsPartial_holds {rows : RawParts (List RustExtRow)}
    (h : memory.Holds (rows.blocks + blocksOf RustExtRow.blocks rows.contents + owned)) :
    (freeRowsPartial rows memory).Holds owned := by
  rw [add_assoc] at h
  exact foldl_release_holds freeRow_holds _ (vecFromRawParts_holds h)

theorem freeCodaRowsResponse_holds {response : CodaRowsResponse}
    (h : memory.Holds (response.blocks + owned)) :
    (freeCodaRowsResponse response memory).Holds owned := by
  rw [CodaRowsResponse.blocks, add_assoc, add_assoc] at h
  exact RawParts.release_holds (RawParts.release_holds (freeRowsPartial_holds h))

theorem freeScanBatch_holds {batch : RustExtScanBatch} (h : memory.Holds (batch.blocks + owned)) :
    (freeScanBatch batch memory).Holds owned :=
  freeRowsPartial_holds h

theorem freeCatalogTable_holds (table : RustExtCatalogTable) (memory : Memory)
    (owned : Multiset Nat) (h : memory.Holds (table.blocks + owned)) :
    (freeCatalogTable memory table).Holds owned := by
  simp only [RustExtCatalogTable.blocks, add_assoc] at h
  have hstrings := RawParts.release_holds (RawParts.release_holds h)
  refine freeColumns_holds (hstrings.of_eq ?_)
  simp [RustExtColumnList.blocks, RawParts.blocks, add_assoc]

theorem freeCatalog_holds {catalog : RustExtCatalog} (h : memory.Holds (catalog.blocks + owned)) :
    (freeCatalog catalog memory).Holds owned := by
  rw [RustExtCatalog.blocks, add_assoc] at h
  exact foldl_release_holds freeCatalogTable_holds _ (vecFromRawParts_holds h)

/-! ## Reading tables and columns -/

/-- The text of a string member, empty when there is none. -/
def memberText (key : String) (item : Json) : String := (item.getStr key).getD ""

/-- An item without a string `id` or without a string `name`. -/
def unnamed (item : Json) : Bool := (item.getStr "id").isNone || (item.getStr "name").isNone

def tableSize (item : Json) : Nat :=
  textBlocks (memberText "id" item) + textBlocks (memberText "name" item)

/-- A table or a column without a name loses its id. -/
def idLeaks (item : Json) : Nat := textBlocks (memberText "id" item)

theorem tableFromJson_value (item : Json) (memory : Memory) :
    (tableFromJson item memory).1.map RustExtTable.toValue = DuckdbCoda.tableFromJson item := by
  unfold tableFromJson DuckdbCoda.tableFromJson
  cases item.getStr "id" with
  | none => rfl
  | some id =>
      cases item.getStr "name" with
      | none => rfl
      | some name => simp [Except.map, RustExtTable.toValue, okOr, bind, Except.bind, pure,
          Except.pure]

theorem tableFromJson_reads :
    Reads tableFromJson RustExtTable.blocks unnamed tableSize idLeaks := by
  intro item memory owned h
  unfold tableFromJson unnamed tableSize idLeaks memberText
  cases item.getStr "id" with
  | none => exact .inr ⟨_, 0, _, rfl, rfl, rfl, h.of_eq (zero_add _).symm⟩
  | some id =>
      obtain ⟨idString, mid, hid, _, hidCard, hmid⟩ := allocString_spec id h
      simp only [hid]
      cases item.getStr "name" with
      | none =>
          -- the id was given away already, and nobody has it
          exact .inr ⟨_, idString.blocks, _, rfl, rfl, hidCard, hmid⟩
      | some name =>
          obtain ⟨nameString, last, hname, _, hnameCard, hlast⟩ := allocString_spec name hmid
          simp only [hname]
          refine .inl ⟨_, _, rfl, rfl, ?_, hlast.of_eq ?_⟩
          · rw [RustExtTable.blocks, Multiset.card_add, hidCard, hnameCard]
            rfl
          · rw [RustExtTable.blocks]
            abel

/-- The type of a column. -/
def formatTypeText (item : Json) : String :=
  (((item.get "format").bind fun inner => inner.asObject.map fun _ => inner).bind
    (Json.getStr "type")).getD "text"

def columnSize (item : Json) : Nat :=
  textBlocks (memberText "id" item) + textBlocks (memberText "name" item) +
    textBlocks (formatTypeText item)

theorem columnFromJson_value (item : Json) (memory : Memory) :
    (columnFromJson item memory).1.map RustExtColumn.toValue = DuckdbCoda.columnFromJson item := by
  unfold columnFromJson DuckdbCoda.columnFromJson
  cases item.getStr "id" with
  | none => rfl
  | some id =>
      cases item.getStr "name" with
      | none => rfl
      | some name => simp [Except.map, RustExtColumn.toValue, okOr, bind, Except.bind, pure,
          Except.pure]

theorem columnFromJson_reads :
    Reads columnFromJson RustExtColumn.blocks unnamed columnSize idLeaks := by
  intro item memory owned h
  unfold columnFromJson unnamed columnSize idLeaks memberText
  cases item.getStr "id" with
  | none => exact .inr ⟨_, 0, _, rfl, rfl, rfl, h.of_eq (zero_add _).symm⟩
  | some id =>
      obtain ⟨idString, mid, hid, _, hidCard, hmid⟩ := allocString_spec id h
      simp only [hid]
      cases item.getStr "name" with
      | none => exact .inr ⟨_, idString.blocks, _, rfl, rfl, hidCard, hmid⟩
      | some name =>
          obtain ⟨nameString, mid', hname, _, hnameCard, hmid'⟩ := allocString_spec name hmid
          obtain ⟨typeString, last, htype, _, htypeCard, hlast⟩ :=
            allocString_spec (formatTypeText item) hmid'
          rw [formatTypeText] at htype
          simp only [hname, htype]
          refine .inl ⟨_, _, rfl, rfl, ?_, hlast.of_eq ?_⟩
          · rw [RustExtColumn.blocks, Multiset.card_add, Multiset.card_add, hidCard, hnameCard,
              htypeCard]
            rfl
          · rw [RustExtColumn.blocks]
            abel

/-! ## Reading rows -/

theorem cellsFromJson_value (serde : SerdeJson) :
    ∀ (members : List (String × Json)) (memory : Memory),
      (cellsFromJson serde members memory).1.map RustExtCell.toValue =
        members.map (DuckdbCoda.cellFromJson serde) := by
  intro members
  induction members with
  | nil => exact fun _ => rfl
  | cons member rest ih =>
      intro memory
      rw [cellsFromJson, List.map_cons, List.map_cons, ih]
      simp [cellFromJson, RustExtCell.toValue, DuckdbCoda.cellFromJson]

/-- The blocks of the strings of a cell. -/
def cellSize (serde : SerdeJson) (member : String × Json) : Nat :=
  textBlocks member.1 + textBlocks (jsonValueString serde member.2)

/-- The cells of a row that are given away. -/
theorem cellsFromJson_spec (serde : SerdeJson) :
    ∀ (members : List (String × Json)) {memory : Memory} {owned : Multiset Nat},
      memory.Holds owned → ∃ cells memory', cellsFromJson serde members memory = (cells, memory') ∧
        (blocksOf RustExtCell.blocks cells).card =
          (members.map (cellSize serde)).sum ∧ (cells.isEmpty = members.isEmpty) ∧
        memory'.Holds (blocksOf RustExtCell.blocks cells + owned) := by
  intro members
  induction members with
  | nil => exact fun h => ⟨[], _, rfl, rfl, rfl, h.of_eq (zero_add _).symm⟩
  | cons member rest ih =>
      intro memory owned h
      obtain ⟨idString, mid, hid, _, hidCard, hmid⟩ := allocString_spec member.1 h
      obtain ⟨valueString, mid', hvalue, _, hvalueCard, hmid'⟩ :=
        allocString_spec (jsonValueString serde member.2) hmid
      obtain ⟨cells, last, hcells, hcellsCard, _, hlast⟩ := ih hmid'
      refine ⟨_ :: cells, last, by simp only [cellsFromJson, cellFromJson, hid, hvalue, hcells]; rfl,
        ?_, rfl, hlast.of_eq ?_⟩
      · rw [blocksOf_cons, Multiset.card_add, hcellsCard, RustExtCell.blocks, Multiset.card_add,
          hidCard, hvalueCard, List.map_cons, List.sum_cons, cellSize]
      · rw [blocksOf_cons, RustExtCell.blocks]
        abel

/-- The blocks of the cells of a row, their array among them. -/
def cellsSize (serde : SerdeJson) (item : Json) : Nat :=
  ((rowValues item).map (cellSize serde)).sum + if (rowValues item).isEmpty then 0 else 1

def rowSize (serde : SerdeJson) (item : Json) : Nat :=
  cellsSize serde item + textBlocks (memberText "id" item) +
    textBlocks (memberText "createdAt" item) + textBlocks (memberText "updatedAt" item)

theorem rowFromJson_value (serde : SerdeJson) (item : Json) (memory : Memory) :
    (rowFromJson serde item memory).1.map RustExtRow.toValue =
      DuckdbCoda.rowFromJson serde item := by
  unfold rowFromJson DuckdbCoda.rowFromJson
  cases item.getStr "id" with
  | none => rfl
  | some id => simp [Except.map, RustExtRow.toValue, okOr, bind, Except.bind, pure, Except.pure,
      cellsFromJson_value]

theorem rowFromJson_reads (serde : SerdeJson) :
    Reads (rowFromJson serde) RustExtRow.blocks (fun item => (item.getStr "id").isNone)
      (rowSize serde) (cellsSize serde) := by
  intro item memory owned h
  obtain ⟨cells, mid, hcells, hcellsCard, hempty, hmid⟩ :=
    cellsFromJson_spec serde (rowValues item) h
  obtain ⟨array, mid', harray, hcontents, harrayCard, hmid'⟩ := vecIntoRawParts_spec cells hmid
  have hcard : (array.blocks + blocksOf RustExtCell.blocks cells).card = cellsSize serde item := by
    rw [Multiset.card_add, harrayCard, hcellsCard, hempty, Nat.add_comm]
    rfl
  unfold rowFromJson rowSize memberText
  simp only [hcells, harray]
  cases item.getStr "id" with
  | none =>
      -- what is lost are the cells with their array
      exact .inr ⟨_, array.blocks + blocksOf RustExtCell.blocks cells, _, rfl, rfl, hcard,
        hmid'.of_eq (add_assoc _ _ _).symm⟩
  | some id =>
      obtain ⟨idString, m₁, hid, _, hidCard, h₁⟩ := allocString_spec id hmid'
      obtain ⟨createdAt, m₂, hcreated, _, hcreatedCard, h₂⟩ :=
        allocString_spec ((item.getStr "createdAt").getD "") h₁
      obtain ⟨updatedAt, m₃, hupdated, _, hupdatedCard, h₃⟩ :=
        allocString_spec ((item.getStr "updatedAt").getD "") h₂
      simp only [hid, hcreated, hupdated]
      refine .inl ⟨_, _, rfl, rfl, ?_, h₃.of_eq ?_⟩
      · simp only [RustExtRow.blocks, hcontents, Multiset.card_add] at hcard ⊢
        rw [hidCard, hcreatedCard, hupdatedCard, ← hcard, Option.getD_some]
        omega
      · rw [RustExtRow.blocks, hcontents]
        abel

end DuckdbCoda.Abi
