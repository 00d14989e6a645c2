import DuckdbCoda.Logic.AbiRecords
import DuckdbCoda.Model.MockCoda

/-!
# Pages in memory

Each of the three page readers gives the page of its counterpart in
`Model.Json`, adds the blocks of that page to the memory and nothing else, and
`free_*` takes them back. A page that cannot be read leaves behind, for good, the
strings and the cell arrays of the items before the first malformed one, and those
it had read of that one (`pages_owned`).
-/

namespace DuckdbCoda.Abi

open Ownership

section

variable {α β γ δ : Type} {serde : SerdeJson} {read : Json → Memory → Except String α × Memory}
  {finish : Json → RawParts (List α) → Memory → β × Memory}

/-- A page is what its items and its root are. -/
theorem readPage_value {plain : Json → Except String γ} {value : α → γ} {page : β → δ}
    {plainPage : Json → List γ → δ}
    (hread : ∀ item memory, (read item memory).1.map value = plain item)
    (hfinish : ∀ root items memory,
      page (finish root items memory).1 = plainPage root (items.contents.map value))
    (body : String) (memory : Memory) :
    (readPage serde read finish body memory).1.map page = (do
      let root ← serde.fromStr body
      let items ← pageItems root
      let results ← items.mapM plain
      return plainPage root results) := by
  unfold readPage
  cases serde.fromStr body with
  | error message => rfl
  | ok root =>
      simp only [bind, Except.bind]
      cases pageItems root with
      | error message => rfl
      | ok items =>
          simp only
          rw [← readItems_value hread items memory]
          rcases readItems read items memory with ⟨error | results, mid⟩
          · rfl
          · show Except.ok (page (finish root (vecIntoRawParts results mid).1 _).1) = _
            rw [hfinish, vecIntoRawParts_contents]
            rfl

/-- What is lost of a page that cannot be read. -/
def pageLeaks (serde : SerdeJson) (fails : Json → Bool) (size leaks : Json → Nat) (body : String) :
    Nat :=
  match serde.fromStr body with
  | .error _ => 0
  | .ok root =>
      match pageItems root with
      | .error _ => 0
      | .ok items => leakedItems fails size leaks items

/-- **Reading a page** leaves the blocks of the page, or of what is lost. -/
theorem readPage_leaves {blocks : α → Multiset Nat} {fails : Json → Bool} {size leaks : Json → Nat}
    {pageBlocks : β → Multiset Nat} (reads : Reads read blocks fails size leaks)
    (hfinish : ∀ root items {memory : Memory} {owned : Multiset Nat},
      memory.Holds (items.blocks + blocksOf blocks items.contents + owned) →
      (finish root items memory).2.Holds (pageBlocks (finish root items memory).1 + owned))
    (body : String) {memory : Memory} {owned : Multiset Nat} (h : memory.Holds owned) :
    Leaves pageBlocks (pageLeaks serde fails size leaks body) owned
      (readPage serde read finish body memory) := by
  unfold readPage pageLeaks
  cases serde.fromStr body with
  | error message => exact ⟨0, rfl, h.of_eq (zero_add _).symm⟩
  | ok root =>
      simp only
      cases pageItems root with
      | error message => exact ⟨0, rfl, h.of_eq (zero_add _).symm⟩
      | ok items =>
          have hitems := reads.readItems_leaves items h
          rcases hread : readItems read items memory with ⟨error | results, mid⟩ <;>
            rw [hread] at hitems
          · simp only [hread]
            exact hitems
          · obtain ⟨array, last, harray, hcontents, _, hlast⟩ := vecIntoRawParts_spec results hitems
            simp only [hread, harray]
            refine hfinish root array (hlast.of_eq ?_)
            rw [hcontents, add_assoc]

end

/-! ## The three pages -/

/-- A reader of pages agrees with one that keeps no memory, and leaves the blocks
of the page or `leaks` lost ones. -/
structure OwnedReader {β δ : Type} (read : String → Memory → Except String β × Memory)
    (plain : String → Except String δ) (toValue : β → δ) (blocks : β → Multiset Nat)
    (leaks : String → Nat) : Prop where
  value : ∀ body memory, (read body memory).1.map toValue = plain body
  leaves : ∀ body {memory : Memory} {owned : Multiset Nat}, memory.Holds owned →
    Leaves blocks (leaks body) owned (read body memory)

theorem tableListFromJson_owned (serde : SerdeJson) :
    OwnedReader (tableListFromJson serde) (DuckdbCoda.tableListFromJson serde)
      RustExtTableList.toValue RustExtTableList.blocks
      (pageLeaks serde unnamed tableSize idLeaks) where
  value := readPage_value tableFromJson_value
    (fun root items memory => by simp [finishTableList, RustExtTableList.toValue])
  leaves body memory owned h := by
    refine readPage_leaves tableFromJson_reads ?_ body h
    intro root items memory owned h
    obtain ⟨token, last, htoken, _, _, hlast⟩ :=
      allocString_spec ((root.getStr "nextPageToken").getD "") h
    simp only [finishTableList, htoken]
    refine hlast.of_eq ?_
    rw [RustExtTableList.blocks]
    abel

theorem columnListFromJson_owned (serde : SerdeJson) :
    OwnedReader (columnListFromJson serde) (DuckdbCoda.columnListFromJson serde)
      RustExtColumnList.toValue RustExtColumnList.blocks
      (pageLeaks serde unnamed columnSize idLeaks) where
  value := readPage_value columnFromJson_value
    (fun root items memory => by simp [finishColumnList, RustExtColumnList.toValue])
  leaves body memory owned h := by
    refine readPage_leaves columnFromJson_reads ?_ body h
    intro root items memory owned h
    obtain ⟨token, last, htoken, _, _, hlast⟩ :=
      allocString_spec ((root.getStr "nextPageToken").getD "") h
    simp only [finishColumnList, htoken]
    refine hlast.of_eq ?_
    rw [RustExtColumnList.blocks]
    abel

theorem rowsFromJson_owned (serde : SerdeJson) :
    OwnedReader (rowsFromJson serde) (DuckdbCoda.rowsFromJson serde)
      CodaRowsResponse.toValue CodaRowsResponse.blocks
      (pageLeaks serde (fun item => (item.getStr "id").isNone) (rowSize serde)
        (cellsSize serde)) where
  value := readPage_value (rowFromJson_value serde)
    (fun root items memory => by simp [finishRows, CodaRowsResponse.toValue])
  leaves body memory owned h := by
    refine readPage_leaves (rowFromJson_reads serde) ?_ body h
    intro root items memory owned h
    obtain ⟨pageToken, mid, hpage, _, _, hmid⟩ :=
      allocString_spec ((root.getStr "nextPageToken").getD "") h
    obtain ⟨syncToken, last, hsync, _, _, hlast⟩ :=
      allocString_spec ((root.getStr "nextSyncToken").getD "") hmid
    simp only [finishRows, hpage, hsync]
    refine hlast.of_eq ?_
    rw [CodaRowsResponse.blocks]
    abel

/-- **Pages own what they say.** Whatever a page reader is given, it agrees with
the plain reader; a page that is read owns every block that is new; and one that
is not leaves behind the strings, and for rows the cell arrays too, that were read
before the first malformed item was found to be one. What a page of columns or of
rows owns, `free_columns` and `free_coda_rows_response` give back, and nothing
else. -/
theorem pages_owned (serde : SerdeJson) :
    OwnedReader (tableListFromJson serde) (DuckdbCoda.tableListFromJson serde)
      RustExtTableList.toValue RustExtTableList.blocks
      (pageLeaks serde unnamed tableSize idLeaks) ∧
    OwnedReader (columnListFromJson serde) (DuckdbCoda.columnListFromJson serde)
      RustExtColumnList.toValue RustExtColumnList.blocks
      (pageLeaks serde unnamed columnSize idLeaks) ∧
    OwnedReader (rowsFromJson serde) (DuckdbCoda.rowsFromJson serde)
      CodaRowsResponse.toValue CodaRowsResponse.blocks
      (pageLeaks serde (fun item => (item.getStr "id").isNone) (rowSize serde)
        (cellsSize serde)) ∧
    (∀ body memory owned page memory', Memory.Holds memory owned →
      columnListFromJson serde body memory = (.ok page, memory') →
      (freeColumns page memory').Holds owned) ∧
    ∀ body memory owned page memory', Memory.Holds memory owned →
      rowsFromJson serde body memory = (.ok page, memory') →
      (freeCodaRowsResponse page memory').Holds owned := by
  refine ⟨tableListFromJson_owned serde, columnListFromJson_owned serde, rowsFromJson_owned serde,
    ?_, ?_⟩
  · intro body memory owned page memory' h hread
    have hleaves := (columnListFromJson_owned serde).leaves body h
    rw [hread] at hleaves
    exact freeColumns_holds hleaves
  · intro body memory owned page memory' h hread
    have hleaves := (rowsFromJson_owned serde).leaves body h
    rw [hread] at hleaves
    exact freeCodaRowsResponse_holds hleaves

/-- A row with a cell, and maybe one without an id. -/
def mockPageTexts : List (String × Json) := [
  ("good", .object [("items", .array [.object [("id", .string "i-1"),
    ("values", .object [("c-1", .string "x")])]])]),
  ("bad", .object [("items", .array [.object [("id", .string "i-1"),
    ("values", .object [("c-1", .string "x")])], .object []])])]

/-- Of the bad page the id, the cell array and its two strings are lost; of the good
one nothing is left when it is freed. -/
theorem pages_owned_mock :
    (∃ message memory lost, rowsFromJson (mockSerde mockPageTexts fun _ => "") "bad" .empty =
        (.error message, memory) ∧ Multiset.card lost = 4 ∧ memory.Holds lost) ∧
      ∃ page memory, rowsFromJson (mockSerde mockPageTexts fun _ => "") "good" .empty =
        (.ok page, memory) ∧ memory.live ≠ 0 ∧
        (freeCodaRowsResponse page memory).Holds 0 := by
  obtain ⟨-, -, hrows, -, hfree⟩ := pages_owned (mockSerde mockPageTexts fun _ => "")
  constructor
  · obtain ⟨lost, hcard, hholds⟩ := hrows.leaves "bad" Memory.holds_empty
    exact ⟨_, _, lost, rfl, hcard, hholds.of_eq (add_zero _)⟩
  · refine ⟨_, _, rfl, ?_, hfree "good" .empty 0 _ _ Memory.holds_empty rfl⟩
    decide

end DuckdbCoda.Abi
