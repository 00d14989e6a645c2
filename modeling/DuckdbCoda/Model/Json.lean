import Mathlib.Data.List.Forall2
import DuckdbCoda.Lib.Loop
import DuckdbCoda.Model.Ffi

/-!
# JSON values and the response readers

`Json` is `serde_json::Value`; the text codec `from_str` / `to_string` is
third-party code and enters as the parameter `SerdeJson`. The readers follow
`json.rs`: a page is rejected as a whole when one of its items lacks a string
`id` (or `name`), and every optional member has its default.
-/

namespace DuckdbCoda

open AsciiCase

/-- `serde_json::Number`: a `u64`, a negative `i64`, or a finite double. -/
inductive JsonNumber where
  | posInt (value : UInt64)
  | negInt (value : Int64) (negative : value < 0)
  | float (value : F64) (finite : value.isFinite = true)
  deriving DecidableEq

/-- `serde_json::Value`. The members of an object are listed in the order of
the map that holds them, which is the order of their keys. -/
inductive Json where
  | null
  | bool (value : Bool)
  | number (value : JsonNumber)
  | string (value : String)
  | array (items : List Json)
  | object (members : List (String × Json))

/-- The text codec of `serde_json`. -/
structure SerdeJson where
  fromStr : String → Except String Json
  toString : Json → String

namespace Json

/-- `Value::get`: the member of an object, nothing on any other value. -/
def get (key : String) : Json → Option Json
  | .object members => (members.find? fun member => member.1 = key).map Prod.snd
  | _ => none

def asStr : Json → Option String
  | .string value => some value
  | _ => none

def asBool : Json → Option Bool
  | .bool value => some value
  | _ => none

def asArray : Json → Option (List Json)
  | .array items => some items
  | _ => none

def asObject : Json → Option (List (String × Json))
  | .object members => some members
  | _ => none

/-- `value.get(key).and_then(Value::as_str)`. -/
def getStr (key : String) (value : Json) : Option String := (value.get key).bind asStr

/-- `value.get(key).and_then(Value::as_bool)`. -/
def getBool (key : String) (value : Json) : Option Bool := (value.get key).bind asBool

end Json

/-- `option.ok_or(message)`. -/
def okOr {α : Type} (message : String) : Option α → Except String α
  | some value => .ok value
  | none => .error message

@[simp] theorem okOr_eq_ok {α : Type} {message : String} {x : Option α} {value : α} :
    okOr message x = .ok value ↔ x = some value := by
  cases x <;> simp [okOr]

/-- What a `?` that went through was applied to. -/
theorem bind_eq_ok {α β ε : Type} {x : Except ε α} {f : α → Except ε β} {result : β}
    (h : (x >>= f) = .ok result) : ∃ value, x = .ok value ∧ f value = .ok result := by
  cases x with
  | error message => cases h
  | ok value => exact ⟨value, rfl, h⟩

/-- What `collect::<Result<Vec<_>, _>>()` gathers was read item by item. -/
theorem forall₂_of_mapM_ok {α β ε : Type} {read : α → Except ε β} {items : List α} :
    ∀ {results : List β}, items.mapM read = .ok results →
      List.Forall₂ (fun item result => read item = .ok result) items results := by
  induction items with
  | nil =>
      intro results h
      cases h
      exact .nil
  | cons head rest ih =>
      intro results h
      rw [List.mapM_cons] at h
      obtain ⟨first, hfirst, h⟩ := bind_eq_ok h
      obtain ⟨others, hothers, h⟩ := bind_eq_ok h
      cases h
      exact .cons hfirst (ih hothers)

theorem exists_of_mapM_ok {α β ε : Type} {read : α → Except ε β} {items : List α}
    {results : List β} (h : items.mapM read = .ok results) :
    ∀ result ∈ results, ∃ item ∈ items, read item = .ok result := by
  intro result hmem
  have hall := forall₂_of_mapM_ok h
  obtain ⟨index, hindex, rfl⟩ := List.getElem_of_mem hmem
  have hitem : index < items.length := by rwa [hall.length_eq]
  exact ⟨items[index], List.getElem_mem hitem, hall.get hitem hindex⟩

/-- A list whose items can all be read. -/
theorem mapM_ok_of_forall {α β ε : Type} (read : α → Except ε β) (items : List α) :
    (∀ item ∈ items, ∃ result, read item = .ok result) →
      ∃ results, items.mapM read = .ok results := by
  induction items with
  | nil => exact fun _ => ⟨[], rfl⟩
  | cons head rest ih =>
      intro h
      obtain ⟨first, hfirst⟩ := h head List.mem_cons_self
      obtain ⟨others, hothers⟩ := ih fun item hmem => h item (List.mem_cons_of_mem _ hmem)
      refine ⟨first :: others, ?_⟩
      rw [List.mapM_cons, hfirst, hothers]
      rfl

/-- An item that cannot be read keeps the list from being read. -/
theorem mapM_error_of_mem {α β ε : Type} (read : α → Except ε β) {items : List α} {item : α}
    (hmem : item ∈ items) (h : ∃ error, read item = .error error) :
    ∃ error, items.mapM read = .error error := by
  obtain ⟨error, herror⟩ := h
  cases hread : items.mapM read with
  | error error' => exact ⟨error', rfl⟩
  | ok results =>
      have hall := forall₂_of_mapM_ok hread
      obtain ⟨index, hindex, rfl⟩ := List.getElem_of_mem hmem
      have hok : read items[index] = _ := hall.get hindex (hall.length_eq ▸ hindex)
      rw [herror] at hok
      cases hok

/-! ## `json.rs` -/

def jsonValueType : Json → JsonValueType
  | .null => .null
  | .bool _ => .boolean
  | .string _ => .string
  | _ => .other

def jsonValueString (serde : SerdeJson) : Json → String
  | .null => "null"
  | .bool inner => if inner then "true" else "false"
  | .string inner => inner
  | value => serde.toString value

/-- The formats whose columns are DOUBLE. -/
def numberFormats : List String :=
  ["number", "currency", "percent", "duration", "slider", "scale"]

def logicalType (formatType : String) (isArray : Bool) : Int32 :=
  if isArray then 0
  else if eqIgnoreAsciiCase formatType "checkbox" then 1
  else if numberFormats.any fun candidate => eqIgnoreAsciiCase formatType candidate then 2
  else 0

/-- Whether the listed item is a base table rather than a view. -/
def listedAsTable (item : Json) : Bool :=
  eqIgnoreAsciiCase ((item.getStr "tableType").getD "table") "table"

def tableCapabilities (item : Json) : UInt32 :=
  if listedAsTable item then tableInsert ||| tableUpdate ||| tableDelete ||| tableRowId
  else tableView ||| tableRowId

def tableFromJson (item : Json) : Except String RustExtTable := do
  let id ← okOr "missing table id" (item.getStr "id")
  let name ← okOr "missing table name" (item.getStr "name")
  return { id, name, capabilities := tableCapabilities item }

/-- The `items` array every page must have. -/
def pageItems (root : Json) : Except String (List Json) :=
  okOr "missing items array" ((root.get "items").bind Json.asArray)

def tableListFromJson (serde : SerdeJson) (body : String) : Except String RustExtTableList := do
  let root ← serde.fromStr body
  let items ← pageItems root
  let tables ← items.mapM tableFromJson
  return { items := tables, nextPageToken := (root.getStr "nextPageToken").getD "" }

def columnCapabilities (calculated isArray : Bool) : UInt32 :=
  (if calculated then columnGenerated else columnEditable) |||
    (if isArray then columnArray else columnFilterEquality)

def columnFromJson (item : Json) : Except String RustExtColumn := do
  let format := (item.get "format").bind fun inner => inner.asObject.map fun _ => inner
  let formatType := (format.bind (Json.getStr "type")).getD "text"
  let isArray := (format.bind (Json.getBool "isArray")).getD false
  let calculated := (item.getBool "calculated").getD false
  let id ← okOr "missing column id" (item.getStr "id")
  let name ← okOr "missing column name" (item.getStr "name")
  return {
    id, name, typeName := formatType
    capabilities := columnCapabilities calculated isArray
    logicalType := logicalType formatType isArray }

def columnListFromJson (serde : SerdeJson) (body : String) : Except String RustExtColumnList := do
  let root ← serde.fromStr body
  let items ← pageItems root
  let columns ← items.mapM columnFromJson
  return { items := columns, nextPageToken := (root.getStr "nextPageToken").getD "" }

def cellFromJson (serde : SerdeJson) (member : String × Json) : RustExtCell where
  columnId := member.1
  valueType := jsonValueType member.2
  value := jsonValueString serde member.2

/-- The `values` members of a row item, none when it is not an object. -/
def rowValues (item : Json) : List (String × Json) :=
  ((item.get "values").bind Json.asObject).getD []

def rowFromJson (serde : SerdeJson) (item : Json) : Except String RustExtRow := do
  let id ← okOr "missing row id" (item.getStr "id")
  return {
    id
    createdAt := (item.getStr "createdAt").getD ""
    updatedAt := (item.getStr "updatedAt").getD ""
    deleted := (item.getBool "deleted").getD false || (item.getBool "isDeleted").getD false
    cells := (rowValues item).map (cellFromJson serde) }

def rowsFromJson (serde : SerdeJson) (body : String) : Except String CodaRowsResponse := do
  let root ← serde.fromStr body
  let items ← pageItems root
  let rows ← items.mapM (rowFromJson serde)
  return {
    rows
    nextPageToken := (root.getStr "nextPageToken").getD ""
    nextSyncToken := (root.getStr "nextSyncToken").getD "" }

/-- The tables of a page that was read are items of its body. -/
theorem tableListFromJson_ok {serde : SerdeJson} {body : String} {page : RustExtTableList}
    (h : tableListFromJson serde body = .ok page) :
    ∃ root items, serde.fromStr body = .ok root ∧ pageItems root = .ok items ∧
      ∀ table ∈ page.items, ∃ item ∈ items, tableFromJson item = .ok table := by
  obtain ⟨root, hroot, h⟩ := bind_eq_ok h
  obtain ⟨items, hitems, h⟩ := bind_eq_ok h
  obtain ⟨tables, htables, h⟩ := bind_eq_ok h
  cases h
  exact ⟨root, items, hroot, hitems, exists_of_mapM_ok htables⟩

theorem columnListFromJson_ok {serde : SerdeJson} {body : String} {page : RustExtColumnList}
    (h : columnListFromJson serde body = .ok page) :
    ∀ column ∈ page.items, ∃ item, columnFromJson item = .ok column := by
  obtain ⟨root, hroot, h⟩ := bind_eq_ok h
  obtain ⟨items, hitems, h⟩ := bind_eq_ok h
  obtain ⟨columns, hcolumns, h⟩ := bind_eq_ok h
  cases h
  intro column hmem
  obtain ⟨item, _, hread⟩ := exists_of_mapM_ok hcolumns column hmem
  exact ⟨item, hread⟩

/-! ## Preparing the columns of a table -/

/-- One turn of the suffix search: leave with `candidate` when no column before
it has that name, else try the next suffix. -/
def suffixTurn (taken : List RustExtColumn) (base : String) :
    String × Nat → Loop.Turn (String × Nat) String
  | (candidate, suffix) =>
      if taken.any fun column => eqIgnoreAsciiCase column.name candidate then
        .next (base ++ "_" ++ Nat.repr (suffix + 1), suffix + 1)
      else .done candidate

/-- The name of a column whose predecessors are already prepared. -/
def preparedName (fuel : Nat) (taken : List RustExtColumn) (original : String) : Option String :=
  let base := if original.isEmpty then "column" else original
  Loop.run (fun state => some (suffixTurn taken base state)) fuel (base, 1)

/-- The sweep over `idx`: `taken` is `columns[..idx]`. -/
def prepareFrom (fuel : Nat) (taken : List RustExtColumn) :
    List RustExtColumn → Option (List RustExtColumn)
  | [] => some taken
  | column :: rest => do
      let name ← preparedName fuel taken column.name
      prepareFrom fuel (taken ++ [{ column with name }]) rest

def prepareColumns (fuel : Nat) (columns : List RustExtColumn) : Option (List RustExtColumn) :=
  prepareFrom fuel [] columns

def metadataColumn (name : String) : RustExtColumn where
  id := name
  name := name
  typeName := "timestampTz"
  capabilities := columnGenerated ||| columnSystem ||| columnSortAsc
  logicalType := 3

def appendRowMetadata (columns : List RustExtColumn) : List RustExtColumn :=
  columns ++ ["createdAt", "updatedAt"].map metadataColumn

end DuckdbCoda
