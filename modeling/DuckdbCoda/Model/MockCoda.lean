import DuckdbCoda.Model.Client
import DuckdbCoda.Model.Values

/-!
# A mock Coda server

The remote side of `tests.rs`: an SDK that builds the requests the mock server
knows (with the status it answers them with), a server that plays back a list
of replies, and a codec that knows the texts it is given. Concrete runs are
made against it.
-/

namespace DuckdbCoda

def mockTablePath (endpoint docId tableId : String) : String :=
  endpoint ++ "/docs/" ++ docId ++ "/tables/" ++ tableId

/-- Lists are answered with 200, mutations with 202. -/
def mockBuild (endpoint : String) : Operation → Request
  | .listTables input =>
      { operation := "listTables", method := "GET"
        url := endpoint ++ "/docs/" ++ input.docId ++ "/tables"
        body := none, expectedStatus := 200 }
  | .listColumns input =>
      { operation := "listColumns", method := "GET"
        url := mockTablePath endpoint input.docId input.tableIdOrName ++ "/columns"
        body := none, expectedStatus := 200 }
  | .listRows input =>
      { operation := "listRows", method := "GET"
        url := mockTablePath endpoint input.docId input.tableIdOrName ++ "/rows"
        body := none, expectedStatus := 200 }
  | .upsertRows input =>
      { operation := "upsertRows", method := "POST"
        url := mockTablePath endpoint input.docId input.tableIdOrName ++ "/rows"
        body := some input.payload, expectedStatus := 202 }
  | .updateRow input =>
      { operation := "updateRow", method := "PUT"
        url := mockTablePath endpoint input.docId input.tableIdOrName ++ "/rows/" ++
          input.rowIdOrName
        body := some input.payload, expectedStatus := 202 }
  | .deleteRows input =>
      { operation := "deleteRows", method := "DELETE"
        url := mockTablePath endpoint input.docId input.tableIdOrName ++ "/rows"
        body := some input.payload, expectedStatus := 202 }

def mockSdk : Sdk where
  defaultBaseUrl := "http://127.0.0.1"
  build endpoint operation := .ok (mockBuild endpoint operation)

/-- A codec that reads the texts of a table, and prints them. -/
def mockSerde (texts : List (String × Json)) (print : Json → String) : SerdeJson where
  fromStr body := okOr "expected value" ((texts.find? fun text => text.1 = body).map Prod.snd)
  toString := print

/-- A server that plays back replies, and then refuses to answer. -/
def mockRespond (replies : List HttpReply) (_ : String) (_ : Request) :
    HttpReply × List HttpReply :=
  match replies with
  | [] => (.failed "connection refused", [])
  | reply :: rest => (reply, rest)

def mockRemote (serde : SerdeJson) : Remote (List HttpReply) where
  sdk := mockSdk
  serde := serde
  respond := mockRespond

def mockConfig : RustExtClientConfig where
  resource := "mock-doc"
  credential := "mock-token"
  endpoint := ""
  includeSystemColumns := false

/-- The world before the first request. -/
def mockWorld (replies : List HttpReply) : World (List HttpReply) := ⟨replies, []⟩

/-- A reply with a readable body. -/
def ok200 (body : String) : HttpReply := .answered 200 (.ok body)

/-! ## The table and the rows of the mock document -/

/-- The table of the mock document, all of whose operations are allowed. -/
def tasksTable : RustExtTable :=
  ⟨"tbl1", "Tasks", tableInsert ||| tableUpdate ||| tableDelete ||| tableRowId⟩

def textColumn (id name : String) : RustExtColumn where
  id := id
  name := name
  typeName := "text"
  capabilities := columnEditable ||| columnFilterEquality
  logicalType := 0

/-- The table with one text column, as the catalog holds it. -/
def tasksInfo : RustBridgeTableInfo :=
  borrowRustBridgeTableInfo (catalogTable tasksTable [textColumn "c_name" "Name"])

/-- A list with one table, and two pages of columns of it. -/
def mockCatalogTexts : List (String × Json) := [
  ("\x7b\"items\":[\x7b\"id\":\"tbl1\",\"name\":\"Tasks\"\x7d]\x7d",
    .object [("items", .array [.object [("id", .string "tbl1"), ("name", .string "Tasks")]])]),
  ("\x7b\"items\":[\x7b\"id\":\"c_name\",\"name\":\"Name\"\x7d],\"nextPageToken\":\"p2\"\x7d",
    .object [("items", .array [.object [("id", .string "c_name"), ("name", .string "Name")]]),
      ("nextPageToken", .string "p2")]),
  ("\x7b\"items\":[\x7b\"id\":\"c_copy\",\"name\":\"Name\"\x7d]\x7d",
    .object [("items", .array [.object [("id", .string "c_copy"), ("name", .string "Name")]])])]

def mockCatalogRemote : Remote (List HttpReply) :=
  mockRemote (mockSerde mockCatalogTexts fun _ => "")

def mockCatalogWorld : World (List HttpReply) :=
  mockWorld (mockCatalogTexts.map fun text => ok200 text.1)

/-- The catalog loaded from them. -/
def mockCatalog : RustExtCatalog :=
  ⟨[catalogTable tasksTable [textColumn "c_name" "Name", textColumn "c_copy" "Name_2"]]⟩

/-- A page of rows with a page token, the last page with a sync token, and a sync
check without news. -/
def mockRowTexts : List (String × Json) := mockCatalogTexts ++ [
  ("\x7b\"items\":[\x7b\"id\":\"r1\"\x7d],\"nextPageToken\":\"p2\"\x7d",
    .object [("items", .array [.object [("id", .string "r1")]]), ("nextPageToken", .string "p2")]),
  ("\x7b\"items\":[\x7b\"id\":\"r2\"\x7d],\"nextSyncToken\":\"s1\"\x7d",
    .object [("items", .array [.object [("id", .string "r2")]]), ("nextSyncToken", .string "s1")]),
  ("\x7b\"items\":[]\x7d", .object [("items", .array [])])]

/-- The replies to an ATTACH. -/
def mockCatalogReplies : List HttpReply := mockCatalogTexts.map fun text => ok200 text.1

/-- The replies to a listing of the rows. -/
def mockRowReplies : List HttpReply := (mockRowTexts.drop 3).map fun text => ok200 text.1

/-- The text of a value without numbers and escapes, to some depth. -/
def mockText : Nat → Json → String
  | _, .null => "null"
  | _, .bool value => if value then "true" else "false"
  | _, .number _ => ""
  | _, .string value => "\"" ++ value ++ "\""
  | depth + 1, .array items => "[" ++ String.intercalate "," (items.map (mockText depth)) ++ "]"
  | depth + 1, .object members =>
      "\x7b" ++ String.intercalate "," (members.map fun (key, value) =>
        "\"" ++ key ++ "\":" ++ mockText depth value) ++ "\x7d"
  | 0, _ => ""

example : mockText 2 (.object [("rowIds", .array [.string "r1", .string "r2"])]) =
    "\x7b\"rowIds\":[\"r1\",\"r2\"]\x7d" := by
  decide

/-- A row without cells. -/
def bareRow (id updatedAt : String) (deleted : Bool) : RustExtRow where
  id := id
  createdAt := ""
  updatedAt := updatedAt
  deleted := deleted
  cells := []

/-- A DuckDB whose casts of text all fail. -/
def mockDuckDb : DuckDb where
  castText _ _ := none
  numberText _ := ""

end DuckdbCoda
