import DuckdbCoda.Model.Json

/-!
# Requests and the remote side

The SDK and the HTTP transport are third-party code. The SDK turns the input
record of an operation into a `Request` or fails (`Sdk.build`); the server is
an arbitrary state machine that answers one request after the other
(`Remote.respond`). Everything that was put on the wire is kept in
`World.log`, oldest first, so a statement about requests is a statement about
the log.
-/

namespace DuckdbCoda

/-! ## Operations of the SDK -/

structure ListTablesInput where
  docId : String
  limit : Option Nat
  pageToken : Option String
  deriving DecidableEq

structure ListColumnsInput where
  docId : String
  tableIdOrName : String
  limit : Option Nat
  pageToken : Option String
  visibleOnly : Option Bool
  deriving DecidableEq

structure ListRowsInput where
  docId : String
  tableIdOrName : String
  query : Option String
  sortBy : Option String
  useColumnNames : Option Bool
  valueFormat : Option String
  visibleOnly : Option Bool
  limit : Option Nat
  pageToken : Option String
  syncToken : Option String
  deriving DecidableEq

structure UpsertRowsInput where
  docId : String
  tableIdOrName : String
  disableParsing : Option Bool
  payload : String
  deriving DecidableEq

structure UpdateRowInput where
  docId : String
  tableIdOrName : String
  rowIdOrName : String
  disableParsing : Option Bool
  payload : String
  deriving DecidableEq

structure DeleteRowsInput where
  docId : String
  tableIdOrName : String
  payload : String
  deriving DecidableEq

/-- The operations the extension asks the SDK to build. -/
inductive Operation where
  | listTables (input : ListTablesInput)
  | listColumns (input : ListColumnsInput)
  | listRows (input : ListRowsInput)
  | upsertRows (input : UpsertRowsInput)
  | updateRow (input : UpdateRowInput)
  | deleteRows (input : DeleteRowsInput)
  deriving DecidableEq

/-- The POST, PUT and DELETE requests on rows. -/
def Operation.isMutation : Operation → Bool
  | .upsertRows _ | .updateRow _ | .deleteRows _ => true
  | _ => false

/-- The table a request addresses; none for the table list itself. -/
def Operation.tableId : Operation → Option String
  | .listTables _ => none
  | .listColumns input => some input.tableIdOrName
  | .listRows input => some input.tableIdOrName
  | .upsertRows input => some input.tableIdOrName
  | .updateRow input => some input.tableIdOrName
  | .deleteRows input => some input.tableIdOrName

/-- A request as the SDK hands it to the transport. -/
structure Request where
  operation : String
  method : String
  url : String
  body : Option String
  expectedStatus : Nat
  deriving DecidableEq

/-- The request builders of the SDK, given the endpoint. -/
structure Sdk where
  defaultBaseUrl : String
  build : String → Operation → Except String Request

/-! ## The transport -/

/-- What the agent makes of a request: a failure, which is what it calls every
status from 400 on too, or a status and a body that may itself fail to be
read. -/
inductive HttpReply where
  | failed (message : String)
  | answered (status : Nat) (body : Except String String)

/-- The remote side: the SDK, the JSON codec and a server with its own state. -/
structure Remote (σ : Type) where
  sdk : Sdk
  serde : SerdeJson
  respond : σ → (credential : String) → Request → HttpReply × σ

/-- One request on the wire with what it met. -/
structure Exchange where
  operation : Operation
  request : Request
  reply : HttpReply

/-- The server's state and the requests sent so far. -/
structure World (σ : Type) where
  server : σ
  log : List Exchange

/-- The requests sent between two worlds. -/
def sentSince {σ : Type} (before after : World σ) : List Exchange :=
  after.log.drop before.log.length

/-- Answered with the expected status. -/
def Exchange.accepted (exchange : Exchange) : Bool :=
  match exchange.reply with
  | .failed _ => false
  | .answered status _ => status == exchange.request.expectedStatus

/-! ## `sdk.rs` -/

/-- `base.trim_end_matches('/')`. -/
def normalizeApiBase (base : String) : String :=
  String.ofList (base.toList.reverse.dropWhile (· == '/')).reverse

def endpoint (sdk : Sdk) (config : RustExtClientConfig) : String :=
  normalizeApiBase (if config.endpoint.isEmpty then sdk.defaultBaseUrl else config.endpoint)

def nonEmptyString (value : String) : Option String :=
  if value.isEmpty then none else some value

/-- The outcome `send_request` makes of a reply. -/
def replyBody (request : Request) : HttpReply → Except String String
  | .failed message => .error message
  | .answered status body =>
      if status != request.expectedStatus then
        .error (request.operation ++ " returned HTTP " ++ Nat.repr status ++ ", expected " ++
          Nat.repr request.expectedStatus)
      else body

variable {σ : Type}

def sendRequest (remote : Remote σ) (config : RustExtClientConfig) (operation : Operation)
    (request : Request) (world : World σ) : Except String String × World σ :=
  let (reply, server) := remote.respond world.server config.credential request
  (replyBody request reply,
    { server, log := world.log ++ [{ operation, request, reply }] })

/-- Build an operation and send it: `build_x(..)?` followed by
`send_request(..)`. A builder failure sends nothing. -/
def perform (remote : Remote σ) (config : RustExtClientConfig) (operation : Operation)
    (world : World σ) : Except String String × World σ :=
  match remote.sdk.build (endpoint remote.sdk config) operation with
  | .error message => (.error message, world)
  | .ok request => sendRequest remote config operation request world

/-! ## What one request does -/

/-- A request adds at most itself to the log, and a body read means that it was
accepted. -/
theorem perform_cases (remote : Remote σ) (config : RustExtClientConfig)
    (operation : Operation) (world : World σ) :
    (∃ message, remote.sdk.build (endpoint remote.sdk config) operation = .error message ∧
      perform remote config operation world = (.error message, world)) ∨
    ∃ request reply server,
      remote.sdk.build (endpoint remote.sdk config) operation = .ok request ∧
      remote.respond world.server config.credential request = (reply, server) ∧
      perform remote config operation world =
        (replyBody request reply,
          { server, log := world.log ++ [{ operation, request, reply }] }) := by
  unfold perform
  cases hbuild : remote.sdk.build (endpoint remote.sdk config) operation with
  | error message => exact .inl ⟨message, rfl, rfl⟩
  | ok request => exact .inr ⟨request, _, _, rfl, rfl, rfl⟩

end DuckdbCoda
