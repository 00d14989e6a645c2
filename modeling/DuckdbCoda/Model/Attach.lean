import DuckdbCoda.Model.Sdk
import DuckdbCoda.Model.Values

/-!
# Resolving an ATTACH

`attach.rs` asks its host for three options and, while it has no credential, for
two secrets. The host is an arbitrary state machine that answers or fails; the
calls made so far are kept in `HostWorld.calls`, oldest first. At the end is the
host that `rust_bridge_storage.cpp` passes.
-/

namespace DuckdbCoda

/-! ## Names of `constants.rs` -/

def secretType : String := "coda"
def secretScopePrefix : String := "coda:"
def tokenOption : String := "token"
def apiBaseOption : String := "api_base"
def includeRowMetadataOption : String := "include_row_metadata"

/-! ## The host -/

structure RustExtAttachConfig where
  resource : String
  credential : String
  endpoint : String
  primarySecretScope : String
  fallbackSecretScope : String
  includeSystemColumns : Bool
  deriving DecidableEq

/-- `RustExtAttachHost` with what its `userdata` holds. A callback answers with
a text, or returns false with the text of its error. -/
structure RustExtAttachHost (η : Type) where
  getOption : η → (name : String) → Except String String × η
  lookupSecret : η → (scope secretType secretKey : String) → Except String String × η

inductive HostCall where
  | getOption (name : String)
  | lookupSecret (scope secretType secretKey : String)
  deriving DecidableEq

/-- A call of the host with what it answered. -/
structure HostExchange where
  call : HostCall
  answer : Except String String

/-- The state of the host and the calls made so far. -/
structure HostWorld (η : Type) where
  state : η
  calls : List HostExchange

variable {η : Type}

/-- The error of a callback, or the one that stands for an empty text. -/
def hostError (default message : String) : String :=
  if message.isEmpty then default else message

def getOption (host : RustExtAttachHost η) (name : String) (world : HostWorld η) :
    Except String String × HostWorld η :=
  let (answer, state) := host.getOption world.state name
  (answer.mapError (hostError "host attach option failed"),
    { state, calls := world.calls ++ [⟨.getOption name, answer⟩] })

def lookupSecret (host : RustExtAttachHost η) (scope : String) (world : HostWorld η) :
    Except String String × HostWorld η :=
  let (answer, state) := host.lookupSecret world.state scope secretType tokenOption
  (answer.mapError (hostError "host secret lookup failed"),
    { state, calls := world.calls ++ [⟨.lookupSecret scope secretType tokenOption, answer⟩] })

/-! ## `resolve_attach` -/

/-- `path.strip_prefix("coda:").unwrap_or(path)`. -/
def attachResource (path : String) : String :=
  match secretScopePrefix.toList.isPrefixOf? path.toList with
  | some rest => String.ofList rest
  | none => path

/-- The spellings of `include_row_metadata`. -/
def includeSystemColumns : String → Option Bool
  | "" | "false" | "FALSE" | "False" | "0" => some false
  | "true" | "TRUE" | "True" | "1" => some true
  | _ => none

/-- The record, with the credential of the token option. -/
def attachConfig (sdk : Sdk) (resource credential endpoint : String)
    (includeSystemColumns : Bool) : RustExtAttachConfig where
  resource := resource
  credential := credential
  endpoint := normalizeApiBase (if endpoint.isEmpty then sdk.defaultBaseUrl else endpoint)
  primarySecretScope := secretScopePrefix ++ resource
  fallbackSecretScope := secretScopePrefix
  includeSystemColumns := includeSystemColumns

/-- The end of `resolve_attach`: the secrets, for want of a token option. -/
def resolveCredential (host : RustExtAttachHost η) (result : RustExtAttachConfig)
    (world : HostWorld η) : Except String RustExtAttachConfig × HostWorld η :=
  if result.credential.isEmpty then
    match lookupSecret host result.primarySecretScope world with
    | (.error message, world) => (.error message, world)
    | (.ok secretToken, world) =>
        if !secretToken.isEmpty then (.ok { result with credential := secretToken }, world)
        else
          match lookupSecret host result.fallbackSecretScope world with
          | (.error message, world) => (.error message, world)
          | (.ok fallbackToken, world) =>
              if fallbackToken.isEmpty then (.error "missing credential", world)
              else (.ok { result with credential := fallbackToken }, world)
  else (.ok result, world)

def resolveAttach (sdk : Sdk) (host : RustExtAttachHost η) (path : String)
    (world : HostWorld η) : Except String RustExtAttachConfig × HostWorld η :=
  match getOption host tokenOption world with
  | (.error message, world) => (.error message, world)
  | (.ok credential, world) =>
      match getOption host apiBaseOption world with
      | (.error message, world) => (.error message, world)
      | (.ok endpoint, world) =>
          match getOption host includeRowMetadataOption world with
          | (.error message, world) => (.error message, world)
          | (.ok includeRowMetadata, world) =>
              let resource := attachResource path
              if resource.isEmpty then (.error "empty doc id", world)
              else
                match includeSystemColumns includeRowMetadata with
                | none => (.error "invalid boolean attach option", world)
                | some included =>
                    resolveCredential host
                      (attachConfig sdk resource credential endpoint included) world

/-- `rust_ext_resolve_attach` and the exception `ResolveAttachConfig` makes of
its error. -/
def resolveAttachConfig (sdk : Sdk) (host : RustExtAttachHost η) (path : String) (state : η) :
    Except Exception RustExtAttachConfig :=
  (ffiBool "failed to resolve Coda attach config"
    (resolveAttach sdk host path ⟨state, []⟩).1).mapError .invalidInput

/-! ## The host of DuckDB -/

/-- A secret: `TryGetValue` throws on a key it does not have. -/
inductive DuckDbSecret where
  | keyValue (tryGetValue : String → Except String Value)
  | other

/-- `AttachHostContext`: the options of the statement by name, and the match of
`SecretManager::LookupSecret`. -/
structure AttachHostContext where
  options : String → Option Value
  lookupSecret : (scope secretType : String) → Except String (Option DuckDbSecret)

def hostGetAttachOption (duckdb : DuckDb) (context : AttachHostContext) (name : String) :
    Except String String :=
  match context.options name with
  | none => .ok ""
  | some value => if value.isNull then .ok "" else .ok (duckdb.toString value)

def hostLookupSecret (duckdb : DuckDb) (context : AttachHostContext)
    (scope secretType secretKey : String) : Except String String :=
  match context.lookupSecret scope secretType with
  | .error message => .error message
  | .ok none => .ok ""
  | .ok (some .other) => .error "std::bad_cast"
  | .ok (some (.keyValue tryGetValue)) => (tryGetValue secretKey).map duckdb.toString

def attachHost (duckdb : DuckDb) : RustExtAttachHost AttachHostContext where
  getOption context name := (hostGetAttachOption duckdb context name, context)
  lookupSecret context scope secretType secretKey :=
    (hostLookupSecret duckdb context scope secretType secretKey, context)

end DuckdbCoda
