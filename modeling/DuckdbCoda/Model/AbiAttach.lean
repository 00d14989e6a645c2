import DuckdbCoda.Model.AbiClient
import DuckdbCoda.Model.Process

/-!
# ATTACH with its memory

`resolve_attach` once more, and the objects ATTACH leaves: an attached database
owns the strings of its configuration and its catalog. The destructors of the
wrapper classes in `rust_bridge_client.hpp` give them back.
-/

namespace DuckdbCoda.Abi

open Ownership

variable {σ η : Type}

/-! ## `resolve_attach` -/

structure RustExtAttachConfig where
  resource : RustExtString
  credential : RustExtString
  endpoint : RustExtString
  primarySecretScope : RustExtString
  fallbackSecretScope : RustExtString
  includeSystemColumns : Bool

namespace RustExtAttachConfig

def blocks (config : RustExtAttachConfig) : Multiset Nat :=
  config.resource.blocks + config.credential.blocks + config.endpoint.blocks +
    config.primarySecretScope.blocks + config.fallbackSecretScope.blocks

def toValue (config : RustExtAttachConfig) : DuckdbCoda.RustExtAttachConfig where
  resource := config.resource.contents
  credential := config.credential.contents
  endpoint := config.endpoint.contents
  primarySecretScope := config.primarySecretScope.contents
  fallbackSecretScope := config.fallbackSecretScope.contents
  includeSystemColumns := config.includeSystemColumns

/-- `ClientConfig`: the same pointers. -/
def clientConfig (config : RustExtAttachConfig) : RustExtClientConfig where
  resource := config.resource
  credential := config.credential
  endpoint := config.endpoint
  includeSystemColumns := false

end RustExtAttachConfig

/-- What a callback of the host gives away: a text, or an error whose text is
copied and freed. -/
def hostAnswer (answer : Except String String) (memory : Memory) :
    Except String RustExtString × Memory :=
  match answer with
  | .ok text =>
      let (text, memory) := allocString text memory
      (.ok text, memory)
  | .error message =>
      let (message, memory) := allocString message memory
      let (message, memory) := takeToken message memory
      (.error message, memory)

def getOption (host : RustExtAttachHost η) (name : String) (world : HostWorld η)
    (memory : Memory) : Except String RustExtString × HostWorld η × Memory :=
  let (answer, state) := host.getOption world.state name
  let (result, memory) := hostAnswer answer memory
  (result.mapError (hostError "host attach option failed"),
    { state, calls := world.calls ++ [⟨.getOption name, answer⟩] }, memory)

def lookupSecret (host : RustExtAttachHost η) (scope : RustExtString) (world : HostWorld η)
    (memory : Memory) : Except String RustExtString × HostWorld η × Memory :=
  let (scopeText, memory) := asStr scope memory
  let (answer, state) := host.lookupSecret world.state scopeText secretType tokenOption
  let (result, memory) := hostAnswer answer memory
  (result.mapError (hostError "host secret lookup failed"),
    { state, calls := world.calls ++ [⟨.lookupSecret scopeText secretType tokenOption, answer⟩] },
    memory)

/-- The record: five strings of its own. -/
def attachConfig (sdk : Sdk) (resource credential endpoint : String)
    (includeSystemColumns : Bool) (memory : Memory) : RustExtAttachConfig × Memory :=
  let config := DuckdbCoda.attachConfig sdk resource credential endpoint includeSystemColumns
  let (resource, memory) := allocString config.resource memory
  let (credential, memory) := allocString config.credential memory
  let (endpoint, memory) := allocString config.endpoint memory
  let (primarySecretScope, memory) := allocString config.primarySecretScope memory
  let (fallbackSecretScope, memory) := allocString config.fallbackSecretScope memory
  ({ resource, credential, endpoint, primarySecretScope, fallbackSecretScope,
     includeSystemColumns }, memory)

/-- The record is not freed on the way out of a failure. -/
def resolveCredential (host : RustExtAttachHost η) (result : RustExtAttachConfig)
    (world : HostWorld η) (memory : Memory) :
    Except String RustExtAttachConfig × HostWorld η × Memory :=
  let (credential, memory) := asStr result.credential memory
  if credential.isEmpty then
    match lookupSecret host result.primarySecretScope world memory with
    | (.error message, world, memory) => (.error message, world, memory)
    | (.ok secretToken, world, memory) =>
        let (text, memory) := asStr secretToken memory
        if !text.isEmpty then (.ok { result with credential := secretToken }, world, memory)
        else
          match lookupSecret host result.fallbackSecretScope world (secretToken.release memory) with
          | (.error message, world, memory) => (.error message, world, memory)
          | (.ok fallbackToken, world, memory) =>
              let (text, memory) := asStr fallbackToken memory
              if text.isEmpty then
                (.error "missing credential", world, fallbackToken.release memory)
              else (.ok { result with credential := fallbackToken }, world, memory)
  else (.ok result, world, memory)

/-- The options are freed once the record is made, but not before a failure. -/
def resolveAttach (sdk : Sdk) (host : RustExtAttachHost η) (path : String) (world : HostWorld η)
    (memory : Memory) : Except String RustExtAttachConfig × HostWorld η × Memory :=
  match getOption host tokenOption world memory with
  | (.error message, world, memory) => (.error message, world, memory)
  | (.ok credential, world, memory) =>
      match getOption host apiBaseOption world memory with
      | (.error message, world, memory) => (.error message, world, memory)
      | (.ok endpoint, world, memory) =>
          match getOption host includeRowMetadataOption world memory with
          | (.error message, world, memory) => (.error message, world, memory)
          | (.ok includeRowMetadata, world, memory) =>
              let resource := attachResource path
              if resource.isEmpty then (.error "empty doc id", world, memory)
              else
                let (spelling, memory) := asStr includeRowMetadata memory
                match includeSystemColumns spelling with
                | none => (.error "invalid boolean attach option", world, memory)
                | some included =>
                    let (credentialText, memory) := asStr credential memory
                    let (endpointText, memory) := asStr endpoint memory
                    let (result, memory) :=
                      attachConfig sdk resource credentialText endpointText included memory
                    let memory := endpoint.release (credential.release memory)
                    resolveCredential host result world (includeRowMetadata.release memory)

/-! ## Objects of the C++ side -/

/-- An error of an exported function: it is given away as text and becomes an
exception once it is copied and freed (`TakeRustBridgeErrorMessage`). -/
def takeError {α : Type} (context : String) (answer : Except String α) (memory : Memory) :
    Except Exception α × Memory :=
  match ffiBool context answer with
  | .ok value => (.ok value, memory)
  | .error message =>
      let (message, memory) := allocString message memory
      let (message, memory) := takeToken message memory
      (.error (.invalidInput message), memory)

/-- `rust_ext_free_attach_config`. -/
def freeAttachConfig (config : RustExtAttachConfig) (memory : Memory) : Memory :=
  let memory := config.endpoint.release (config.credential.release (config.resource.release memory))
  config.fallbackSecretScope.release (config.primarySecretScope.release memory)

structure RustBridgeCatalog where
  attachConfig : RustExtAttachConfig
  catalogInfo : RustExtCatalog

namespace RustBridgeCatalog

def blocks (catalog : RustBridgeCatalog) : Multiset Nat :=
  catalog.attachConfig.blocks + catalog.catalogInfo.blocks

def toValue (catalog : RustBridgeCatalog) : DuckdbCoda.RustBridgeCatalog where
  attachConfig := catalog.attachConfig.toValue
  catalogInfo := catalog.catalogInfo.toValue

def client (catalog : RustBridgeCatalog) : RustExtClientConfig := catalog.attachConfig.clientConfig

/-- The destructor: members go in the reverse order. -/
def destroy (catalog : RustBridgeCatalog) (memory : Memory) : Memory :=
  freeAttachConfig catalog.attachConfig (freeCatalog catalog.catalogInfo memory)

end RustBridgeCatalog

def listTables (fuel : Nat) (remote : Remote σ) (config : RustExtClientConfig)
    (includeSystemColumns : Bool) (world : World σ) (memory : Memory) :
    Option (Except Exception RustExtCatalog × World σ × Memory) :=
  (loadCatalog fuel remote { config with includeSystemColumns } world memory).map
    fun (answer, world, memory) =>
      let (answer, memory) := takeError "failed to load Coda catalog" answer memory
      (answer, world, memory)

/-- An exception in the constructor of the catalog destroys the configuration. -/
def rustBridgeAttach (fuel : Nat) (remote : Remote σ) (duckdb : DuckDb)
    (context : AttachHostContext) (path : String) (world : World σ) (memory : Memory) :
    Option (Except Exception RustBridgeCatalog × World σ × Memory) :=
  let (answer, _, memory) := resolveAttach remote.sdk (attachHost duckdb) path ⟨context, []⟩ memory
  match takeError "failed to resolve Coda attach config" answer memory with
  | (.error exception, memory) => some (.error exception, world, memory)
  | (.ok attachConfig, memory) =>
      (listTables fuel remote attachConfig.clientConfig attachConfig.includeSystemColumns world
        memory).map fun
          | (.error exception, world, memory) =>
              (.error exception, world, freeAttachConfig attachConfig memory)
          | (.ok catalogInfo, world, memory) => (.ok { attachConfig, catalogInfo }, world, memory)

end DuckdbCoda.Abi
