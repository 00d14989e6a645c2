import DuckdbCoda.Lib.AsciiCase
import DuckdbCoda.Lib.KeyedMap
import DuckdbCoda.Model.Process

/-!
# Loading the extension, and its secrets

LOAD registers the secret type `coda` and the storage extension with DuckDB
(`rust_ext_extension_load`, `rust_bridge_extension.cpp`). CREATE SECRET calls
`CreateConfigSecret` when DuckDB has it registered, and the secret manager of
DuckDB keeps what it returns. A database instance is a process together with the
secrets its ATTACHs find.
-/

namespace DuckdbCoda

open AsciiCase

variable {σ : Type}

/-! ## Names of `constants.rs` -/

def extensionName : String := "coda"
def extensionDescription : String := "DuckDB extension for reading and writing Coda docs"
def secretProvider : String := "config"

/-! ## `rust_ext_extension_load` -/

structure RustBridgeSecretConfig where
  provider : String
  extension : String
  defaultScope : String
  secretKey : String
  deriving DecidableEq

/-- `SecretConfigs()`, by secret type. It outlives every load. -/
abbrev SecretConfigs := KeyedMap (id : String → String) RustBridgeSecretConfig

structure SecretType where
  name : String
  defaultProvider : String
  extension : String

structure CreateSecretFunction where
  secretType : String
  provider : String
  namedParameters : List (String × LogicalType)

/-- What is registered: the map of the extension, and the functions that DuckDB has
taken. -/
structure Registrations where
  configs : SecretConfigs
  functions : List CreateSecretFunction

/-- What DuckDB answers to the registrations of a load; each may throw. -/
structure ExtensionLoader where
  setDescription : String → Except String Unit
  registerSecretType : SecretType → Except String Unit
  registerFunction : CreateSecretFunction → Except String Unit
  registerStorageExtension : String → Except String Unit

def hostRegisterConfigSecret (loader : ExtensionLoader)
    (secretType provider extension defaultScope secretKey : String)
    (registrations : Registrations) : Except String Unit × Registrations :=
  let registrations := { registrations with
    configs := registrations.configs.insert secretType
      { provider, extension, defaultScope, secretKey } }
  -- the configuration stays when a registration throws
  match loader.registerSecretType { name := secretType, defaultProvider := provider, extension } with
  | .error message => (.error message, registrations)
  | .ok () =>
      let function := { secretType, provider, namedParameters := [(secretKey, .varchar)] }
      match loader.registerFunction function with
      | .error message => (.error message, registrations)
      | .ok () =>
          (.ok (), { registrations with functions := registrations.functions ++ [function] })

/-- The errors of the callbacks are overwritten with one that names the step. -/
def extensionLoad (loader : ExtensionLoader) (registrations : Registrations) :
    Except String Unit × Registrations :=
  match loader.setDescription extensionDescription with
  | .error _ => (.error "failed to set extension description", registrations)
  | .ok () =>
      match hostRegisterConfigSecret loader secretType secretProvider extensionName
          secretScopePrefix tokenOption registrations with
      | (.error _, registrations) => (.error "failed to register config secret", registrations)
      | (.ok (), registrations) =>
          match loader.registerStorageExtension extensionName with
          | .error _ => (.error "failed to register storage extension", registrations)
          | .ok () => (.ok (), registrations)

def loadFromRustBridge (loader : ExtensionLoader) (registrations : Registrations) :
    Except Exception Unit × Registrations :=
  let (result, registrations) := extensionLoad loader registrations
  ((ffiBool "failed to load Coda extension" result).mapError .invalidInput, registrations)

/-! ## `CreateConfigSecret` -/

/-- `provider` is the default one of the type when the statement names none. -/
structure CreateSecretInput where
  type : String
  provider : String
  name : String
  scope : List String
  options : List (String × Value)

/-- The map is keyed by identifiers, which DuckDB compares ignoring case. -/
structure KeyValueSecret where
  scope : List String
  type : String
  provider : String
  name : String
  secretMap : KeyedMap foldCase Value
  redactKeys : List String

def secretConfigMissingMessage (secretType : String) : String :=
  "No Coda secret configuration registered for type: " ++ secretType

def unknownSecretParameterMessage (secretType parameterName : String) : String :=
  "Unknown named parameter for " ++ secretType ++ " secret: " ++ parameterName

/-- The key for a parameter of that name, or the empty text. -/
def canonicalSecretParameterName (secretKey parameterName : String) : String :=
  if eqIgnoreAsciiCase secretKey parameterName then secretKey else ""

/-- The loop over the options. -/
def secretMapOf (duckdb : DuckDb) (config : RustBridgeSecretConfig) (secretType : String) :
    List (String × Value) → KeyedMap foldCase Value → Except Exception (KeyedMap foldCase Value)
  | [], secretMap => .ok secretMap
  | (name, value) :: rest, secretMap =>
      let canonicalName := canonicalSecretParameterName config.secretKey name
      if !canonicalName.isEmpty then
        secretMapOf duckdb config secretType rest
          (secretMap.insert canonicalName (.varchar (duckdb.toString value)))
      else .error (.invalidInput (unknownSecretParameterMessage secretType name))

def createConfigSecret (duckdb : DuckDb) (configs : SecretConfigs) (input : CreateSecretInput) :
    Except Exception KeyValueSecret :=
  match configs.find? input.type with
  | none => .error (.invalidInput (secretConfigMissingMessage input.type))
  | some config =>
      (secretMapOf duckdb config input.type input.options .empty).map fun secretMap => {
        scope := if input.scope.isEmpty then [config.defaultScope] else input.scope
        type := input.type
        provider := input.provider
        name := input.name
        secretMap
        redactKeys := [config.secretKey] }

/-! ## The secret manager of DuckDB -/

/-- The secrets by name. -/
abbrev Secrets := KeyedMap foldCase KeyValueSecret

/-- The secret has a scope the path begins with. -/
def KeyValueSecret.InScope (secret : KeyValueSecret) (path : String) : Prop :=
  ∃ scope ∈ secret.scope, scope.toList <+: path.toList

/-- `SecretManager::LookupSecret`: which of the matching secrets it finds is its
own affair. `missingKey` is the text of what `TryGetValue` throws, and
`missingFunction` what `CreateSecret` throws when it has no function to call. -/
structure SecretManager where
  lookupSecret : Secrets → (path secretType : String) → Option KeyValueSecret
  missingKey : KeyValueSecret → (key : String) → String
  missingFunction : CreateSecretInput → Exception
  sound : ∀ {secrets path secretType secret}, lookupSecret secrets path secretType = some secret →
    secret ∈ secrets.values ∧ secret.type = secretType ∧ secret.InScope path
  complete : ∀ {secrets path secretType secret}, secret ∈ secrets.values →
    secret.type = secretType → secret.InScope path →
    (lookupSecret secrets path secretType).isSome

def KeyValueSecret.tryGetValue (manager : SecretManager) (secret : KeyValueSecret) (key : String) :
    Except String Value :=
  match secret.secretMap.find? key with
  | some value => .ok value
  | none => .error (manager.missingKey secret key)

/-- The function is the one for the type and the provider of the statement. -/
def CreateSecretFunction.serves (function : CreateSecretFunction) (input : CreateSecretInput) :
    Bool :=
  eqIgnoreAsciiCase function.secretType input.type &&
    eqIgnoreAsciiCase function.provider input.provider

/-- `SecretManager::CreateSecret`, as far as calling the function: every function that
is registered here is `CreateConfigSecret`. -/
def SecretManager.createSecret (manager : SecretManager) (duckdb : DuckDb)
    (registrations : Registrations) (input : CreateSecretInput) :
    Except Exception KeyValueSecret :=
  if registrations.functions.any fun function => function.serves input then
    createConfigSecret duckdb registrations.configs input
  else .error (manager.missingFunction input)

/-- The context of an ATTACH with these options. -/
def SecretManager.attachContext (manager : SecretManager) (secrets : Secrets)
    (options : String → Option Value) : AttachHostContext where
  options := options
  lookupSecret scope secretType := .ok ((manager.lookupSecret secrets scope secretType).map
    fun secret => .keyValue (secret.tryGetValue manager))

/-! ## The instance -/

structure DatabaseInstance (σ : Type) where
  registrations : Registrations
  secrets : Secrets
  process : Process σ

/-- CREATE SECRET is CREATE OR REPLACE SECRET; DuckDB does not call the extension
with a name that is taken otherwise. -/
inductive InstanceEvent (σ : Type) where
  | load (loader : ExtensionLoader)
  | createSecret (input : CreateSecretInput)
  | dropSecret (name : String)
  | attach (options : String → Option Value) (path : String)
  | statement (event : ProcessEvent σ)

namespace DatabaseInstance

/-- One event. An ATTACH finds the secrets there are, and is no `statement`. -/
def step (fuel : Nat) (env : Environment σ) (manager : SecretManager)
    (database : DatabaseInstance σ) :
    InstanceEvent σ → Option (DatabaseInstance σ × ProcessAnswer)
  | .load loader =>
      let (answer, registrations) := loadFromRustBridge loader database.registrations
      some ({ database with registrations }, answer.map fun _ => [])
  | .createSecret input =>
      -- an exception leaves the secret of that name as it was
      match manager.createSecret env.duckdb database.registrations input with
      | .error exception => some (database, .error exception)
      | .ok secret =>
          some ({ database with secrets := database.secrets.insert input.name secret }, .ok [])
  | .dropSecret name => some ({ database with secrets := database.secrets.erase name }, .ok [])
  | .attach options path =>
      (database.process.step fuel env
        (.attach (manager.attachContext database.secrets options) path)).map
        fun (process, answer) => ({ database with process }, answer)
  | .statement (.attach _ _) => none
  | .statement event =>
      (database.process.step fuel env event).map fun (process, answer) =>
        ({ database with process }, answer)

/-- An instance with no secrets of earlier sessions. -/
def start (server : σ) : DatabaseInstance σ := ⟨⟨.empty, []⟩, .empty, .start server⟩

def run (fuel : Nat) (env : Environment σ) (manager : SecretManager)
    (database : DatabaseInstance σ) (events : List (InstanceEvent σ)) :
    Option (DatabaseInstance σ × List (InstanceEvent σ × ProcessAnswer)) :=
  History.runSteps (fun database event =>
    (database.step fuel env manager event).map fun (database, answer) =>
      (database, (event, answer))) database events

end DatabaseInstance

end DuckdbCoda
