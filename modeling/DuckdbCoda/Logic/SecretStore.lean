import DuckdbCoda.Model.Secrets
import DuckdbCoda.Theorems.ProcessRequests

/-!
# What an instance knows of its secrets

CREATE SECRET finds its function exactly after a LOAD whose registrations of it
returned (`WellRegistered`), and every secret was made by a CREATE SECRET, of its
TOKEN parameters and nothing else (`WellGiven`).
-/

namespace DuckdbCoda

open AsciiCase History

variable {σ : Type} {env : Environment σ} {manager : SecretManager} {fuel : Nat} {duckdb : DuckDb}

/-! ## One load -/

/-- The one configuration that is ever registered. -/
def codaSecretConfig : RustBridgeSecretConfig where
  provider := secretProvider
  extension := extensionName
  defaultScope := secretScopePrefix
  secretKey := tokenOption

/-- The one secret type that is ever registered, and its one function. -/
def codaSecretType : SecretType where
  name := secretType
  defaultProvider := secretProvider
  extension := extensionName

def codaSecretFunction : CreateSecretFunction where
  secretType := secretType
  provider := secretProvider
  namedParameters := [(tokenOption, .varchar)]

/-- The load registers the secret type and its function, whatever comes after it. -/
structure ExtensionLoader.Registers (loader : ExtensionLoader) : Prop where
  description : loader.setDescription extensionDescription = .ok ()
  type : loader.registerSecretType codaSecretType = .ok ()
  function : loader.registerFunction codaSecretFunction = .ok ()

/-- The configuration is there before anything may fail after it, the function only
when nothing has. -/
theorem loadFromRustBridge_registrations (loader : ExtensionLoader)
    (registrations : Registrations) :
    (loader.Registers ∧ (loadFromRustBridge loader registrations).2 =
        ⟨registrations.configs.insert secretType codaSecretConfig,
          registrations.functions ++ [codaSecretFunction]⟩) ∨
      (¬ loader.Registers ∧
        ((loadFromRustBridge loader registrations).2 = registrations ∨
          (loadFromRustBridge loader registrations).2 =
            { registrations with
              configs := registrations.configs.insert secretType codaSecretConfig })) := by
  simp only [loadFromRustBridge, extensionLoad]
  cases hdescription : loader.setDescription extensionDescription with
  | error message =>
      refine .inr ⟨fun h => ?_, .inl rfl⟩
      cases hdescription.symm.trans h.description
  | ok done =>
      simp only [hostRegisterConfigSecret]
      cases htype : loader.registerSecretType _ with
      | error message =>
          -- the map was written first, and nobody takes it back
          refine .inr ⟨fun h => ?_, .inr rfl⟩
          cases htype.symm.trans h.type
      | ok done =>
          dsimp only
          cases hfunction : loader.registerFunction _ with
          | error message =>
              refine .inr ⟨fun h => ?_, .inr rfl⟩
              cases hfunction.symm.trans h.function
          | ok done =>
              -- a failure of the last step undoes nothing either
              refine .inl ⟨⟨hdescription, htype, hfunction⟩, ?_⟩
              dsimp only
              cases loader.registerStorageExtension extensionName <;> rfl

/-! ## One secret -/

/-- The parameter is the token, in whatever case. -/
def isTokenParameter (parameter : String × Value) : Bool :=
  eqIgnoreAsciiCase tokenOption parameter.1

/-- The loop stops at the first parameter that is not the token. -/
theorem secretMapOf_cons (secretType : String) (parameter : String × Value)
    (rest : List (String × Value)) (secretMap : KeyedMap foldCase Value) :
    secretMapOf duckdb codaSecretConfig secretType (parameter :: rest) secretMap =
      if isTokenParameter parameter then
        secretMapOf duckdb codaSecretConfig secretType rest
          (secretMap.insert tokenOption (.varchar (duckdb.toString parameter.2)))
      else .error (.invalidInput (unknownSecretParameterMessage secretType parameter.1)) := by
  by_cases htoken : isTokenParameter parameter = true
  · have hname : canonicalSecretParameterName codaSecretConfig.secretKey parameter.1 =
        tokenOption := if_pos htoken
    have hkey : tokenOption.isEmpty = false := by decide
    simp [secretMapOf, hname, hkey, htoken]
  · have hname : canonicalSecretParameterName codaSecretConfig.secretKey parameter.1 = "" :=
      if_neg htoken
    simp [secretMapOf, hname, htoken]

/-- The first parameter that is not the token. -/
def firstUnknown (parameters : List (String × Value)) : Option (String × Value) :=
  parameters.find? fun parameter => !isTokenParameter parameter

theorem secretMapOf_error (secretType : String) {parameters : List (String × Value)}
    {parameter : String × Value} (h : firstUnknown parameters = some parameter) :
    ∀ secretMap, secretMapOf duckdb codaSecretConfig secretType parameters secretMap =
      .error (.invalidInput (unknownSecretParameterMessage secretType parameter.1)) := by
  induction parameters with
  | nil => cases h
  | cons first rest ih =>
      intro secretMap
      rw [secretMapOf_cons]
      by_cases htoken : isTokenParameter first = true
      · rw [if_pos htoken]
        refine ih ?_ _
        simpa [firstUnknown, htoken] using h
      · rw [if_neg htoken]
        have hfirst : first = parameter := by simpa [firstUnknown, htoken] using h
        rw [hfirst]

/-- The text of the last parameter. -/
def lastText (duckdb : DuckDb) (parameters : List (String × Value)) : Option Value :=
  parameters.getLast?.map fun parameter => .varchar (duckdb.toString parameter.2)

/-- Without such a parameter the map holds texts of the parameters, under the key. -/
theorem secretMapOf_ok (secretType : String) {parameters : List (String × Value)}
    (h : firstUnknown parameters = none) :
    ∀ secretMap, ∃ filled,
      secretMapOf duckdb codaSecretConfig secretType parameters secretMap = .ok filled ∧
      filled.find? tokenOption = (lastText duckdb parameters).or (secretMap.find? tokenOption) ∧
      (∀ key ∈ filled.keys, key = tokenOption ∨ key ∈ secretMap.keys) ∧
      ∀ value ∈ filled.values, (∃ parameter ∈ parameters, isTokenParameter parameter = true ∧
        value = .varchar (duckdb.toString parameter.2)) ∨ value ∈ secretMap.values := by
  induction parameters with
  | nil => exact fun secretMap => ⟨secretMap, rfl, rfl, fun _ => .inr, fun _ => .inr⟩
  | cons first rest ih =>
      intro secretMap
      have hnone := List.find?_eq_none.mp h
      have htoken : isTokenParameter first = true := by simpa using hnone first List.mem_cons_self
      have hrest : firstUnknown rest = none := by simpa [firstUnknown, htoken] using h
      obtain ⟨filled, hfilled, hfind, hkeys, hvalues⟩ :=
        ih hrest (secretMap.insert tokenOption (.varchar (duckdb.toString first.2)))
      refine ⟨filled, ?_, ?_, ?_, ?_⟩
      · rw [secretMapOf_cons, if_pos htoken, hfilled]
      · -- each parameter overwrites the one before it
        rw [hfind, KeyedMap.find?_insert, if_pos rfl, lastText, lastText, List.getLast?_cons]
        cases rest.getLast? <;> rfl
      · intro key hkey
        rcases hkeys key hkey with hsame | hmem
        · exact .inl hsame
        · exact KeyedMap.mem_keys_insert hmem
      · intro value hvalue
        rcases hvalues value hvalue with ⟨parameter, hmem, hparameter⟩ | hmem
        · exact .inl ⟨parameter, List.mem_cons_of_mem _ hmem, hparameter⟩
        · rcases KeyedMap.mem_values_insert hmem with rfl | hold
          · exact .inl ⟨first, List.mem_cons_self, htoken, rfl⟩
          · exact .inr hold

/-- What a secret is like that was made of the input. -/
structure CreateSecretInput.Makes (duckdb : DuckDb) (input : CreateSecretInput)
    (secret : KeyValueSecret) : Prop where
  type : secret.type = secretType ∧ input.type = secretType
  scope : secret.scope = if input.scope.isEmpty then [secretScopePrefix] else input.scope
  token : secret.secretMap.find? tokenOption = lastText duckdb input.options
  redacted : ∀ key ∈ secret.secretMap.keys, key ∈ secret.redactKeys
  values : ∀ value ∈ secret.secretMap.values, ∃ parameter ∈ input.options,
    isTokenParameter parameter = true ∧ value = .varchar (duckdb.toString parameter.2)

/-- The three ways a CREATE SECRET ends. -/
theorem createConfigSecret_cases (duckdb : DuckDb) {configs : SecretConfigs}
    (hconfigs : ∀ type config, configs.find? type = some config →
      type = secretType ∧ config = codaSecretConfig) (input : CreateSecretInput) :
    (configs.find? input.type = none ∧ createConfigSecret duckdb configs input =
      .error (.invalidInput (secretConfigMissingMessage input.type))) ∨
    (∃ parameter, firstUnknown input.options = some parameter ∧ input.type = secretType ∧
      createConfigSecret duckdb configs input =
        .error (.invalidInput (unknownSecretParameterMessage secretType parameter.1))) ∨
    (firstUnknown input.options = none ∧ ∃ secret,
      createConfigSecret duckdb configs input = .ok secret ∧ input.Makes duckdb secret) := by
  cases hfind : configs.find? input.type with
  | none => exact .inl ⟨rfl, by simp only [createConfigSecret, hfind]⟩
  | some config =>
      -- whatever configuration is found is the one of the extension
      right
      obtain ⟨htype, rfl⟩ := hconfigs input.type config hfind
      cases hunknown : firstUnknown input.options with
      | some parameter =>
          refine .inl ⟨parameter, rfl, htype, ?_⟩
          simp only [createConfigSecret, hfind, secretMapOf_error input.type hunknown]
          rw [htype]
          rfl
      | none =>
          right
          have hmap := @secretMapOf_ok duckdb input.type input.options hunknown .empty
          obtain ⟨filled, hfilled, htoken, hkeys, hvalues⟩ := hmap
          simp only [createConfigSecret, hfind, hfilled]
          refine ⟨trivial, _, rfl, ⟨htype, htype⟩, rfl, ?_, ?_, ?_⟩
          · show filled.find? tokenOption = _
            rw [htoken, KeyedMap.find?_empty, Option.or_none]
          · intro key hkey
            rcases hkeys key hkey with rfl | hnone
            · exact List.mem_cons_self
            · cases hnone
          · intro value hvalue
            rcases hvalues value hvalue with hparameter | hnone
            · exact hparameter
            · cases hnone

/-! ## What was given -/

/-- The events of an instance, with what DuckDB saw of each. -/
abbrev InstanceHistory (σ : Type) := List (InstanceEvent σ × ProcessAnswer)

/-- Some LOAD got as far as registering the function. -/
def Registered (history : InstanceHistory σ) : Prop :=
  ∃ loader answer, (InstanceEvent.load loader, answer) ∈ history ∧ loader.Registers

/-- Some CREATE SECRET made the secret. -/
def MadeIn (duckdb : DuckDb) (history : InstanceHistory σ) (secret : KeyValueSecret) : Prop :=
  ∃ input, (InstanceEvent.createSecret input, .ok []) ∈ history ∧ input.Makes duckdb secret

/-- Some ATTACH was given the context, with secrets that were made before. -/
def AttachGiven (duckdb : DuckDb) (manager : SecretManager) (history : InstanceHistory σ)
    (context : AttachHostContext) (path : String) : Prop :=
  ∃ options secrets answer, (InstanceEvent.attach options path, answer) ∈ history ∧
    context = manager.attachContext secrets options ∧
    ∀ secret ∈ secrets.values, MadeIn duckdb history secret

/-- DuckDB finds the function of the extension for the statement. -/
def Callable (history : InstanceHistory σ) (input : CreateSecretInput) : Prop :=
  Registered history ∧ codaSecretFunction.serves input = true

variable {history : InstanceHistory σ}

theorem Registered.mono (h : Registered history) (event : InstanceEvent σ × ProcessAnswer) :
    Registered (history ++ [event]) := by
  obtain ⟨loader, answer, hmem, hregisters⟩ := h
  exact ⟨loader, answer, List.mem_append_left _ hmem, hregisters⟩

theorem MadeIn.mono {secret : KeyValueSecret} (h : MadeIn duckdb history secret)
    (event : InstanceEvent σ × ProcessAnswer) : MadeIn duckdb (history ++ [event]) secret := by
  obtain ⟨input, hmem, hmakes⟩ := h
  exact ⟨input, List.mem_append_left _ hmem, hmakes⟩

theorem AttachGiven.mono {context : AttachHostContext} {path : String}
    (h : AttachGiven duckdb manager history context path)
    (event : InstanceEvent σ × ProcessAnswer) :
    AttachGiven duckdb manager (history ++ [event]) context path := by
  obtain ⟨options, secrets, answer, hmem, hcontext, hmade⟩ := h
  exact ⟨options, secrets, answer, List.mem_append_left _ hmem, hcontext,
    fun secret hsecret => (hmade secret hsecret).mono event⟩

/-! ## The invariant -/

/-- Every ATTACH of the process was one of the instance. -/
def AttachesGiven (duckdb : DuckDb) (manager : SecretManager) (history : InstanceHistory σ)
    (past : List (ProcessEvent σ × ProcessAnswer)) : Prop :=
  ∀ context path answer, (ProcessEvent.attach context path, answer) ∈ past →
    AttachGiven duckdb manager history context path

/-- What is registered after the history. -/
structure WellRegistered (registrations : Registrations) (history : InstanceHistory σ) : Prop where
  configs : ∀ type config, registrations.configs.find? type = some config →
    type = secretType ∧ config = codaSecretConfig
  functions : ∀ function ∈ registrations.functions, function = codaSecretFunction
  config : registrations.functions ≠ [] →
    registrations.configs.find? secretType = some codaSecretConfig
  registered : registrations.functions ≠ [] ↔ Registered history

/-- What holds of an instance with the history so far. -/
structure WellGiven (env : Environment σ) (manager : SecretManager)
    (database : DatabaseInstance σ) (history : InstanceHistory σ) : Prop where
  registrations : WellRegistered database.registrations history
  secrets : ∀ secret ∈ database.secrets.values, MadeIn env.duckdb history secret
  process : ∃ past, WellBound env database.process past ∧
    AttachesGiven env.duckdb manager history past

theorem wellGiven_start (env : Environment σ) (manager : SecretManager) (server : σ) :
    WellGiven env manager (DatabaseInstance.start server) [] where
  registrations := by
    refine ⟨fun _ _ h => (by cases h), fun _ h => (by cases h), fun h => absurd rfl h, ?_⟩
    refine ⟨fun h => absurd rfl h, ?_⟩
    rintro ⟨loader, answer, hmem, _⟩
    cases hmem
  secrets secret h := by cases h
  process := ⟨[], wellBound_start env server, fun _ _ _ h => by cases h⟩

/-- DuckDB finds the function of a statement among those that are registered. -/
theorem WellRegistered.any_serves_iff {registrations : Registrations}
    (h : WellRegistered registrations history) (input : CreateSecretInput) :
    (registrations.functions.any fun function => function.serves input) = true ↔
      Callable history input := by
  rw [Callable, ← h.registered, List.any_eq_true]
  constructor
  · rintro ⟨function, hmem, hserves⟩
    rw [h.functions function hmem] at hserves
    exact ⟨List.ne_nil_of_mem hmem, hserves⟩
  · rintro ⟨hne, hserves⟩
    obtain ⟨function, rest, hcons⟩ := List.exists_cons_of_ne_nil hne
    have hmem : function ∈ registrations.functions := hcons ▸ List.mem_cons_self
    exact ⟨function, hmem, h.functions function hmem ▸ hserves⟩

/-- The four ways a CREATE SECRET ends: DuckDB has no function for it, the extension
has no configuration for its type, a parameter is not the token, or it works. -/
theorem WellRegistered.createSecret_cases {registrations : Registrations}
    (h : WellRegistered registrations history) (manager : SecretManager) (duckdb : DuckDb)
    (input : CreateSecretInput) :
    (¬ Callable history input ∧ manager.createSecret duckdb registrations input =
      .error (manager.missingFunction input)) ∨
    (Callable history input ∧ input.type ≠ secretType ∧
      manager.createSecret duckdb registrations input =
        .error (.invalidInput (secretConfigMissingMessage input.type))) ∨
    (Callable history input ∧ input.type = secretType ∧ ∃ parameter,
      firstUnknown input.options = some parameter ∧
        manager.createSecret duckdb registrations input =
          .error (.invalidInput (unknownSecretParameterMessage secretType parameter.1))) ∨
    (Callable history input ∧ input.type = secretType ∧ firstUnknown input.options = none ∧
      ∃ secret, manager.createSecret duckdb registrations input = .ok secret ∧
        input.Makes duckdb secret) := by
  unfold SecretManager.createSecret
  by_cases hcallable : Callable history input
  · rw [if_pos ((h.any_serves_iff input).mpr hcallable)]
    have hfound : registrations.configs.find? secretType = some codaSecretConfig :=
      h.config (h.registered.mpr hcallable.1)
    rcases createConfigSecret_cases duckdb h.configs input with
      ⟨hmissing, hcreate⟩ | ⟨parameter, hunknown, htype, hcreate⟩ | ⟨hknown, secret, hcreate, hmakes⟩
    · refine .inr (.inl ⟨hcallable, fun htype => ?_, hcreate⟩)
      rw [htype, hfound] at hmissing
      cases hmissing
    · exact .inr (.inr (.inl ⟨hcallable, htype, parameter, hunknown, hcreate⟩))
    · exact .inr (.inr (.inr ⟨hcallable, hmakes.type.2, hknown, secret, hcreate, hmakes⟩))
  · rw [if_neg fun hany => hcallable ((h.any_serves_iff input).mp hany)]
    exact .inl ⟨hcallable, rfl⟩

/-- An event that is no LOAD registers nothing. -/
theorem registered_snoc_iff {event : InstanceEvent σ} {answer : ProcessAnswer}
    (h : ∀ loader, event ≠ .load loader) :
    Registered (history ++ [(event, answer)]) ↔ Registered history := by
  constructor
  · rintro ⟨loader, answer', hmem, hregisters⟩
    rcases List.mem_append.mp hmem with hmem | hmem
    · exact ⟨loader, answer', hmem, hregisters⟩
    · cases List.mem_singleton.mp hmem
      exact absurd rfl (h loader)
  · exact fun h => h.mono _

theorem registered_load_iff {loader : ExtensionLoader} {answer : ProcessAnswer} :
    Registered (history ++ [(InstanceEvent.load loader, answer)]) ↔
      Registered history ∨ loader.Registers := by
  constructor
  · rintro ⟨other, answer', hmem, hregisters⟩
    rcases List.mem_append.mp hmem with hmem | hmem
    · exact .inl ⟨other, answer', hmem, hregisters⟩
    · cases List.mem_singleton.mp hmem
      exact .inr hregisters
  · rintro (hold | hregisters)
    · exact hold.mono _
    · exact ⟨loader, answer, List.mem_append_right _ List.mem_cons_self, hregisters⟩

/-- The map has the one configuration after a load, if it had no other before. -/
theorem configs_insert {configs : SecretConfigs}
    (h : ∀ type config, configs.find? type = some config →
      type = secretType ∧ config = codaSecretConfig) (type : String)
    (config : RustBridgeSecretConfig)
    (hfind : (configs.insert secretType codaSecretConfig).find? type = some config) :
    type = secretType ∧ config = codaSecretConfig := by
  rw [KeyedMap.find?_insert] at hfind
  split at hfind
  case isTrue htype =>
    cases hfind
    exact ⟨htype, rfl⟩
  case isFalse hother => exact h type config hfind

/-- A LOAD, whatever comes of it. -/
theorem WellRegistered.load {registrations : Registrations}
    (h : WellRegistered registrations history) (loader : ExtensionLoader)
    (answer : ProcessAnswer) :
    WellRegistered (loadFromRustBridge loader registrations).2
      (history ++ [(InstanceEvent.load loader, answer)]) := by
  have hinserted : (registrations.configs.insert secretType codaSecretConfig).find? secretType =
      some codaSecretConfig := by
    rw [KeyedMap.find?_insert, if_pos rfl]
  rcases loadFromRustBridge_registrations loader registrations with
    ⟨hregisters, hload⟩ | ⟨hfails, hload | hload⟩ <;> rw [hload]
  · -- the function is there from now on
    refine ⟨configs_insert h.configs, ?_, fun _ => hinserted, ?_⟩
    · intro function hmem
      rcases List.mem_append.mp hmem with hold | hnew
      · exact h.functions function hold
      · exact List.mem_singleton.mp hnew
    · rw [registered_load_iff]
      exact ⟨fun _ => .inr hregisters, fun _ => List.append_ne_nil_of_right_ne_nil _ (by simp)⟩
  · refine ⟨h.configs, h.functions, h.config, ?_⟩
    rw [registered_load_iff, h.registered]
    exact (or_iff_left hfails).symm
  · -- only the configuration is
    refine ⟨configs_insert h.configs, h.functions, fun _ => hinserted, ?_⟩
    rw [registered_load_iff]
    show registrations.functions ≠ [] ↔ _
    rw [h.registered]
    exact (or_iff_left hfails).symm

/-- Nothing is registered by anything else. -/
theorem WellRegistered.other {registrations : Registrations}
    (h : WellRegistered registrations history) {event : InstanceEvent σ} {answer : ProcessAnswer}
    (hevent : ∀ loader, event ≠ .load loader) :
    WellRegistered registrations (history ++ [(event, answer)]) :=
  ⟨h.configs, h.functions, h.config, h.registered.trans (registered_snoc_iff hevent).symm⟩

theorem WellGiven.load {database : DatabaseInstance σ}
    (h : WellGiven env manager database history) (loader : ExtensionLoader)
    (answer : ProcessAnswer) :
    WellGiven env manager
      { database with registrations := (loadFromRustBridge loader database.registrations).2 }
      (history ++ [(InstanceEvent.load loader, answer)]) where
  registrations := h.registrations.load loader answer
  secrets secret hmem := (h.secrets secret hmem).mono _
  process := by
    obtain ⟨past, hbound, hgiven⟩ := h.process
    exact ⟨past, hbound, fun context path answer hmem => (hgiven context path answer hmem).mono _⟩

/-- An event that is no LOAD, and makes or drops secrets only. -/
theorem WellGiven.setSecrets {database : DatabaseInstance σ}
    (h : WellGiven env manager database history)
    {event : InstanceEvent σ} {answer : ProcessAnswer} (hevent : ∀ loader, event ≠ .load loader)
    {secrets : Secrets} (hsecrets : ∀ secret ∈ secrets.values,
      MadeIn env.duckdb (history ++ [(event, answer)]) secret) :
    WellGiven env manager { database with secrets } (history ++ [(event, answer)]) where
  registrations := h.registrations.other hevent
  secrets := hsecrets
  process := by
    obtain ⟨past, hbound, hgiven⟩ := h.process
    exact ⟨past, hbound, fun context path answer hmem => (hgiven context path answer hmem).mono _⟩

/-- The event of the process that an event of the instance is. -/
def InstanceEvent.processEvent (manager : SecretManager) (secrets : Secrets) :
    InstanceEvent σ → Option (ProcessEvent σ)
  | .attach options path => some (.attach (manager.attachContext secrets options) path)
  | .statement event => some event
  | _ => none

/-- Such an event is one step of the process, and an ATTACH of it was given. -/
theorem WellGiven.processStep {database database' : DatabaseInstance σ}
    (h : WellGiven env manager database history) {event : InstanceEvent σ}
    {answer : ProcessAnswer} {processEvent : ProcessEvent σ}
    (hevent : event.processEvent manager database.secrets = some processEvent)
    (hstep : database.step fuel env manager event = some (database', answer)) :
    ∃ process, database.process.step fuel env processEvent = some (process, answer) ∧
      database' = { database with process } ∧ ∀ context path, processEvent = .attach context path →
        AttachGiven env.duckdb manager (history ++ [(event, answer)]) context path := by
  cases event with
  | attach options path =>
      cases hevent
      obtain ⟨⟨process, answer'⟩, hprocess, heq⟩ := Option.map_eq_some_iff.mp hstep
      cases heq
      refine ⟨process, hprocess, rfl, ?_⟩
      rintro context path' heq
      cases heq
      exact ⟨options, database.secrets, _, List.mem_append_right _ List.mem_cons_self, rfl,
        fun secret hmem => (h.secrets secret hmem).mono _⟩
  | statement inner =>
      -- an ATTACH takes its secrets from the instance, so it never comes as a statement
      cases hevent
      have hother : ∀ context path, processEvent ≠ .attach context path := by
        rintro context path rfl
        cases hstep
      have hmap : (database.process.step fuel env processEvent).map
          (fun result => ({ database with process := result.1 }, result.2)) =
            some (database', answer) := by
        cases processEvent <;> first | exact hstep | exact absurd rfl (hother _ _)
      obtain ⟨⟨process, answer'⟩, hprocess, heq⟩ := Option.map_eq_some_iff.mp hmap
      cases heq
      exact ⟨process, hprocess, rfl, fun context path heq => absurd heq (hother context path)⟩
  | load loader => cases hevent
  | createSecret input => cases hevent
  | dropSecret name => cases hevent

theorem AttachesGiven.snoc {past : List (ProcessEvent σ × ProcessAnswer)}
    (h : AttachesGiven duckdb manager history past) {event : InstanceEvent σ × ProcessAnswer}
    {processEvent : ProcessEvent σ} (hattach : ∀ context path,
      processEvent = .attach context path →
        AttachGiven duckdb manager (history ++ [event]) context path) (answer : ProcessAnswer) :
    AttachesGiven duckdb manager (history ++ [event]) (past ++ [(processEvent, answer)]) := by
  intro context path answer' hmem
  rcases List.mem_append.mp hmem with hmem | hmem
  · exact (h context path answer' hmem).mono _
  · cases List.mem_singleton.mp hmem
    exact hattach context path rfl

/-- An event of the process. -/
theorem WellGiven.setProcess {database database' : DatabaseInstance σ}
    (h : WellGiven env manager database history) {event : InstanceEvent σ}
    {answer : ProcessAnswer} {processEvent : ProcessEvent σ}
    (hevent : event.processEvent manager database.secrets = some processEvent)
    (hstep : database.step fuel env manager event = some (database', answer)) :
    WellGiven env manager database' (history ++ [(event, answer)]) := by
  obtain ⟨process, hprocess, rfl, hattach⟩ := h.processStep hevent hstep
  have hother : ∀ loader, event ≠ .load loader := by
    rintro loader rfl
    cases hevent
  refine ⟨h.registrations.other hother, fun secret hmem => (h.secrets secret hmem).mono _, ?_⟩
  obtain ⟨past, hbound, hgiven⟩ := h.process
  exact ⟨past ++ [(processEvent, answer)], wellBound_step hbound hprocess,
    hgiven.snoc hattach answer⟩

theorem wellGiven_step {database database' : DatabaseInstance σ} {event : InstanceEvent σ}
    {answer : ProcessAnswer} (h : WellGiven env manager database history)
    (hstep : database.step fuel env manager event = some (database', answer)) :
    WellGiven env manager database' (history ++ [(event, answer)]) := by
  cases event with
  | load loader =>
      cases hstep
      exact h.load loader _
  | createSecret input =>
      rw [DatabaseInstance.step] at hstep
      -- a refusal leaves the secrets as they are
      have hkept : ∀ answer, WellGiven env manager database
          (history ++ [(InstanceEvent.createSecret input, answer)]) := fun answer =>
        h.setSecrets (fun _ heq => by cases heq) fun secret hmem => (h.secrets secret hmem).mono _
      rcases h.registrations.createSecret_cases manager env.duckdb input with
        ⟨_, hcreate⟩ | ⟨_, _, hcreate⟩ | ⟨_, _, _, _, hcreate⟩ | ⟨_, _, _, secret, hcreate, hmakes⟩ <;>
        rw [hcreate] at hstep
      · cases hstep
        exact hkept _
      · cases hstep
        exact hkept _
      · cases hstep
        exact hkept _
      · -- the new secret was made by this statement
        cases hstep
        refine h.setSecrets (fun _ heq => by cases heq) ?_
        intro other hmem
        rcases KeyedMap.mem_values_insert hmem with rfl | hold
        · exact ⟨input, List.mem_append_right _ List.mem_cons_self, hmakes⟩
        · exact (h.secrets other hold).mono _
  | dropSecret name =>
      cases hstep
      refine h.setSecrets (fun _ heq => by cases heq) ?_
      intro other hmem
      exact (h.secrets other (KeyedMap.mem_values_erase hmem)).mono _
  | attach options path => exact h.setProcess rfl hstep
  | statement processEvent => exact h.setProcess rfl hstep

/-- The invariant of every run. -/
theorem wellGiven_run {server : σ} {events : List (InstanceEvent σ)}
    {database : DatabaseInstance σ}
    (hrun : (DatabaseInstance.start server).run fuel env manager events =
      some (database, history)) : WellGiven env manager database history :=
  runSteps_invariant
    (fun state history event next entry hinv hstep => by
      obtain ⟨⟨database, answer⟩, hevent, heq⟩ := Option.map_eq_some_iff.mp hstep
      cases heq
      exact wellGiven_step hinv hevent)
    events (DatabaseInstance.start server) database [] history (wellGiven_start env manager server)
    hrun

end DuckdbCoda
