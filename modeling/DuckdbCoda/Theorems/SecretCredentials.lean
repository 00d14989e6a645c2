import DuckdbCoda.Logic.SecretStore

/-!
# Where credentials come from

In every run of an instance, a CREATE SECRET ends as its input and the loads
before it say (`createSecret_exact`), the secrets hold nothing but redacted
tokens (`secrets_redacted`), the secrets in scope decide what an ATTACH without a
token resolves to (`attach_by_secret`), and every request carries a credential
that the user gave for its document (`requests_credential_given`).
-/

namespace DuckdbCoda

open AsciiCase History

variable {σ : Type} {env : Environment σ} {manager : SecretManager} {fuel : Nat} {duckdb : DuckDb}
  {history : InstanceHistory σ}

/-! ## CREATE SECRET -/

/-- A manager that takes the first secret in scope. -/
def mockManager : SecretManager where
  lookupSecret secrets path secretType := secrets.values.find? fun secret =>
    secret.type = secretType && secret.scope.any fun scope =>
      scope.toList.isPrefixOf path.toList
  missingKey secret key := "Failed to fetch key '" ++ key ++ "' from secret '" ++ secret.name ++ "'"
  missingFunction input := .invalidInput
    ("Secret provider '" ++ input.provider ++ "' not found for type '" ++ input.type ++ "'")
  sound := by
    intro secrets path secretType secret hfind
    have hfound := List.find?_some hfind
    simp only [Bool.and_eq_true, decide_eq_true_eq, List.any_eq_true, List.isPrefixOf_iff_prefix]
      at hfound
    exact ⟨List.mem_of_find?_eq_some hfind, hfound.1, hfound.2⟩
  complete := by
    intro secrets path secretType secret hmem htype ⟨scope, hscope, hprefix⟩
    rw [List.find?_isSome]
    refine ⟨secret, hmem, ?_⟩
    simp only [Bool.and_eq_true, decide_eq_true_eq, List.any_eq_true, List.isPrefixOf_iff_prefix]
    exact ⟨htype, scope, hscope, hprefix⟩

/-- A DuckDB that accepts every registration. -/
def mockLoader : ExtensionLoader where
  setDescription _ := .ok ()
  registerSecretType _ := .ok ()
  registerFunction _ := .ok ()
  registerStorageExtension _ := .ok ()

/-- `CREATE SECRET coda_offline (TYPE coda, TOKEN 'dummy-token')`. -/
def mockSecretInput : CreateSecretInput where
  type := "coda"
  provider := "config"
  name := "coda_offline"
  scope := []
  options := [("TOKEN", .varchar "dummy-token")]

/-- The instances of the runs below begin with the replies to an ATTACH. -/
def mockInstance : DatabaseInstance (List HttpReply × List SeenRequest) :=
  .start (mockCatalogReplies, [])

/-- **The secrets hold nothing but redacted tokens.** In every run, a secret of the
instance was made by a CREATE SECRET of the run; its scope is the one that was
asked for, or all documents; every key it holds is redacted; and every value is
the text of a TOKEN parameter of that statement. -/
theorem secrets_redacted (fuel : Nat) (env : Environment σ) (manager : SecretManager)
    (server : σ) (events : List (InstanceEvent σ)) (database : DatabaseInstance σ)
    (history : InstanceHistory σ)
    (hrun : (DatabaseInstance.start server).run fuel env manager events =
      some (database, history)) :
    ∀ secret ∈ database.secrets.values, ∃ input,
      (InstanceEvent.createSecret input, .ok []) ∈ history ∧ input.Makes env.duckdb secret :=
  (wellGiven_run hrun).secrets

def mockSecretEvents : List (InstanceEvent (List HttpReply × List SeenRequest)) :=
  [.load mockLoader, .createSecret mockSecretInput]

theorem secrets_redacted_offline :
    ∃ database history,
      mockInstance.run 1 mockObserved mockManager mockSecretEvents = some (database, history) ∧
      database.secrets.values.length = 1 ∧
      ∀ secret ∈ database.secrets.values, ∃ input,
        (InstanceEvent.createSecret input, .ok []) ∈ history ∧ input.Makes mockDuckDb secret :=
  ⟨_, _, rfl, rfl, secrets_redacted 1 mockObserved mockManager (mockCatalogReplies, [])
    mockSecretEvents _ _ rfl⟩

/-! ## The texts of an ATTACH -/

/-- The token of an ATTACH: the text of the option, when it is there. -/
theorem tokenAnswer_text {context : AttachHostContext} {path credential : String}
    (htext : shownText ((attachHost duckdb).answers path context).token = credential)
    (hne : credential ≠ "") :
    ∃ value, context.options tokenOption = some value ∧ value.isNull = false ∧
      duckdb.toString value = credential := by
  have htext : shownText (hostGetAttachOption duckdb context tokenOption) = credential := htext
  unfold hostGetAttachOption at htext
  cases hoption : context.options tokenOption with
  | none =>
      rw [hoption] at htext
      exact absurd htext.symm hne
  | some value =>
      rw [hoption] at htext
      cases hnull : value.isNull with
      | true =>
          simp only [hnull, if_true] at htext
          exact absurd htext.symm hne
      | false =>
          simp only [hnull, Bool.false_eq_true, if_false] at htext
          exact ⟨value, rfl, hnull, htext⟩

/-- The answer to a lookup: the text of a secret in scope. -/
theorem secretAnswer_text {secrets : Secrets} {options : String → Option Value}
    {path credential : String}
    (htext : shownText (hostLookupSecret duckdb (manager.attachContext secrets options) path
      secretType tokenOption) = credential) (hne : credential ≠ "") :
    ∃ secret ∈ secrets.values, secret.InScope path ∧
      ∃ value ∈ secret.secretMap.values, duckdb.toString value = credential := by
  unfold hostLookupSecret SecretManager.attachContext at htext
  cases hlookup : manager.lookupSecret secrets path secretType with
  | none =>
      simp only [hlookup, Option.map_none] at htext
      exact absurd htext.symm hne
  | some secret =>
      simp only [hlookup, Option.map_some, KeyValueSecret.tryGetValue] at htext
      obtain ⟨hmem, _, hscope⟩ := manager.sound hlookup
      cases hfind : secret.secretMap.find? tokenOption with
      | none =>
          rw [hfind] at htext
          exact absurd htext.symm hne
      | some value =>
          rw [hfind] at htext
          exact ⟨secret, hmem, hscope, value, KeyedMap.mem_values_of_find? _ hfind, htext⟩

/-- What ATTACH resolves to, by the three answers. -/
theorem resolveAttachConfig_resolved {sdk : Sdk} {context : AttachHostContext} {path : String}
    {config : RustExtAttachConfig}
    (h : resolveAttachConfig sdk (attachHost duckdb) path context = .ok config) :
    config.resource = attachResource path ∧
      ((attachHost duckdb).answers path context).credentials.find?
        (fun credential => credential ≠ "") = some config.credential := by
  have hok : (resolveAttach sdk (attachHost duckdb) path ⟨context, []⟩).1 = .ok config := by
    rw [resolveAttachConfig] at h
    cases hresolve : (resolveAttach sdk (attachHost duckdb) path ⟨context, []⟩).1 with
    | error message =>
        rw [hresolve] at h
        cases h
    | ok config' =>
        rw [hresolve] at h
        cases h
        rfl
  exact (resolveAttach_ends sdk (attachHost duckdb) path context).resolved hok

/-! ## ATTACH without a token -/

/-- The text of an option, empty when it is not there. -/
def attachOptionText (duckdb : DuckDb) (options : String → Option Value) (name : String) : String :=
  match options name with
  | none => ""
  | some value => if value.isNull then "" else duckdb.toString value

theorem hostGetAttachOption_eq (context : AttachHostContext) (name : String) :
    hostGetAttachOption duckdb context name =
      .ok (attachOptionText duckdb context.options name) := by
  unfold hostGetAttachOption attachOptionText
  cases context.options name with
  | none => rfl
  | some value => cases hnull : value.isNull <;> simp [hnull]

/-- What is left of the resolution when the options are fine, but for the token. -/
theorem resolveAttachConfig_without_token (sdk : Sdk) (context : AttachHostContext)
    {path : String} {included : Bool} (hdoc : attachResource path ≠ "")
    (htoken : attachOptionText duckdb context.options tokenOption = "")
    (hincluded : includeSystemColumns
      (attachOptionText duckdb context.options includeRowMetadataOption) = some included) :
    resolveAttachConfig sdk (attachHost duckdb) path context =
      (ffiBool "failed to resolve Coda attach config"
        (resolveCredential (attachHost duckdb) (attachConfig sdk (attachResource path) ""
          (attachOptionText duckdb context.options apiBaseOption) included)
          ⟨context, optionCalls ((attachHost duckdb).answers path context)⟩).1).mapError
        .invalidInput := by
  have hempty : (attachResource path).isEmpty = false := by simpa using hdoc
  simp [resolveAttachConfig, resolveAttach, getOption, attachHost, hostGetAttachOption_eq, htoken,
    hincluded, hempty, optionCalls, RustExtAttachHost.answers, Except.mapError]

/-- A lookup when no secret is in scope, and when all in scope hold one token. -/
theorem secretAnswer_eq {secrets : Secrets} {options : String → Option Value} {path : String}
    (htypes : ∀ secret ∈ secrets.values, secret.type = secretType) :
    ((∀ secret ∈ secrets.values, ¬ secret.InScope path) →
      hostLookupSecret duckdb (manager.attachContext secrets options) path secretType tokenOption =
        .ok "") ∧
    ∀ token, (∃ secret ∈ secrets.values, secret.InScope path) →
      (∀ secret ∈ secrets.values, secret.InScope path →
        secret.secretMap.find? tokenOption = some (.varchar token)) →
      hostLookupSecret duckdb (manager.attachContext secrets options) path secretType tokenOption =
        .ok token := by
  unfold hostLookupSecret SecretManager.attachContext
  cases hlookup : manager.lookupSecret secrets path secretType with
  | none =>
      refine ⟨fun _ => by simp [hlookup], ?_⟩
      rintro token ⟨secret, hmem, hscope⟩ _
      have hfound := manager.complete hmem (htypes secret hmem) hscope
      rw [hlookup] at hfound
      cases hfound
  | some found =>
      obtain ⟨hmem, _, hscope⟩ := manager.sound hlookup
      refine ⟨fun hnone => absurd hscope (hnone found hmem), ?_⟩
      intro token _ hall
      simp [hlookup, KeyValueSecret.tryGetValue, hall found hmem hscope, Except.map,
        DuckDb.toString]

/-- **The secrets in scope decide what an ATTACH without a token resolves to.** In
every run, when no secret of the instance covers the document, it says that the
credential is missing; when those that do all hold one token, that is its
credential, whichever of them the secret manager picks. -/
theorem attach_by_secret (fuel : Nat) (env : Environment σ) (manager : SecretManager)
    (server : σ) (events : List (InstanceEvent σ)) (database : DatabaseInstance σ)
    (history : InstanceHistory σ) (options : String → Option Value) (path : String)
    (included : Bool)
    (hrun : (DatabaseInstance.start server).run fuel env manager events = some (database, history))
    (hdoc : attachResource path ≠ "")
    (htoken : attachOptionText env.duckdb options tokenOption = "")
    (hincluded : includeSystemColumns
      (attachOptionText env.duckdb options includeRowMetadataOption) = some included) :
    let covering := fun secret : KeyValueSecret => secret ∈ database.secrets.values ∧
      secret.InScope (secretScopePrefix ++ attachResource path)
    let resolved := resolveAttachConfig env.remote.sdk (attachHost env.duckdb) path
      (manager.attachContext database.secrets options)
    ((∀ secret, ¬ covering secret) → resolved =
      .error (.invalidInput "failed to resolve Coda attach config: missing credential")) ∧
    ∀ token, token ≠ "" → (∃ secret, covering secret) →
      (∀ secret, covering secret → secret.secretMap.find? tokenOption = some (.varchar token)) →
      ∃ config, resolved = .ok config ∧ config.resource = attachResource path ∧
        config.credential = token := by
  intro covering resolved
  have hresolved := resolveAttachConfig_without_token env.remote.sdk
    (manager.attachContext database.secrets options) hdoc htoken hincluded
  have htypes : ∀ secret ∈ database.secrets.values, secret.type = secretType := by
    intro secret hmem
    obtain ⟨input, _, hmakes⟩ := (wellGiven_run hrun).secrets secret hmem
    exact hmakes.type.1
  have hprimary := @secretAnswer_eq manager env.duckdb database.secrets options
    (secretScopePrefix ++ attachResource path) htypes
  have hfallback := @secretAnswer_eq manager env.duckdb database.secrets options
    secretScopePrefix htypes
  constructor
  · intro hnone
    -- the scope of all documents covers each of them
    have hnoneAny : ∀ secret ∈ database.secrets.values, ¬ secret.InScope secretScopePrefix := by
      rintro secret hmem ⟨scope, hscope, hprefix⟩
      refine hnone secret ⟨hmem, scope, hscope, hprefix.trans ?_⟩
      rw [String.toList_append]
      exact List.prefix_append _ _
    have hdocAnswer := hprimary.1 fun secret hmem hscope => hnone secret ⟨hmem, hscope⟩
    have hanyAnswer := hfallback.1 hnoneAny
    show resolveAttachConfig _ _ _ _ = _
    rw [hresolved]
    simp [resolveCredential, lookupSecret, attachHost, attachConfig, hdocAnswer, hanyAnswer,
      Except.mapError, ffiBool]
  · rintro token hne ⟨secret, hmem, hscope⟩ hall
    have hdocAnswer := hprimary.2 token ⟨secret, hmem, hscope⟩ fun other hother hcovers =>
      hall other ⟨hother, hcovers⟩
    have hempty : token.isEmpty = false := by simpa using hne
    refine ⟨attachConfig env.remote.sdk (attachResource path) token (attachOptionText env.duckdb
      (manager.attachContext database.secrets options).options apiBaseOption) included, ?_, rfl,
      rfl⟩
    show resolveAttachConfig _ _ _ _ = _
    rw [hresolved]
    simp [resolveCredential, lookupSecret, attachHost, attachConfig, hdocAnswer, hempty,
      Except.mapError, ffiBool]

theorem attach_by_secret_offline :
    ∃ database history,
      mockInstance.run 1 mockObserved mockManager mockSecretEvents = some (database, history) ∧
      let covering := fun secret : KeyValueSecret => secret ∈ database.secrets.values ∧
        secret.InScope (secretScopePrefix ++ attachResource "dummy-doc")
      let resolved := resolveAttachConfig mockSdk (attachHost mockDuckDb) "dummy-doc"
        (mockManager.attachContext database.secrets fun _ => none)
      ((∀ secret, ¬ covering secret) → resolved =
        .error (.invalidInput "failed to resolve Coda attach config: missing credential")) ∧
      ∀ token, token ≠ "" → (∃ secret, covering secret) →
        (∀ secret, covering secret →
          secret.secretMap.find? tokenOption = some (.varchar token)) →
        ∃ config, resolved = .ok config ∧ config.resource = attachResource "dummy-doc" ∧
          config.credential = token :=
  ⟨_, _, rfl, attach_by_secret 1 mockObserved mockManager (mockCatalogReplies, [])
    mockSecretEvents _ _ (fun _ => none) "dummy-doc" false rfl (by decide) rfl rfl⟩

/-! ## Credentials that were given -/

/-- The credential is the token of an ATTACH of the document, or of a secret whose
scope covers the document. -/
def GivenFor (duckdb : DuckDb) (history : InstanceHistory σ) (docId credential : String) : Prop :=
  (∃ options path answer value, (InstanceEvent.attach options path, answer) ∈ history ∧
    attachResource path = docId ∧ options tokenOption = some value ∧ value.isNull = false ∧
    duckdb.toString value = credential) ∨
  ∃ input parameter, (InstanceEvent.createSecret input, .ok []) ∈ history ∧
    parameter ∈ input.options ∧ eqIgnoreAsciiCase tokenOption parameter.1 = true ∧
    duckdb.toString parameter.2 = credential ∧
    ∃ scope ∈ (if input.scope.isEmpty then [secretScopePrefix] else input.scope),
      scope.toList <+: (secretScopePrefix ++ docId).toList

theorem MadeIn.givenFor {secret : KeyValueSecret} (h : MadeIn duckdb history secret)
    {docId path credential : String} (hscope : secret.InScope path)
    (hpath : path.toList <+: (secretScopePrefix ++ docId).toList) {value : Value}
    (hvalue : value ∈ secret.secretMap.values) (htext : duckdb.toString value = credential) :
    GivenFor duckdb history docId credential := by
  obtain ⟨input, hmem, hmakes⟩ := h
  obtain ⟨parameter, hparameter, htoken, rfl⟩ := hmakes.values value hvalue
  obtain ⟨scope, hscopeMem, hprefix⟩ := hscope
  rw [hmakes.scope] at hscopeMem
  exact .inr ⟨input, parameter, hmem, hparameter, htoken, htext, scope, hscopeMem,
    hprefix.trans hpath⟩

/-- What the process resolved, the user gave. -/
theorem AttachedIn.givenFor {past : List (ProcessEvent σ × ProcessAnswer)}
    {config : RustExtAttachConfig} (h : AttachedIn env past config)
    (hgiven : AttachesGiven env.duckdb manager history past) :
    GivenFor env.duckdb history config.resource config.credential := by
  obtain ⟨context, path, answer, hmem, hresolve⟩ := h
  obtain ⟨options, secrets, answer', hattach, rfl, hmade⟩ := hgiven context path answer hmem
  obtain ⟨hresource, hfind⟩ := resolveAttachConfig_resolved hresolve
  have hne : config.credential ≠ "" := by simpa using List.find?_some hfind
  have hcredential := List.mem_of_find?_eq_some hfind
  simp only [HostAnswers.credentials, List.map_cons, List.map_nil, List.mem_cons,
    List.not_mem_nil, or_false] at hcredential
  rcases hcredential with htoken | hdoc | hany
  · obtain ⟨value, hoption, hnull, htext⟩ := tokenAnswer_text htoken.symm hne
    exact .inl ⟨options, path, answer', value, hattach, hresource.symm, hoption, hnull, htext⟩
  · obtain ⟨secret, hsecret, hscope, value, hvalue, htext⟩ := secretAnswer_text hdoc.symm hne
    refine (hmade secret hsecret).givenFor hscope ?_ hvalue htext
    rw [hresource]
  · obtain ⟨secret, hsecret, hscope, value, hvalue, htext⟩ := secretAnswer_text hany.symm hne
    refine (hmade secret hsecret).givenFor hscope ?_ hvalue htext
    rw [String.toList_append]
    exact List.prefix_append _ _

/-- **Every request carries a credential the user gave for its document.** In every
run of an instance, whatever statements interleave, the requests of an event are
about the document of one configuration and carry its credential, and this is the
token option of an ATTACH of that document in the run, or a TOKEN parameter of a
CREATE SECRET of the run whose scope covers the document. -/
theorem requests_credential_given (fuel : Nat) (env : Environment σ) (manager : SecretManager)
    (seen : σ → List SeenRequest) (account : KeepsAccount env.remote seen) (server : σ)
    (events : List (InstanceEvent σ)) (database database' : DatabaseInstance σ)
    (history : InstanceHistory σ) (event : InstanceEvent σ) (answer : ProcessAnswer)
    (hrun : (DatabaseInstance.start server).run fuel env manager events = some (database, history))
    (hstep : database.step fuel env manager event = some (database', answer)) :
    (∃ change, event = .statement (.outside change)) ∨
    seen database'.process.world.server = seen database.process.world.server ∨
    ∃ config : RustExtClientConfig,
      GivenFor env.duckdb (history ++ [(event, answer)]) config.resource config.credential ∧
      Asks env.remote seen config (fun _ => True) database.process.world.server
        database'.process.world.server := by
  have h := wellGiven_run hrun
  cases hevent : event.processEvent manager database.secrets with
  | none =>
      -- the process is left alone
      refine .inr (.inl ?_)
      cases event with
      | load loader =>
          cases hstep
          rfl
      | createSecret input =>
          rw [DatabaseInstance.step] at hstep
          split at hstep <;> cases hstep <;> rfl
      | dropSecret name =>
          cases hstep
          rfl
      | attach options path => cases hevent
      | statement inner => cases hevent
  | some processEvent =>
      obtain ⟨process, hprocess, rfl, hattach⟩ := h.processStep hevent hstep
      obtain ⟨past, hbound, hgiven⟩ := h.process
      rcases step_speaks account hbound hprocess with
        ⟨change, rfl⟩ | hsame | ⟨config, kind, _, hattached, hasks⟩
      · refine .inl ⟨change, ?_⟩
        cases event with
        | statement inner =>
            cases hevent
            rfl
        | attach options path => cases hevent
        | load loader => cases hevent
        | createSecret input => cases hevent
        | dropSecret name => cases hevent
      · exact .inr (.inl hsame)
      · refine .inr (.inr ⟨config.clientConfig,
          hattached.givenFor (hgiven.snoc hattach answer), ?_⟩)
        obtain ⟨sent, hseen, hissued⟩ := hasks
        refine ⟨sent, hseen, ?_⟩
        intro request hmem
        obtain ⟨operation, _, hoperation⟩ := hissued request hmem
        exact ⟨operation, trivial, hoperation⟩

/-- `ATTACH 'dummy-doc' (TYPE coda)`. -/
def offlineAttach : InstanceEvent (List HttpReply × List SeenRequest) :=
  .attach (fun _ => none) "dummy-doc"

/-- The three requests of the ATTACH carry the token of the secret. -/
theorem requests_credential_given_offline :
    ∃ database history database' answer,
      mockInstance.run 4 mockObserved mockManager mockSecretEvents = some (database, history) ∧
      database.step 4 mockObserved mockManager offlineAttach = some (database', answer) ∧
      database'.process.world.server.2.map Prod.fst = List.replicate 3 "dummy-token" ∧
      ∃ config : RustExtClientConfig,
        GivenFor mockDuckDb (history ++ [(offlineAttach, answer)]) config.resource
          config.credential ∧
        Asks mockObserved.remote Prod.snd config (fun _ => True) database.process.world.server
          database'.process.world.server := by
  have hgiven := requests_credential_given 4 mockObserved mockManager Prod.snd
    (Remote.observed_account _) (mockCatalogReplies, []) mockSecretEvents _ _ _ offlineAttach _
    rfl rfl
  refine ⟨_, _, _, _, rfl, rfl, rfl, ?_⟩
  rcases hgiven with ⟨change, hother⟩ | hsilent | hasked
  · cases hother
  · exact absurd (congrArg List.length hsilent) (by decide)
  · exact hasked

end DuckdbCoda
