import DuckdbCoda.Logic.AbiClient
import DuckdbCoda.Model.AbiAttach

/-!
# What ATTACH owns

Beside each call of `Model.AbiAttach`, as in `Logic.AbiClient`: without the
memory it is the call of `Model.Process`, and it leaves the blocks of its result
or, when it fails, blocks that nothing points to.
-/

namespace DuckdbCoda.Abi

open Ownership Loop

variable {σ η : Type} {memory memory' : Memory} {owned : Multiset Nat}

/-! ## The host of an ATTACH -/

/-- The answer of a host without its pointer. -/
def forgetAnswer {α : Type} (value : α → String)
    (result : Except String α × HostWorld η × Memory) : Except String String × HostWorld η :=
  (result.1.map value, result.2.1)

theorem hostAnswer_value (answer : Except String String) (memory : Memory) :
    (hostAnswer answer memory).1.map RawParts.contents = answer := by
  cases answer with
  | ok text => exact congrArg Except.ok (allocString_contents text memory)
  | error message => exact congrArg Except.error (allocString_contents message memory)

theorem takeString_holds (text : String) (h : memory.Holds owned) :
    (takeToken (allocString text memory).1 (allocString text memory).2).2.Holds owned := by
  obtain ⟨string, mid, halloc, _, _, hmid⟩ := allocString_spec text h
  rw [halloc]
  exact takeToken_holds hmid

/-- An answer that is a failure leaves nothing. -/
def Answers (owned : Multiset Nat) (answer : Except String RustExtString) (memory : Memory) :
    Prop :=
  match answer with
  | .ok text => memory.Holds (text.blocks + owned)
  | .error _ => memory.Holds owned

theorem hostAnswer_answers (answer : Except String String) (h : memory.Holds owned) :
    Answers owned (hostAnswer answer memory).1 (hostAnswer answer memory).2 := by
  cases answer with
  | ok text => exact RawParts.into_holds _ _ h
  | error message => exact takeString_holds message h

theorem getOption_value (host : RustExtAttachHost η) (name : String) (world : HostWorld η)
    (memory : Memory) :
    forgetAnswer RawParts.contents (getOption host name world memory) =
      DuckdbCoda.getOption host name world := by
  have hvalue := hostAnswer_value (host.getOption world.state name).1 memory
  simp only [forgetAnswer, getOption, DuckdbCoda.getOption]
  refine Prod.ext ?_ rfl
  conv_rhs => rw [← hvalue]
  cases (hostAnswer (host.getOption world.state name).1 memory).1 <;> rfl

theorem getOption_answers {host : RustExtAttachHost η} {name : String} {world world' : HostWorld η}
    {answer : Except String RustExtString} (h : memory.Holds owned)
    (hget : getOption host name world memory = (answer, world', memory')) :
    Answers owned answer memory' := by
  have hanswer := hostAnswer_answers (host.getOption world.state name).1 h
  simp only [getOption, Prod.mk.injEq] at hget
  obtain ⟨rfl, _, rfl⟩ := hget
  cases hresult : (hostAnswer (host.getOption world.state name).1 memory).1 <;>
    (rw [hresult] at hanswer; exact hanswer)

theorem lookupSecret_value (host : RustExtAttachHost η) (scope : RustExtString)
    (world : HostWorld η) (memory : Memory) :
    forgetAnswer RawParts.contents (lookupSecret host scope world memory) =
      DuckdbCoda.lookupSecret host scope.contents world := by
  have hvalue := hostAnswer_value
    (host.lookupSecret world.state scope.contents secretType tokenOption).1 (scope.borrow memory)
  simp only [forgetAnswer, lookupSecret, asStr, DuckdbCoda.lookupSecret]
  refine Prod.ext ?_ rfl
  conv_rhs => rw [← hvalue]
  cases (hostAnswer (host.lookupSecret world.state scope.contents secretType tokenOption).1
    (scope.borrow memory)).1 <;> rfl

theorem lookupSecret_answers {host : RustExtAttachHost η} {scope : RustExtString}
    {world world' : HostWorld η} {answer : Except String RustExtString} (h : memory.Holds owned)
    (hscope : scope.blocks ≤ owned)
    (hlookup : lookupSecret host scope world memory = (answer, world', memory')) :
    Answers owned answer memory' := by
  have hread : scope.borrow memory = memory := RawParts.borrow_eq h hscope
  have hanswer := hostAnswer_answers
    (host.lookupSecret world.state scope.contents secretType tokenOption).1 h
  simp only [lookupSecret, asStr, hread, Prod.mk.injEq] at hlookup
  obtain ⟨rfl, _, rfl⟩ := hlookup
  cases hresult : (hostAnswer
      (host.lookupSecret world.state scope.contents secretType tokenOption).1 memory).1 <;>
    (rw [hresult] at hanswer; exact hanswer)

/-! ## `resolve_attach` -/

theorem attachConfig_value (sdk : Sdk) (resource credential endpoint : String) (included : Bool)
    (memory : Memory) :
    (attachConfig sdk resource credential endpoint included memory).1.toValue =
      DuckdbCoda.attachConfig sdk resource credential endpoint included := by
  simp [attachConfig, RustExtAttachConfig.toValue, DuckdbCoda.attachConfig]

theorem attachConfig_holds (sdk : Sdk) (resource credential endpoint : String) (included : Bool)
    (h : memory.Holds owned) :
    (attachConfig sdk resource credential endpoint included memory).2.Holds
      ((attachConfig sdk resource credential endpoint included memory).1.blocks + owned) := by
  let config := DuckdbCoda.attachConfig sdk resource credential endpoint included
  obtain ⟨resourceString, m₁, hresource, _, _, h₁⟩ := allocString_spec config.resource h
  obtain ⟨credentialString, m₂, hcredential, _, _, h₂⟩ := allocString_spec config.credential h₁
  obtain ⟨endpointString, m₃, hendpoint, _, _, h₃⟩ := allocString_spec config.endpoint h₂
  obtain ⟨primary, m₄, hprimary, _, _, h₄⟩ := allocString_spec config.primarySecretScope h₃
  obtain ⟨fallback, m₅, hfallback, _, _, h₅⟩ := allocString_spec config.fallbackSecretScope h₄
  simp only [config] at hresource hcredential hendpoint hprimary hfallback
  simp only [attachConfig, hresource, hcredential, hendpoint, hprimary, hfallback]
  refine h₅.of_eq ?_
  rw [RustExtAttachConfig.blocks]
  abel

/-- A credential that is empty is null, so that it can be overwritten. -/
def RustExtAttachConfig.NullCredential (config : RustExtAttachConfig) : Prop :=
  config.credential.contents.isEmpty = true → config.credential.blocks = 0

theorem attachConfig_nullCredential (sdk : Sdk) (resource credential endpoint : String)
    (included : Bool) (memory : Memory) :
    (attachConfig sdk resource credential endpoint included memory).1.NullCredential := by
  intro hempty
  have hcredential : credential.isEmpty = true := by
    simpa [attachConfig, DuckdbCoda.attachConfig] using hempty
  simp [attachConfig, DuckdbCoda.attachConfig, allocString, RawParts.into, hcredential,
    RawParts.blocks]

/-- What a search for the configuration ends with, without the memory. -/
def forgetConfig (result : Except String RustExtAttachConfig × HostWorld η × Memory) :
    Except String DuckdbCoda.RustExtAttachConfig × HostWorld η :=
  (result.1.map RustExtAttachConfig.toValue, result.2.1)

theorem resolveCredential_value (host : RustExtAttachHost η) (result : RustExtAttachConfig)
    (world : HostWorld η) (memory : Memory) :
    forgetConfig (resolveCredential host result world memory) =
      DuckdbCoda.resolveCredential host result.toValue world := by
  simp only [resolveCredential, asStr, DuckdbCoda.resolveCredential, RustExtAttachConfig.toValue]
  by_cases hempty : result.credential.contents.isEmpty = true
  · simp only [hempty, if_true]
    rw [← lookupSecret_value host result.primarySecretScope world
      (result.credential.borrow memory)]
    rcases lookupSecret host result.primarySecretScope world (result.credential.borrow memory) with
      ⟨message | secretToken, mid, rest⟩
    · rfl
    · simp only [forgetAnswer, Except.map]
      by_cases hsecret : secretToken.contents.isEmpty = true
      · simp only [hsecret, Bool.not_true, Bool.false_eq_true, if_false]
        rw [← lookupSecret_value host result.fallbackSecretScope mid
          (secretToken.release (secretToken.borrow rest))]
        rcases lookupSecret host result.fallbackSecretScope mid
          (secretToken.release (secretToken.borrow rest)) with
          ⟨message | fallbackToken, last, final⟩
        · rfl
        · simp only [forgetAnswer, Except.map]
          by_cases hfallback : fallbackToken.contents.isEmpty = true <;>
            simp [hfallback, forgetConfig, Except.map, RustExtAttachConfig.toValue]
      · simp [hsecret, forgetConfig, Except.map, RustExtAttachConfig.toValue]
  · simp [hempty, forgetConfig, Except.map, RustExtAttachConfig.toValue]

theorem resolveCredential_settles {host : RustExtAttachHost η} {result : RustExtAttachConfig}
    {world world' : HostWorld η} {answer : Except String RustExtAttachConfig}
    (h : memory.Holds (result.blocks + owned)) (hnull : result.NullCredential)
    (hresolve : resolveCredential host result world memory = (answer, world', memory')) :
    Settles RustExtAttachConfig.blocks owned answer memory' := by
  have hlive : result.blocks ≤ result.blocks + owned := Multiset.le_add_right _ _
  have hparts : result.credential.blocks ≤ result.blocks ∧
      result.primarySecretScope.blocks ≤ result.blocks ∧
      result.fallbackSecretScope.blocks ≤ result.blocks := by
    rw [RustExtAttachConfig.blocks]
    refine ⟨?_, ?_, Multiset.le_add_left _ _⟩
    · exact (((Multiset.le_add_left _ _).trans (Multiset.le_add_right _ _)).trans
        (Multiset.le_add_right _ _)).trans (Multiset.le_add_right _ _)
    · exact (Multiset.le_add_left _ _).trans (Multiset.le_add_right _ _)
  have hcredential : result.credential.borrow memory = memory :=
    RawParts.borrow_eq h (hparts.1.trans hlive)
  simp only [resolveCredential, asStr, hcredential] at hresolve
  cases hempty : result.credential.contents.isEmpty with
  | false =>
      rw [hempty] at hresolve
      cases hresolve
      exact settles_ok.mpr h
  | true =>
      -- the record without its credential, which is null
      have hblocks : ∀ token : RustExtString, token.blocks + (result.blocks + owned) =
          RustExtAttachConfig.blocks { result with credential := token } + owned := by
        intro token
        simp only [RustExtAttachConfig.blocks, hnull hempty]
        abel
      simp only [hempty, if_true] at hresolve
      rcases hlookup : lookupSecret host result.primarySecretScope world memory with
        ⟨message | secretToken, mid, rest⟩ <;> rw [hlookup] at hresolve
      · cases hresolve
        exact settles_error.mpr
          ⟨result.blocks, lookupSecret_answers h (hparts.2.1.trans hlive) hlookup⟩
      · have hsecret : rest.Holds (secretToken.blocks + (result.blocks + owned)) :=
          lookupSecret_answers h (hparts.2.1.trans hlive) hlookup
        have hread : secretToken.borrow rest = rest :=
          RawParts.borrow_eq hsecret (Multiset.le_add_right _ _)
        simp only [hread] at hresolve
        cases hfound : secretToken.contents.isEmpty with
        | false =>
            rw [hfound] at hresolve
            cases hresolve
            exact settles_ok.mpr (hsecret.of_eq (hblocks secretToken))
        | true =>
            simp only [hfound, Bool.not_true, Bool.false_eq_true, if_false] at hresolve
            have hfreed : (secretToken.release rest).Holds (result.blocks + owned) :=
              RawParts.release_holds hsecret
            rcases hagain : lookupSecret host result.fallbackSecretScope mid
              (secretToken.release rest) with ⟨message | fallbackToken, last, final⟩ <;>
              rw [hagain] at hresolve
            · cases hresolve
              exact settles_error.mpr ⟨result.blocks,
                lookupSecret_answers hfreed (hparts.2.2.trans hlive) hagain⟩
            · have hfallback : final.Holds (fallbackToken.blocks + (result.blocks + owned)) :=
                lookupSecret_answers hfreed (hparts.2.2.trans hlive) hagain
              have hread' : fallbackToken.borrow final = final :=
                RawParts.borrow_eq hfallback (Multiset.le_add_right _ _)
              simp only [hread'] at hresolve
              split at hresolve
              · cases hresolve
                exact settles_error.mpr ⟨result.blocks, RawParts.release_holds hfallback⟩
              · cases hresolve
                exact settles_ok.mpr (hfallback.of_eq (hblocks fallbackToken))

theorem resolveAttach_value (sdk : Sdk) (host : RustExtAttachHost η) (path : String)
    (world : HostWorld η) (memory : Memory) :
    forgetConfig (resolveAttach sdk host path world memory) =
      DuckdbCoda.resolveAttach sdk host path world := by
  unfold resolveAttach DuckdbCoda.resolveAttach
  rw [← getOption_value host tokenOption world memory]
  rcases getOption host tokenOption world memory with ⟨message | credential, w₁, m₁⟩
  · rfl
  simp only [forgetAnswer, Except.map]
  rw [← getOption_value host apiBaseOption w₁ m₁]
  rcases getOption host apiBaseOption w₁ m₁ with ⟨message | endpoint, w₂, m₂⟩
  · rfl
  simp only [forgetAnswer, Except.map]
  rw [← getOption_value host includeRowMetadataOption w₂ m₂]
  rcases getOption host includeRowMetadataOption w₂ m₂ with ⟨message | spelling, w₃, m₃⟩
  · rfl
  simp only [forgetAnswer, Except.map]
  cases (attachResource path).isEmpty with
  | true => rfl
  | false =>
      simp only [Bool.false_eq_true, if_false, asStr]
      cases includeSystemColumns spelling.contents with
      | none => rfl
      | some included =>
          dsimp only
          rw [← attachConfig_value sdk (attachResource path) credential.contents endpoint.contents
            included (endpoint.borrow (credential.borrow (spelling.borrow m₃)))]
          exact resolveCredential_value host _ w₃ _

theorem resolveAttach_settles {sdk : Sdk} {host : RustExtAttachHost η} {path : String}
    {world world' : HostWorld η} {answer : Except String RustExtAttachConfig}
    (h : memory.Holds owned)
    (hresolve : resolveAttach sdk host path world memory = (answer, world', memory')) :
    Settles RustExtAttachConfig.blocks owned answer memory' := by
  unfold resolveAttach at hresolve
  rcases htoken : getOption host tokenOption world memory with ⟨message | credential, w₁, m₁⟩ <;>
    rw [htoken] at hresolve
  · cases hresolve
    exact settles_error.mpr ⟨0, Memory.Holds.of_eq (getOption_answers h htoken) (zero_add _).symm⟩
  have h₁ : m₁.Holds (credential.blocks + owned) := getOption_answers h htoken
  rcases hbase : getOption host apiBaseOption w₁ m₁ with ⟨message | endpoint, w₂, m₂⟩ <;>
    simp only [hbase] at hresolve
  · cases hresolve
    exact settles_error.mpr ⟨_, getOption_answers h₁ hbase⟩
  have h₂ : m₂.Holds (endpoint.blocks + (credential.blocks + owned)) := getOption_answers h₁ hbase
  rcases hmetadata : getOption host includeRowMetadataOption w₂ m₂ with
    ⟨message | spelling, w₃, m₃⟩ <;> simp only [hmetadata] at hresolve
  · cases hresolve
    exact settles_error.mpr ⟨endpoint.blocks + credential.blocks,
      Memory.Holds.of_eq (getOption_answers h₂ hmetadata) (add_assoc _ _ _).symm⟩
  have h₃ : m₃.Holds (spelling.blocks + (endpoint.blocks + (credential.blocks + owned))) :=
    getOption_answers h₂ hmetadata
  -- from here on a failure loses all three options
  have hlost : m₃.Holds ((spelling.blocks + endpoint.blocks + credential.blocks) + owned) :=
    h₃.of_eq (by abel)
  have hspelling : spelling.borrow m₃ = m₃ := RawParts.borrow_eq h₃ (Multiset.le_add_right _ _)
  have hcredential : credential.borrow m₃ = m₃ := RawParts.borrow_eq hlost
    ((Multiset.le_add_left _ _).trans (Multiset.le_add_right _ _))
  have hendpoint : endpoint.borrow m₃ = m₃ := RawParts.borrow_eq hlost
    (((Multiset.le_add_left _ _).trans (Multiset.le_add_right _ _)).trans
      (Multiset.le_add_right _ _))
  simp only [asStr, hspelling, hcredential, hendpoint] at hresolve
  split at hresolve
  · cases hresolve
    exact settles_error.mpr ⟨_, hlost⟩
  · cases hincluded : includeSystemColumns spelling.contents with
    | none =>
        simp only [hincluded] at hresolve
        cases hresolve
        exact settles_error.mpr ⟨_, hlost⟩
    | some included =>
        simp only [hincluded] at hresolve
        have hconfig := attachConfig_holds sdk (attachResource path) credential.contents
          endpoint.contents included h₃
        refine resolveCredential_settles (RawParts.release_holds (RawParts.release_holds
          (RawParts.release_holds (hconfig.of_eq ?_)))) (attachConfig_nullCredential _ _ _ _ _ _)
          hresolve
        abel

/-! ## Objects of the C++ side -/

theorem takeError_value {α : Type} (context : String) (answer : Except String α)
    (memory : Memory) : (takeError context answer memory).1 = thrown context answer := by
  cases answer with
  | ok value => rfl
  | error message =>
      exact congrArg (fun text => Except.error (Exception.invalidInput text))
        (allocString_contents (context ++ ": " ++ message) memory)

theorem takeError_settles {α : Type} {blocks : α → Multiset Nat} {answer : Except String α}
    (context : String) (h : Settles blocks owned answer memory) :
    Settles blocks owned (takeError context answer memory).1
      (takeError context answer memory).2 := by
  cases answer with
  | ok value => exact settles_ok.mpr (settles_ok.mp h)
  | error message =>
      obtain ⟨lost, hlost⟩ := settles_error.mp h
      exact settles_error.mpr ⟨lost, takeString_holds (context ++ ": " ++ message) hlost⟩

theorem freeAttachConfig_holds {config : RustExtAttachConfig}
    (h : memory.Holds (config.blocks + owned)) : (freeAttachConfig config memory).Holds owned := by
  simp only [RustExtAttachConfig.blocks, add_assoc] at h
  exact RawParts.release_holds (RawParts.release_holds (RawParts.release_holds
    (RawParts.release_holds (RawParts.release_holds h))))

theorem RustBridgeCatalog.destroy_holds {catalog : RustBridgeCatalog}
    (h : memory.Holds (catalog.blocks + owned)) : (catalog.destroy memory).Holds owned := by
  refine freeAttachConfig_holds (freeCatalog_holds (h.of_eq ?_))
  rw [RustBridgeCatalog.blocks]
  abel

theorem RustExtAttachConfig.clientConfig_le (config : RustExtAttachConfig) :
    config.clientConfig.blocks ≤ config.blocks := by
  rw [RustExtClientConfig.blocks, RustExtAttachConfig.blocks]
  exact (Multiset.le_add_right _ _).trans (Multiset.le_add_right _ _)

/-- What an ATTACH ends with, without the memory. -/
def forgetCatalog {α β : Type} (value : α → β) (result : Except Exception α × World σ × Memory) :
    Except Exception β × World σ :=
  (result.1.map value, result.2.1)

theorem listTables_value (fuel : Nat) (remote : Remote σ) (config : RustExtClientConfig)
    (includeSystemColumns : Bool) (world : World σ) (memory : Memory) :
    (listTables fuel remote config includeSystemColumns world memory).map
        (forgetCatalog RustExtCatalog.toValue) =
      DuckdbCoda.listTables fuel remote config.toValue includeSystemColumns world := by
  have hload := loadCatalog_value fuel remote { config with includeSystemColumns } world memory
  unfold listTables DuckdbCoda.listTables
  rw [show ({ config.toValue with includeSystemColumns } : DuckdbCoda.RustExtClientConfig) =
    RustExtClientConfig.toValue { config with includeSystemColumns } from rfl, ← hload,
    Option.map_map, Option.map_map]
  congr 1
  funext ⟨answer, mid, rest⟩
  simp only [Function.comp, forgetCatalog, forget, takeError_value]
  cases answer <;> rfl

theorem listTables_settles {fuel : Nat} {remote : Remote σ} {config : RustExtClientConfig}
    {includeSystemColumns : Bool} {world world' : World σ} {answer : Except Exception RustExtCatalog}
    (h : memory.Holds owned) (hconfig : config.blocks ≤ owned)
    (hlist : listTables fuel remote config includeSystemColumns world memory =
      some (answer, world', memory')) :
    Settles RustExtCatalog.blocks owned answer memory' := by
  obtain ⟨⟨loaded, mid, rest⟩, hload, heq⟩ := Option.map_eq_some_iff.mp hlist
  have hconfig' : RustExtClientConfig.blocks { config with includeSystemColumns } ≤ owned :=
    hconfig
  cases heq
  exact takeError_settles _ (loadCatalog_settles h hconfig' hload)

theorem rustBridgeAttach_value (fuel : Nat) (remote : Remote σ) (duckdb : DuckDb)
    (context : AttachHostContext) (path : String) (world : World σ) (memory : Memory) :
    (rustBridgeAttach fuel remote duckdb context path world memory).map
        (forgetCatalog RustBridgeCatalog.toValue) =
      DuckdbCoda.rustBridgeAttach fuel remote duckdb context path world := by
  have hresolve := resolveAttach_value remote.sdk (attachHost duckdb) path ⟨context, []⟩ memory
  unfold rustBridgeAttach DuckdbCoda.rustBridgeAttach resolveAttachConfig
  rw [← hresolve]
  rcases resolveAttach remote.sdk (attachHost duckdb) path ⟨context, []⟩ memory with
    ⟨message | attachConfig, state, rest⟩
  · exact congrArg (fun text => some (Except.error (Exception.invalidInput text), world))
      (allocString_contents ("failed to resolve Coda attach config" ++ ": " ++ message) rest)
  · show Option.map _ (Option.map _ (listTables fuel remote attachConfig.clientConfig
      attachConfig.includeSystemColumns world rest)) = Option.map _ (DuckdbCoda.listTables fuel
        remote attachConfig.clientConfig.toValue attachConfig.includeSystemColumns world)
    rw [← listTables_value fuel remote attachConfig.clientConfig attachConfig.includeSystemColumns
      world rest, Option.map_map, Option.map_map]
    congr 1
    funext ⟨answer, mid, last⟩
    cases answer <;> rfl

theorem rustBridgeAttach_settles {fuel : Nat} {remote : Remote σ} {duckdb : DuckDb}
    {context : AttachHostContext} {path : String} {world world' : World σ}
    {answer : Except Exception RustBridgeCatalog} (h : memory.Holds owned)
    (hattach : rustBridgeAttach fuel remote duckdb context path world memory =
      some (answer, world', memory')) :
    Settles RustBridgeCatalog.blocks owned answer memory' := by
  unfold rustBridgeAttach at hattach
  rcases hresolve : resolveAttach remote.sdk (attachHost duckdb) path ⟨context, []⟩ memory with
    ⟨resolved, state, rest⟩
  have hsettled := takeError_settles "failed to resolve Coda attach config"
    (resolveAttach_settles h hresolve)
  simp only [hresolve] at hattach
  rcases htake : takeError "failed to resolve Coda attach config" resolved rest with
    ⟨exception | attachConfig, mid⟩ <;> rw [htake] at hsettled <;> simp only [htake] at hattach
  · cases hattach
    exact settles_error.mpr (settles_error.mp hsettled)
  · have hconfig := settles_ok.mp hsettled
    obtain ⟨⟨listed, w, last⟩, hlist, heq⟩ := Option.map_eq_some_iff.mp hattach
    have htables := listTables_settles hconfig
      (attachConfig.clientConfig_le.trans (Multiset.le_add_right _ _)) hlist
    cases listed with
    | error exception =>
        cases heq
        obtain ⟨lost, hlost⟩ := settles_error.mp htables
        exact settles_error.mpr ⟨lost, freeAttachConfig_holds (hlost.of_eq (add_left_comm _ _ _))⟩
    | ok catalogInfo =>
        cases heq
        refine settles_ok.mpr ((settles_ok.mp htables).of_eq ?_)
        rw [RustBridgeCatalog.blocks]
        abel

end DuckdbCoda.Abi
