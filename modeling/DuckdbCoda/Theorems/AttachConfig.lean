import DuckdbCoda.Model.Attach
import DuckdbCoda.Model.MockCoda

/-!
# Which document and credential an ATTACH resolves to

`Resolution` lists the ways in which `resolve_attach` can end, each with the
calls of the host it has made by then; `resolveAttach_ends` says that there are
no others. Which credential wins and when an ATTACH fails are read off the list.
-/

namespace DuckdbCoda

variable {η : Type}

/-! ## What the host answers -/

/-- The answers of a host to the five calls, made one after the other. -/
structure HostAnswers where
  token : Except String String
  apiBase : Except String String
  includeRowMetadata : Except String String
  docSecret : Except String String
  anySecret : Except String String

/-- The state of the host after the three options. -/
def RustExtAttachHost.afterOptions (host : RustExtAttachHost η) (state : η) : η :=
  (host.getOption (host.getOption (host.getOption state tokenOption).2 apiBaseOption).2
    includeRowMetadataOption).2

/-- The lookup of the secret for the document, in the state it is made in. -/
def RustExtAttachHost.docAnswer (host : RustExtAttachHost η) (path : String) (state : η) :
    Except String String × η :=
  host.lookupSecret (host.afterOptions state) (secretScopePrefix ++ attachResource path)
    secretType tokenOption

def RustExtAttachHost.answers (host : RustExtAttachHost η) (path : String) (state : η) :
    HostAnswers where
  token := (host.getOption state tokenOption).1
  apiBase := (host.getOption (host.getOption state tokenOption).2 apiBaseOption).1
  includeRowMetadata := (host.getOption (host.getOption (host.getOption state tokenOption).2
    apiBaseOption).2 includeRowMetadataOption).1
  docSecret := (host.docAnswer path state).1
  anySecret := (host.lookupSecret (host.docAnswer path state).2 secretScopePrefix secretType
    tokenOption).1

/-- The text of an answer; a failure has none. -/
def shownText : Except String String → String
  | .ok text => text
  | .error _ => ""

/-- The texts that can serve as the credential, in the order of precedence. -/
def HostAnswers.credentials (answers : HostAnswers) : List String :=
  [answers.token, answers.docSecret, answers.anySecret].map shownText

/-- The spellings the row-metadata option may have. -/
def acceptedSpellings : List String :=
  ["", "false", "FALSE", "False", "0", "true", "TRUE", "True", "1"]

/-- The lookup of the secret for the document. -/
def docLookup (path : String) : HostCall :=
  .lookupSecret (secretScopePrefix ++ attachResource path) secretType tokenOption

/-- The lookup of the secret for any document. -/
def anyLookup : HostCall := .lookupSecret secretScopePrefix secretType tokenOption

/-! ## The ways to end -/

section

variable (sdk : Sdk) (path : String) (answers : HostAnswers)

/-- The calls for the three options. -/
def optionCalls : List HostExchange := [
  ⟨.getOption tokenOption, answers.token⟩, ⟨.getOption apiBaseOption, answers.apiBase⟩,
  ⟨.getOption includeRowMetadataOption, answers.includeRowMetadata⟩]

/-- How the search for a credential ends: with the one of the record, or after
one or two lookups. -/
inductive Credential (result : RustExtAttachConfig) :
    Except String RustExtAttachConfig → List HostExchange → Prop where
  | given : result.credential ≠ "" → Credential result (.ok result) []
  | docFailed {failure message} : result.credential = "" → answers.docSecret = .error failure →
      Credential result (.error message) [⟨docLookup path, .error failure⟩]
  | fromDoc {secret} : result.credential = "" → answers.docSecret = .ok secret → secret ≠ "" →
      Credential result (.ok { result with credential := secret })
        [⟨docLookup path, .ok secret⟩]
  | anyFailed {failure message} : result.credential = "" → answers.docSecret = .ok "" →
      answers.anySecret = .error failure →
      Credential result (.error message)
        [⟨docLookup path, .ok ""⟩, ⟨anyLookup, .error failure⟩]
  | missing {message} : result.credential = "" → answers.docSecret = .ok "" →
      answers.anySecret = .ok "" →
      Credential result (.error message) [⟨docLookup path, .ok ""⟩, ⟨anyLookup, .ok ""⟩]
  | fromAny {secret} : result.credential = "" → answers.docSecret = .ok "" →
      answers.anySecret = .ok secret → secret ≠ "" →
      Credential result (.ok { result with credential := secret })
        [⟨docLookup path, .ok ""⟩, ⟨anyLookup, .ok secret⟩]

/-- How `resolve_attach` ends, with the calls it has made. -/
inductive Resolution : Except String RustExtAttachConfig → List HostExchange → Prop where
  | optionFailed {call failure message calls} : ⟨call, .error failure⟩ ∈ calls →
      (∀ exchange ∈ calls, exchange ∈ optionCalls answers) → Resolution (.error message) calls
  | emptyDocId {token endpoint spelling} : answers.token = .ok token →
      answers.apiBase = .ok endpoint → answers.includeRowMetadata = .ok spelling →
      attachResource path = "" → Resolution (.error "empty doc id") (optionCalls answers)
  | invalidSpelling {token endpoint spelling} : answers.token = .ok token →
      answers.apiBase = .ok endpoint → answers.includeRowMetadata = .ok spelling →
      includeSystemColumns spelling = none →
      Resolution (.error "invalid boolean attach option") (optionCalls answers)
  | usable {token endpoint spelling included result calls} : answers.token = .ok token →
      answers.apiBase = .ok endpoint → answers.includeRowMetadata = .ok spelling →
      attachResource path ≠ "" → includeSystemColumns spelling = some included →
      Credential path answers (attachConfig sdk (attachResource path) token endpoint included)
        result calls →
      Resolution result (optionCalls answers ++ calls)

end

/-- A text of the host is empty, or it is not. -/
theorem isEmpty_cases (text : String) :
    (text.isEmpty = true ∧ text = "") ∨ (text.isEmpty = false ∧ text ≠ "") := by
  by_cases h : text = ""
  · exact .inl ⟨by simp [h], h⟩
  · exact .inr ⟨by simpa using h, h⟩

/-- The second lookup, after an empty answer to the first. -/
theorem resolveCredential_ends_any (sdk : Sdk) (host : RustExtAttachHost η) (path : String)
    (state later : η) (log : List HostExchange) (endpoint : String) (included : Bool)
    (hdoc : host.docAnswer path state = (.ok "", later)) :
    let result := attachConfig sdk (attachResource path) "" endpoint included
    let outcome := resolveCredential host result ⟨host.afterOptions state, log⟩
    ∃ calls, outcome.2.calls = log ++ calls ∧
      Credential path (host.answers path state) result outcome.1 calls := by
  intro result outcome
  have hdocAnswer : (host.answers path state).docSecret = .ok "" := congrArg Prod.fst hdoc
  have hanyAnswer : (host.answers path state).anySecret =
      (host.lookupSecret later secretScopePrefix secretType tokenOption).1 := by
    rw [RustExtAttachHost.answers, hdoc]
  rw [RustExtAttachHost.docAnswer] at hdoc
  rcases hany : host.lookupSecret later secretScopePrefix secretType tokenOption with
    ⟨failure | secret, last⟩
  · rw [hany] at hanyAnswer
    have houtcome : outcome = (.error (hostError "host secret lookup failed" failure),
        ⟨last, log ++ [⟨docLookup path, .ok ""⟩, ⟨anyLookup, .error failure⟩]⟩) := by
      simp [outcome, resolveCredential, lookupSecret, result, attachConfig, hdoc, hany,
        Except.mapError, docLookup, anyLookup]
    rw [houtcome]
    exact ⟨_, rfl, .anyFailed rfl hdocAnswer hanyAnswer⟩
  · rw [hany] at hanyAnswer
    rcases isEmpty_cases secret with ⟨hempty, rfl⟩ | ⟨hempty, hsecret⟩
    · have houtcome : outcome = (.error "missing credential",
          ⟨last, log ++ [⟨docLookup path, .ok ""⟩, ⟨anyLookup, .ok ""⟩]⟩) := by
        simp [outcome, resolveCredential, lookupSecret, result, attachConfig, hdoc, hany,
          Except.mapError, docLookup, anyLookup]
      rw [houtcome]
      exact ⟨_, rfl, .missing rfl hdocAnswer hanyAnswer⟩
    · have houtcome : outcome = (.ok { result with credential := secret },
          ⟨last, log ++ [⟨docLookup path, .ok ""⟩, ⟨anyLookup, .ok secret⟩]⟩) := by
        simp [outcome, resolveCredential, lookupSecret, result, attachConfig, hdoc, hany,
          Except.mapError, docLookup, anyLookup, hempty]
      rw [houtcome]
      exact ⟨_, rfl, .fromAny rfl hdocAnswer hanyAnswer hsecret⟩

/-- The search for a credential, from the state after the options. -/
theorem resolveCredential_ends (sdk : Sdk) (host : RustExtAttachHost η) (path : String)
    (state : η) (log : List HostExchange) (token endpoint : String) (included : Bool) :
    let result := attachConfig sdk (attachResource path) token endpoint included
    let outcome := resolveCredential host result ⟨host.afterOptions state, log⟩
    ∃ calls, outcome.2.calls = log ++ calls ∧
      Credential path (host.answers path state) result outcome.1 calls := by
  intro result outcome
  rcases isEmpty_cases token with ⟨_, rfl⟩ | ⟨hempty, htoken⟩
  case inr =>
    have houtcome : outcome = (.ok result, ⟨host.afterOptions state, log⟩) := by
      simp [outcome, resolveCredential, result, attachConfig, hempty]
    rw [houtcome]
    exact ⟨[], (List.append_nil _).symm, .given htoken⟩
  case inl =>
    -- no token: the secret of the document is asked for before the one of any document
    rcases hdoc : host.docAnswer path state with ⟨failure | secret, later⟩
    · have hdocAnswer : (host.answers path state).docSecret = .error failure :=
        congrArg Prod.fst hdoc
      rw [RustExtAttachHost.docAnswer] at hdoc
      have houtcome : outcome = (.error (hostError "host secret lookup failed" failure),
          ⟨later, log ++ [⟨docLookup path, .error failure⟩]⟩) := by
        simp [outcome, resolveCredential, lookupSecret, result, attachConfig, hdoc,
          Except.mapError, docLookup]
      rw [houtcome]
      exact ⟨_, rfl, .docFailed rfl hdocAnswer⟩
    · rcases isEmpty_cases secret with ⟨_, rfl⟩ | ⟨hempty, hsecret⟩
      · exact resolveCredential_ends_any sdk host path state later log endpoint included hdoc
      · have hdocAnswer : (host.answers path state).docSecret = .ok secret :=
          congrArg Prod.fst hdoc
        rw [RustExtAttachHost.docAnswer] at hdoc
        have houtcome : outcome = (.ok { result with credential := secret },
            ⟨later, log ++ [⟨docLookup path, .ok secret⟩]⟩) := by
          simp [outcome, resolveCredential, lookupSecret, result, attachConfig, hdoc,
            Except.mapError, docLookup, hempty]
        rw [houtcome]
        exact ⟨_, rfl, .fromDoc rfl hdocAnswer hsecret⟩

/-- **The ways to end are all there are.** -/
theorem resolveAttach_ends (sdk : Sdk) (host : RustExtAttachHost η) (path : String) (state : η) :
    Resolution sdk path (host.answers path state) (resolveAttach sdk host path ⟨state, []⟩).1
      (resolveAttach sdk host path ⟨state, []⟩).2.calls := by
  have hcalls : optionCalls (host.answers path state) = [
      ⟨.getOption tokenOption, (host.getOption state tokenOption).1⟩,
      ⟨.getOption apiBaseOption,
        (host.getOption (host.getOption state tokenOption).2 apiBaseOption).1⟩,
      ⟨.getOption includeRowMetadataOption, (host.getOption (host.getOption
        (host.getOption state tokenOption).2 apiBaseOption).2 includeRowMetadataOption).1⟩] := rfl
  have hafter : (host.getOption (host.getOption (host.getOption state tokenOption).2
      apiBaseOption).2 includeRowMetadataOption).2 = host.afterOptions state := rfl
  -- the three options are read in this order, and each failure ends it
  rcases htoken : host.getOption state tokenOption with ⟨failure | token, first⟩
  · simp only [resolveAttach, getOption, htoken, Except.mapError]
    refine .optionFailed (List.mem_singleton_self _) ?_
    rw [hcalls, htoken]
    simp
  rcases hbase : host.getOption first apiBaseOption with ⟨failure | endpoint, second⟩
  · simp only [resolveAttach, getOption, htoken, hbase, Except.mapError]
    refine .optionFailed (List.mem_append_right _ (List.mem_singleton_self _)) ?_
    rw [hcalls, htoken, hbase]
    simp
  rcases hspelling : host.getOption second includeRowMetadataOption with ⟨failure | spelling, third⟩
  · simp only [resolveAttach, getOption, htoken, hbase, hspelling, Except.mapError]
    refine .optionFailed (List.mem_append_right _ (List.mem_singleton_self _)) ?_
    rw [hcalls, htoken, hbase, hspelling]
    simp
  -- all of them are answered: what is left to refuse is the document, then the spelling
  simp only [htoken, hbase, hspelling] at hcalls hafter
  have htokenAnswer : (host.answers path state).token = .ok token := congrArg Prod.fst htoken
  have hbaseAnswer : (host.answers path state).apiBase = .ok endpoint := by
    simp only [RustExtAttachHost.answers, htoken, hbase]
  have hspellingAnswer : (host.answers path state).includeRowMetadata = .ok spelling := by
    simp only [RustExtAttachHost.answers, htoken, hbase, hspelling]
  rcases isEmpty_cases (attachResource path) with ⟨hempty, hdoc⟩ | ⟨hempty, hdoc⟩
  · have hend : resolveAttach sdk host path ⟨state, []⟩ =
        (.error "empty doc id", ⟨third, optionCalls (host.answers path state)⟩) := by
      simp [resolveAttach, getOption, htoken, hbase, hspelling, Except.mapError, hempty, hcalls]
    rw [hend]
    exact .emptyDocId htokenAnswer hbaseAnswer hspellingAnswer hdoc
  cases hincluded : includeSystemColumns spelling with
  | none =>
      have hend : resolveAttach sdk host path ⟨state, []⟩ =
          (.error "invalid boolean attach option",
            ⟨third, optionCalls (host.answers path state)⟩) := by
        simp [resolveAttach, getOption, htoken, hbase, hspelling, Except.mapError, hempty, hincluded,
          hcalls]
      rw [hend]
      exact .invalidSpelling htokenAnswer hbaseAnswer hspellingAnswer hincluded
  | some included =>
      have hend : resolveAttach sdk host path ⟨state, []⟩ = resolveCredential host
          (attachConfig sdk (attachResource path) token endpoint included)
          ⟨host.afterOptions state, optionCalls (host.answers path state)⟩ := by
        simp [resolveAttach, getOption, htoken, hbase, hspelling, Except.mapError, hempty, hincluded,
          hcalls, hafter]
      obtain ⟨calls, hlog, hcredential⟩ := resolveCredential_ends sdk host path state
        (optionCalls (host.answers path state)) token endpoint included
      rw [hend, hlog]
      exact .usable htokenAnswer hbaseAnswer hspellingAnswer hdoc hincluded hcredential

/-! ## The document -/

theorem attachResource_prefixed (doc : String) :
    attachResource (secretScopePrefix ++ doc) = doc := by
  have hrest : secretScopePrefix.toList.isPrefixOf? (secretScopePrefix ++ doc).toList =
      some doc.toList := by
    rw [List.isPrefixOf?_eq_some_iff_append_eq, String.toList_append]
  rw [attachResource, hrest]
  exact String.ofList_toList

theorem attachResource_plain {path : String}
    (hplain : ¬ secretScopePrefix.toList <+: path.toList) : attachResource path = path := by
  unfold attachResource
  split
  case h_1 rest hrest =>
    exact absurd ⟨rest, List.isPrefixOf?_eq_some_iff_append_eq.mp hrest⟩ hplain
  case h_2 => rfl

/-- The path of a document is read with the scope before it or without. -/
theorem resolveAttach_prefixed (sdk : Sdk) (host : RustExtAttachHost η) {path : String}
    (hplain : ¬ secretScopePrefix.toList <+: path.toList) (world : HostWorld η) :
    resolveAttach sdk host (secretScopePrefix ++ path) world =
      resolveAttach sdk host path world := by
  unfold resolveAttach
  rw [attachResource_prefixed, attachResource_plain hplain]

/-! ## The credential -/

/-- No call of these failed. -/
def Answered (calls : List HostExchange) : Prop :=
  ∀ exchange ∈ calls, ∃ text, exchange.answer = .ok text

section

variable {sdk : Sdk} {path : String} {answers : HostAnswers}
  {outcome : Except String RustExtAttachConfig} {calls : List HostExchange}

theorem Credential.ok_iff {result : RustExtAttachConfig}
    (h : Credential path answers result outcome calls) :
    (∃ config, outcome = .ok config) ↔ Answered calls ∧
      ∃ credential ∈ [result.credential, shownText answers.docSecret, shownText answers.anySecret],
        credential ≠ "" := by
  cases h with
  | given htoken => simp [Answered, htoken]
  | docFailed htoken hdoc => simp [Answered]
  | fromDoc htoken hdoc hsecret => simp [Answered, hdoc, shownText, hsecret]
  | anyFailed htoken hdoc hany => simp [Answered]
  | missing htoken hdoc hany => simp [Answered, htoken, hdoc, hany, shownText]
  | fromAny htoken hdoc hany hsecret => simp [Answered, hany, shownText, hsecret]

theorem Credential.resolved {result : RustExtAttachConfig} {config : RustExtAttachConfig}
    (h : Credential path answers result outcome calls) (hok : outcome = .ok config) :
    config.resource = result.resource ∧
      [result.credential, shownText answers.docSecret, shownText answers.anySecret].find?
        (fun credential => credential ≠ "") = some config.credential := by
  cases h with
  | given htoken =>
      cases hok
      simp [htoken]
  | docFailed htoken hdoc => cases hok
  | fromDoc htoken hdoc hsecret =>
      cases hok
      simp [htoken, hdoc, shownText, hsecret]
  | anyFailed htoken hdoc hany => cases hok
  | missing htoken hdoc hany => cases hok
  | fromAny htoken hdoc hany hsecret =>
      cases hok
      simp [htoken, hdoc, hany, shownText, hsecret]

/-- The scope of a document is not the one for all of them. -/
theorem docLookup_ne_anyLookup (hdoc : attachResource path ≠ "") : docLookup path ≠ anyLookup := by
  intro h
  injection h with hscope
  have hlists := congrArg String.toList hscope
  rw [String.toList_append] at hlists
  have hnone : (attachResource path).toList = [] := by simpa using hlists
  exact hdoc (String.toList_eq_nil_iff.mp hnone)

/-- Each lookup is made only for want of what goes before it. -/
theorem Credential.lookups {result : RustExtAttachConfig}
    (h : Credential path answers result outcome calls) :
    (docLookup path ∈ calls.map HostExchange.call → result.credential = "") ∧
    (attachResource path ≠ "" → anyLookup ∈ calls.map HostExchange.call →
      result.credential = "" ∧ answers.docSecret = .ok "") := by
  cases h with
  | given htoken => simp
  | docFailed htoken hdoc =>
      refine ⟨fun _ => htoken, ?_⟩
      intro hne hmem
      exact absurd (List.mem_singleton.mp hmem).symm (docLookup_ne_anyLookup hne)
  | fromDoc htoken hdoc hsecret =>
      refine ⟨fun _ => htoken, ?_⟩
      intro hne hmem
      exact absurd (List.mem_singleton.mp hmem).symm (docLookup_ne_anyLookup hne)
  | anyFailed htoken hdoc hany => exact ⟨fun _ => htoken, fun _ _ => ⟨htoken, hdoc⟩⟩
  | missing htoken hdoc hany => exact ⟨fun _ => htoken, fun _ _ => ⟨htoken, hdoc⟩⟩
  | fromAny htoken hdoc hany hsecret => exact ⟨fun _ => htoken, fun _ _ => ⟨htoken, hdoc⟩⟩

/-! ## When an ATTACH succeeds -/

theorem includeSystemColumns_eq_none_iff (spelling : String) :
    includeSystemColumns spelling = none ↔ spelling ∉ acceptedSpellings := by
  unfold includeSystemColumns
  split <;> simp_all [acceptedSpellings]

/-- The calls for the options are no lookups. -/
theorem not_lookup_of_optionCalls (hcalls : ∀ exchange ∈ calls, exchange ∈ optionCalls answers)
    (scope type key : String) : .lookupSecret scope type key ∉ calls.map HostExchange.call := by
  intro hmem
  obtain ⟨exchange, hexchange, hcall⟩ := List.mem_map.mp hmem
  have := hcalls exchange hexchange
  simp only [optionCalls, List.mem_cons, List.not_mem_nil, or_false] at this
  rcases this with rfl | rfl | rfl <;> cases hcall

/-- What follows for the whole resolution from the search for the credential. -/
theorem Resolution.ok_iff (h : Resolution sdk path answers outcome calls) :
    (∃ config, outcome = .ok config) ↔ Answered calls ∧ attachResource path ≠ "" ∧
      shownText answers.includeRowMetadata ∈ acceptedSpellings ∧
      ∃ credential ∈ answers.credentials, credential ≠ "" := by
  cases h with
  | optionFailed hfailed hcalls =>
      constructor
      · rintro ⟨config, h⟩
        cases h
      · rintro ⟨hanswered, _⟩
        obtain ⟨text, htext⟩ := hanswered _ hfailed
        cases htext
  | emptyDocId htoken hbase hspelling hdoc => simp [hdoc]
  | invalidSpelling htoken hbase hspelling hinvalid =>
      have hnot := (includeSystemColumns_eq_none_iff _).mp hinvalid
      simp [hspelling, shownText, hnot]
  | @usable token endpoint spelling included _ later htoken hbase hspelling hdoc hincluded hcredential =>
      have haccepted : spelling ∈ acceptedSpellings := by
        by_contra hnot
        rw [(includeSystemColumns_eq_none_iff _).mpr hnot] at hincluded
        cases hincluded
      have hoptions : Answered (optionCalls answers ++ later) ↔ Answered later := by
        simp [Answered, optionCalls, htoken, hbase, hspelling]
      rw [hcredential.ok_iff, hoptions]
      simp [htoken, hspelling, hdoc, haccepted, HostAnswers.credentials, shownText, attachConfig]

theorem Resolution.resolved {config : RustExtAttachConfig}
    (h : Resolution sdk path answers outcome calls) (hok : outcome = .ok config) :
    config.resource = attachResource path ∧
      answers.credentials.find? (fun credential => credential ≠ "") = some config.credential := by
  cases h with
  | optionFailed hfailed hcalls => cases hok
  | emptyDocId htoken hbase hspelling hdoc => cases hok
  | invalidSpelling htoken hbase hspelling hinvalid => cases hok
  | usable htoken hbase hspelling hdoc hincluded hcredential =>
      obtain ⟨hresource, hfirst⟩ := hcredential.resolved hok
      refine ⟨hresource, ?_⟩
      simpa [HostAnswers.credentials, htoken, shownText, attachConfig] using hfirst

theorem Resolution.lookups (h : Resolution sdk path answers outcome calls) :
    (docLookup path ∈ calls.map HostExchange.call → answers.token = .ok "") ∧
    (anyLookup ∈ calls.map HostExchange.call →
      answers.token = .ok "" ∧ answers.docSecret = .ok "") := by
  have hnone : (∀ exchange ∈ calls, exchange ∈ optionCalls answers) →
      docLookup path ∉ calls.map HostExchange.call ∧ anyLookup ∉ calls.map HostExchange.call :=
    fun hcalls => ⟨not_lookup_of_optionCalls hcalls _ _ _, not_lookup_of_optionCalls hcalls _ _ _⟩
  cases h with
  | optionFailed hfailed hcalls =>
      exact ⟨fun h => absurd h (hnone hcalls).1, fun h => absurd h (hnone hcalls).2⟩
  | emptyDocId htoken hbase hspelling hdoc =>
      have hnot := hnone fun _ => id
      exact ⟨fun h => absurd h hnot.1, fun h => absurd h hnot.2⟩
  | invalidSpelling htoken hbase hspelling hinvalid =>
      have hnot := hnone fun _ => id
      exact ⟨fun h => absurd h hnot.1, fun h => absurd h hnot.2⟩
  | usable htoken hbase hspelling hdoc hincluded hcredential =>
      obtain ⟨hdocLookup, hanyLookup⟩ := hcredential.lookups
      have hoptions : ∀ scope, HostCall.lookupSecret scope secretType tokenOption ∉
          (optionCalls answers).map HostExchange.call :=
        fun scope => not_lookup_of_optionCalls (fun _ => id) scope _ _
      rw [List.map_append, List.mem_append, List.mem_append, htoken]
      constructor
      · rintro (hmem | hmem)
        · exact absurd hmem (hoptions _)
        · exact congrArg Except.ok (hdocLookup hmem)
      · rintro (hmem | hmem)
        · exact absurd hmem (hoptions _)
        · obtain ⟨htoken, hsecret⟩ := hanyLookup hdoc hmem
          exact ⟨congrArg Except.ok htoken, hsecret⟩

end

/-- **An ATTACH resolves to its document and the first credential there is, or
fails.** It succeeds exactly if no call of the host that it makes fails, a
document is named, the row-metadata option has an accepted spelling, and one of
the token option, the secret of the document and the secret of all documents is
non-empty. The credential is the first of these; a secret is looked up only for
want of what goes before it; and the scope may stand before the document:
`attachResource` drops it there and changes nothing else (`attachResource_prefixed`,
`attachResource_plain`). -/
theorem attach_exact (sdk : Sdk) (host : RustExtAttachHost η) (path : String) (state : η) :
    let answers := host.answers path state
    let outcome := resolveAttach sdk host path ⟨state, []⟩
    ((∃ config, outcome.1 = .ok config) ↔
      Answered outcome.2.calls ∧ attachResource path ≠ "" ∧
        shownText answers.includeRowMetadata ∈ acceptedSpellings ∧
        ∃ credential ∈ answers.credentials, credential ≠ "") ∧
    (∀ config, outcome.1 = .ok config → config.resource = attachResource path ∧
      answers.credentials.find? (fun credential => credential ≠ "") = some config.credential) ∧
    (docLookup path ∈ outcome.2.calls.map HostExchange.call → answers.token = .ok "") ∧
    (anyLookup ∈ outcome.2.calls.map HostExchange.call →
      answers.token = .ok "" ∧ answers.docSecret = .ok "") ∧
    (¬ secretScopePrefix.toList <+: path.toList →
      resolveAttach sdk host (secretScopePrefix ++ path) ⟨state, []⟩ = outcome) := by
  intro answers outcome
  have hends : Resolution sdk path answers outcome.1 outcome.2.calls :=
    resolveAttach_ends sdk host path state
  obtain ⟨hdoc, hany⟩ := hends.lookups
  refine ⟨hends.ok_iff, ?_, hdoc, hany, ?_⟩
  · intro config hok
    exact hends.resolved hok
  · intro hplain
    exact resolveAttach_prefixed sdk host hplain _

/-! ## `coda_offline.test` -/

/-- An ATTACH with the given options and, maybe, a secret for all documents. -/
def mockAttach (options : List (String × String)) (secret : Option String) : AttachHostContext where
  options name := (options.find? fun option => option.1 = name).map fun option =>
    .varchar option.2
  lookupSecret scope _ := .ok (if scope = "coda:" then
    secret.map fun token => .keyValue fun _ => .ok (.varchar token) else none)

example : resolveAttachConfig mockSdk (attachHost mockDuckDb) "dummy-doc" (mockAttach [] none) =
    .error (.invalidInput "failed to resolve Coda attach config: missing credential") := by
  decide

example : resolveAttachConfig mockSdk (attachHost mockDuckDb) "dummy-doc"
    (mockAttach [("token", "dummy-token"), ("include_row_metadata", "maybe")]
      (some "dummy-token")) =
    .error (.invalidInput
      "failed to resolve Coda attach config: invalid boolean attach option") := by
  decide

end DuckdbCoda
