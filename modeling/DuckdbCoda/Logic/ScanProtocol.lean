import DuckdbCoda.Lib.Paging
import DuckdbCoda.Logic.Requests

/-!
# The scan protocol

What a scan is meant to ask, without the flags of `ScanHandle`: it starts with
no token, follows page tokens, and makes one sync check when the pages end
with a sync token (`following`). A run of a scan is a token chain whose tokens
are these questions (`RowsChain`).
-/

namespace DuckdbCoda

open Paging

variable {σ : Type}

/-- What a request of a scan asks for. -/
inductive Ask where
  | start
  | page (token : String)
  | sync (token : String)
  deriving DecidableEq

/-- A request of a scan: what it asks for, and whether the sync check is made
by now, this request included. -/
structure Question where
  checked : Bool
  ask : Ask
  deriving DecidableEq

def Ask.pageToken : Ask → String
  | .page token => token
  | _ => ""

def Ask.syncToken : Ask → String
  | .sync token => token
  | _ => ""

/-- The first question of every scan. -/
def firstQuestion : Question := ⟨false, .start⟩

/-- The question after a response: its next page, else the sync check when it
is still to be made, else none. -/
def following (question : Question) (response : CodaRowsResponse) : Option Question :=
  match nonEmptyString response.nextPageToken, question.checked,
      nonEmptyString response.nextSyncToken with
  | some token, checked, _ => some ⟨checked, .page token⟩
  | none, false, some token => some ⟨true, .sync token⟩
  | none, _, _ => none

/-- The rows request that puts a question for a scan. -/
def Question.request (scan : ScanHandle) (question : Question) : CodaRowsRequest where
  pageToken := question.ask.pageToken
  query := scan.query
  sortBy := scan.sortBy
  syncToken := question.ask.syncToken
  limit := scan.limit

def RowsAnswer (remote : Remote σ) (scan : ScanHandle) (world : World σ) (question : Question)
    (answer : Except String CodaRowsResponse) (world' : World σ) : Prop :=
  listRows remote scan.config scan.tableId (question.request scan) world = (answer, world')

/-- A run of the protocol against a server. -/
abbrev RowsChain (remote : Remote σ) (scan : ScanHandle) :=
  Chain (RowsAnswer remote scan) following

/-- The questions of a run with the responses to them. -/
abbrev RowsPages := List (Question × CodaRowsResponse)

/-- The rows not flagged deleted, in response order. -/
def RowsPages.visible (pages : RowsPages) : List RustExtRow :=
  pages.flatMap fun page => visibleRows page.2

theorem RowsPages.visible_append (pages more : RowsPages) :
    RowsPages.visible (pages ++ more) = pages.visible ++ more.visible :=
  List.flatMap_append

/-- The requests of a run. -/
def RowsPages.requests (scan : ScanHandle) (pages : RowsPages) : List CodaRowsRequest :=
  pages.map fun page => page.1.request scan

/-! ## Tokens of the questions -/

theorem nonEmptyString_eq_some {value token : String} :
    nonEmptyString value = some token ↔ value = token ∧ token ≠ "" := by
  by_cases h : value = ""
  · subst h
    simp [nonEmptyString]
  · simp only [nonEmptyString, String.isEmpty_iff, h, if_false, Option.some.injEq]
    grind

theorem nonEmptyString_eq_none {value : String} : nonEmptyString value = none ↔ value = "" := by
  by_cases h : value = "" <;> simp [nonEmptyString, h]

/-- The three ways on from a response. -/
theorem following_cases (question : Question) (response : CodaRowsResponse) :
    (response.nextPageToken ≠ "" ∧
      following question response = some ⟨question.checked, .page response.nextPageToken⟩) ∨
    (response.nextPageToken = "" ∧ question.checked = false ∧ response.nextSyncToken ≠ "" ∧
      following question response = some ⟨true, .sync response.nextSyncToken⟩) ∨
    (response.nextPageToken = "" ∧ (response.nextSyncToken = "" ∨ question.checked = true) ∧
      following question response = none) := by
  cases hpage : nonEmptyString response.nextPageToken with
  | some token =>
      obtain ⟨rfl, hne⟩ := nonEmptyString_eq_some.mp hpage
      exact .inl ⟨hne, by simp [following, hpage]⟩
  | none =>
      have hempty := nonEmptyString_eq_none.mp hpage
      cases hchecked : question.checked with
      | true => exact .inr (.inr ⟨hempty, .inr rfl, by simp [following, hpage, hchecked]⟩)
      | false =>
          cases hsync : nonEmptyString response.nextSyncToken with
          | some token =>
              obtain ⟨rfl, hne⟩ := nonEmptyString_eq_some.mp hsync
              exact .inr (.inl ⟨hempty, rfl, hne, by simp [following, hpage, hchecked, hsync]⟩)
          | none =>
              exact .inr (.inr ⟨hempty, .inl (nonEmptyString_eq_none.mp hsync),
                by simp [following, hpage, hchecked, hsync]⟩)

/-- No question carries both tokens. -/
theorem Ask.one_token (ask : Ask) : ask.pageToken = "" ∨ ask.syncToken = "" := by
  cases ask with
  | start => exact .inl rfl
  | page token => exact .inr rfl
  | sync token => exact .inl rfl

/-- Every question after a response carries a token. -/
theorem following_token {question question' : Question} {response : CodaRowsResponse}
    (h : following question response = some question') :
    question'.ask.pageToken ≠ "" ∨ question'.ask.syncToken ≠ "" := by
  rcases following_cases question response with ⟨hne, hf⟩ | ⟨_, _, hne, hf⟩ | ⟨_, _, hf⟩ <;>
    rw [hf] at h
  · cases h
    exact .inl hne
  · cases h
    exact .inr hne
  · cases h

/-- A sync token is carried only where the check is made by the question. -/
theorem following_sync {question question' : Question} {response : CodaRowsResponse}
    (h : following question response = some question') :
    (question'.checked = question.checked ∧ question'.ask.syncToken = "") ∨
    (question.checked = false ∧ question'.checked = true) := by
  rcases following_cases question response with ⟨_, hf⟩ | ⟨_, hc, _, hf⟩ | ⟨_, _, hf⟩ <;>
    rw [hf] at h
  · cases h
    exact .inl ⟨rfl, rfl⟩
  · cases h
    exact .inr ⟨hc, rfl⟩
  · cases h

/-! ## The requests of a run -/

/-- Only the first request of a run may carry no token. -/
theorem requests_tail_token {scan : ScanHandle} {question : Question} {pages : RowsPages}
    (linked : Linked following question pages) :
    ∀ request ∈ (pages.requests scan).tail, request.pageToken ≠ "" ∨ request.syncToken ≠ "" := by
  have htail := linked.forall_tail (fun _ => True)
    (fun question => question.ask.pageToken ≠ "" ∨ question.ask.syncToken ≠ "")
    (fun _ _ _ _ hnext => ⟨trivial, following_token hnext⟩) trivial
  intro request hmem
  rw [RowsPages.requests, ← List.map_tail] at hmem
  obtain ⟨page, hpage, rfl⟩ := List.mem_map.mp hmem
  exact htail page hpage

/-- How many requests of a run carry a sync token. -/
def RowsPages.syncChecks (pages : RowsPages) : Nat :=
  pages.countP fun page => page.1.ask.syncToken ≠ ""

/-- Once the check is made, only the question that made it carries a sync
token. -/
theorem syncChecks_of_checked {question : Question} {pages : RowsPages}
    (linked : Linked following question pages) (hchecked : question.checked = true) :
    pages.syncChecks ≤ 1 := by
  have htail := linked.forall_tail (fun question => question.checked = true)
    (fun question => question.ask.syncToken = "")
    (fun question page question' hinv hnext => by
      rcases following_sync hnext with ⟨hsame, htoken⟩ | ⟨hc, _⟩
      · exact ⟨hsame.trans hinv, htoken⟩
      · rw [hinv] at hc
        cases hc) hchecked
  cases pages with
  | nil => exact absurd rfl linked.ne_nil
  | cons page rest =>
      have hrest : RowsPages.syncChecks rest = 0 :=
        List.countP_eq_zero.mpr fun page hpage => by simpa using htail page hpage
      show List.countP _ _ ≤ 1
      rw [RowsPages.syncChecks] at hrest
      rw [List.countP_cons, hrest]
      split <;> omega

/-- A run makes at most one sync check. -/
theorem syncChecks_le_one {question : Question} {pages : RowsPages}
    (linked : Linked following question pages) (htoken : question.ask.syncToken = "") :
    pages.syncChecks ≤ 1 := by
  induction linked with
  | @last question page _ => simp [RowsPages.syncChecks, htoken]
  | @more question page question' rest hnext linked ih =>
      have hskip : RowsPages.syncChecks ((question, page) :: rest) = RowsPages.syncChecks rest := by
        simp [RowsPages.syncChecks, htoken]
      rw [hskip]
      rcases following_sync hnext with ⟨_, htoken'⟩ | ⟨_, hchecked⟩
      · exact ih htoken'
      · exact syncChecks_of_checked linked hchecked

end DuckdbCoda
