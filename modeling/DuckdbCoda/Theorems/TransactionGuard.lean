import DuckdbCoda.Lib.QuotedText
import DuckdbCoda.Model.Transaction

/-!
# The transaction guard and quoted text

`RejectExplicitTransaction` looks for three words in the whole text of the
query. They are made of letters, so it finds them in the code of the query or
in a quoted body (`mentionsTransactionControl_text`): what is written in a
string literal or a quoted identifier decides unless the code mentions one
anyway.
-/

namespace DuckdbCoda

open AsciiCase

/-- The words the guard looks for. -/
def transactionControlWords : List String := ["begin", "rollback", "commit"]

/-- Whether a text has one of them, in any letter case, also as a part of a
longer word. -/
def mentionsTransactionControl (text : String) : Bool :=
  transactionControlWords.any fun word => queryMentions word text

theorem isExplicitTransaction_eq (context : ClientContext) :
    isExplicitTransaction context =
      (!context.isAutoCommit || mentionsTransactionControl context.currentQuery) := by
  simp [isExplicitTransaction, mentionsTransactionControl, transactionControlWords,
    Bool.or_assoc]

/-- The decision of the guard. -/
theorem rejectExplicitTransaction_eq (context : ClientContext) :
    rejectExplicitTransaction context =
      if !context.isAutoCommit || mentionsTransactionControl context.currentQuery then
        .error (.notImplemented explicitTransactionNotSupportedMessage)
      else .ok () := by
  rw [← isExplicitTransaction_eq]
  rfl

/-- In autocommit mode the guard decides by the words alone. -/
theorem rejectExplicitTransaction_ok_iff (query : String) :
    rejectExplicitTransaction ⟨true, query⟩ = .ok () ↔
      mentionsTransactionControl query = false := by
  rw [rejectExplicitTransaction_eq]
  cases mentionsTransactionControl query <;> simp

/-- The words are made of letters. -/
theorem transactionControlWords_letters {word : String} (h : word ∈ transactionControlWords) :
    word.toList ≠ [] ∧ word.toList.all Char.isAlpha = true := by
  simp only [transactionControlWords, List.mem_cons, List.not_mem_nil, or_false] at h
  rcases h with rfl | rfl | rfl
  · exact ⟨List.cons_ne_nil _ _, rfl⟩
  · exact ⟨List.cons_ne_nil _ _, rfl⟩
  · exact ⟨List.cons_ne_nil _ _, rfl⟩

/-- **The words of a query are those of its code and those of its bodies.** -/
theorem mentionsTransactionControl_text (query : QuotedText) :
    mentionsTransactionControl query.text =
      (query.codes.any mentionsTransactionControl ||
        query.bodies.any mentionsTransactionControl) := by
  have hoccurs : ∀ word ∈ transactionControlWords, word.toList <:+: foldCase query.text ↔
      (∃ piece ∈ query.codes, word.toList <:+: foldCase piece) ∨
        ∃ piece ∈ query.bodies, word.toList <:+: foldCase piece := by
    intro word hword
    obtain ⟨hne, hletters⟩ := transactionControlWords_letters hword
    exact query.infix_text_iff hne hletters
  rw [Bool.eq_iff_iff]
  simp only [mentionsTransactionControl, queryMentions, List.any_eq_true, Bool.or_eq_true,
    decide_eq_true_eq]
  constructor
  · rintro ⟨word, hword, htext⟩
    rcases (hoccurs word hword).mp htext with ⟨piece, hpiece, h⟩ | ⟨piece, hpiece, h⟩
    · exact .inl ⟨piece, hpiece, word, hword, h⟩
    · exact .inr ⟨piece, hpiece, word, hword, h⟩
  · rintro (⟨piece, hpiece, word, hword, h⟩ | ⟨piece, hpiece, word, hword, h⟩)
    · exact ⟨word, hword, (hoccurs word hword).mpr (.inl ⟨piece, hpiece, h⟩)⟩
    · exact ⟨word, hword, (hoccurs word hword).mpr (.inr ⟨piece, hpiece, h⟩)⟩

/-! ## What a query is -/

/-- The kinds of statements DuckDB's parser tells apart here. -/
inductive StatementType where
  | insert
  | update
  | delete
  | transaction
  | other
  deriving DecidableEq

/-- One DML statement and nothing else. -/
def isSingleDml : List StatementType → Bool
  | [.insert] => true
  | [.update] => true
  | [.delete] => true
  | _ => false

/-- **The guard does what it is for exactly on queries without the words in
their quoted bodies, or with the words in the code anyway.** It throws outside
autocommit mode. In autocommit mode two queries that differ between quotation
marks only are treated alike, and a single DML statement is let through, if
and only if the words are where the condition allows them. -/
theorem guard_ignores_quoted_iff (statements : String → List StatementType)
    (isAutoCommit : Bool) (left right : QuotedText) (same : left.blanked = right.blanked) :
    ((isAutoCommit = false →
          rejectExplicitTransaction ⟨isAutoCommit, left.text⟩ =
            .error (.notImplemented explicitTransactionNotSupportedMessage)) ∧
        (isAutoCommit = true →
          rejectExplicitTransaction ⟨isAutoCommit, left.text⟩ =
            rejectExplicitTransaction ⟨isAutoCommit, right.text⟩) ∧
        (isAutoCommit = true → isSingleDml (statements left.text) = true →
          rejectExplicitTransaction ⟨isAutoCommit, left.text⟩ = .ok ())) ↔
      (isAutoCommit = true →
        (left.codes.any mentionsTransactionControl = false →
          left.bodies.any mentionsTransactionControl =
            right.bodies.any mentionsTransactionControl) ∧
        (isSingleDml (statements left.text) = true →
          left.codes.any mentionsTransactionControl = false ∧
            left.bodies.any mentionsTransactionControl = false)) := by
  have hcodes : right.codes = left.codes := (QuotedText.codes_eq_of_blanked_eq same).symm
  cases isAutoCommit with
  | false =>
      -- outside autocommit mode the text does not matter
      have hthrows : rejectExplicitTransaction ⟨false, left.text⟩ =
          .error (.notImplemented explicitTransactionNotSupportedMessage) := by
        rw [rejectExplicitTransaction_eq]
        rfl
      simp [hthrows]
  | true =>
      have hdml : rejectExplicitTransaction ⟨true, left.text⟩ = .ok () ↔
          left.codes.any mentionsTransactionControl = false ∧
            left.bodies.any mentionsTransactionControl = false := by
        rw [rejectExplicitTransaction_ok_iff, mentionsTransactionControl_text,
          Bool.or_eq_false_iff]
      have hsame : rejectExplicitTransaction ⟨true, left.text⟩ =
            rejectExplicitTransaction ⟨true, right.text⟩ ↔
          (left.codes.any mentionsTransactionControl = false →
            left.bodies.any mentionsTransactionControl =
              right.bodies.any mentionsTransactionControl) := by
        rw [rejectExplicitTransaction_eq, rejectExplicitTransaction_eq,
          mentionsTransactionControl_text, mentionsTransactionControl_text, hcodes]
        cases left.codes.any mentionsTransactionControl <;>
          cases left.bodies.any mentionsTransactionControl <;>
          cases right.bodies.any mentionsTransactionControl <;> simp
      rw [hsame, hdml]
      simp

/-- An INSERT of one text into the table `Tasks`. -/
def insertText (value : String) : QuotedText :=
  .quoted "INSERT INTO coda.main." .double "Tasks" (.quoted " VALUES (" .single value (.code ")"))

theorem guard_ignores_quoted_iff_insert :
    rejectExplicitTransaction ⟨true, (insertText "Alpha").text⟩ =
        rejectExplicitTransaction ⟨true, (insertText "O''Beta").text⟩ ∧
      rejectExplicitTransaction ⟨true, (insertText "Alpha").text⟩ = .ok () := by
  have h := (guard_ignores_quoted_iff (fun _ => [.insert]) true (insertText "Alpha")
    (insertText "O''Beta") rfl).mpr fun _ =>
      ⟨fun _ => by decide, fun _ => ⟨by decide, by decide⟩⟩
  exact ⟨h.2.1 rfl, h.2.2 rfl rfl⟩

/-- The text `The Beginning` is taken for a transaction: an INSERT of it is
rejected, where the same INSERT of another text is let through. -/
theorem beginning_rejected :
    (insertText "The Beginning").text =
        "INSERT INTO coda.main.\"Tasks\" VALUES ('The Beginning')" ∧
      (insertText "The Beginning").blanked = (insertText "Alpha").blanked ∧
      rejectExplicitTransaction ⟨true, (insertText "The Beginning").text⟩ =
        .error (.notImplemented explicitTransactionNotSupportedMessage) ∧
      rejectExplicitTransaction ⟨true, (insertText "Alpha").text⟩ = .ok () := by
  refine ⟨rfl, rfl, ?_, ?_⟩
  · rw [rejectExplicitTransaction_eq, mentionsTransactionControl_text]
    rfl
  · rw [rejectExplicitTransaction_ok_iff, mentionsTransactionControl_text]
    rfl

end DuckdbCoda
