import DuckdbCoda.Lib.AsciiCase

/-!
# Words in a text with quoted parts

A `QuotedText` is a text of code and quoted bodies in turn. A word of letters
cannot reach over the marks, so that it occurs in the text, in any letter case,
exactly if it occurs in a piece of code or in a body (`infix_text_iff`). Texts
that differ in their bodies only have the same `blanked` text.
-/

namespace DuckdbCoda

open AsciiCase

/-- What a quoted part is put between: single quotes (string literals), double
quotes (quoted identifiers), or dollar signs (string literals again). -/
inductive Quote where
  | single
  | double
  | dollar
  deriving DecidableEq

def Quote.mark : Quote → String
  | .single => "'"
  | .double => "\""
  | .dollar => "$"

/-- A text with its quoted parts. A body is what is written between the marks,
so a mark within it may stand there doubled. -/
inductive QuotedText where
  | code (piece : String)
  | quoted (before : String) (quote : Quote) (body : String) (rest : QuotedText)
  deriving DecidableEq

namespace QuotedText

def text : QuotedText → String
  | .code piece => piece
  | .quoted before quote body rest => before ++ quote.mark ++ body ++ quote.mark ++ rest.text

/-- The text with nothing between its quotation marks. -/
def blanked : QuotedText → QuotedText
  | .code piece => .code piece
  | .quoted before quote _ rest => .quoted before quote "" rest.blanked

/-- The pieces outside the quotation marks. -/
def codes : QuotedText → List String
  | .code piece => [piece]
  | .quoted before _ _ rest => before :: rest.codes

/-- The pieces between the quotation marks. -/
def bodies : QuotedText → List String
  | .code _ => []
  | .quoted _ _ body rest => body :: rest.bodies

theorem codes_blanked (query : QuotedText) : query.blanked.codes = query.codes := by
  induction query with
  | code piece => rfl
  | quoted before quote body rest ih => rw [blanked, codes, codes, ih]

/-- Texts that differ in their bodies only have the same code. -/
theorem codes_eq_of_blanked_eq {left right : QuotedText} (h : left.blanked = right.blanked) :
    left.codes = right.codes := by
  rw [← codes_blanked left, h, codes_blanked]

end QuotedText

/-- A word cannot reach over a separator it does not contain. -/
theorem infix_separator_iff {α : Type} {word left right : List α} {separator : α}
    (hword : word ≠ []) (hseparator : separator ∉ word) :
    word <:+: left ++ separator :: right ↔ word <:+: left ∨ word <:+: right := by
  constructor
  · intro h
    -- a part of the word that begins after `left` begins with the separator
    have hstart : ∀ part, part ≠ [] → part <+: separator :: right → separator ∈ part := by
      intro part hpart hpre
      cases part with
      | nil => exact absurd rfl hpart
      | cons first others =>
          obtain ⟨rfl, _⟩ := List.cons_prefix_cons.mp hpre
          exact List.mem_cons_self
    rcases List.infix_append_iff_ne_nil.mp h with hleft | hright | hacross
    · exact .inl hleft
    · rcases List.infix_cons_iff.mp hright with hpre | hoccurs
      · exact absurd (hstart word hword hpre) hseparator
      · exact .inr hoccurs
    · obtain ⟨first, second, _, hsecond, rfl, _, hpre⟩ := hacross
      exact absurd (List.mem_append_right first (hstart second hsecond hpre)) hseparator
  · rintro (hleft | hright)
    · exact List.infix_append_of_infix_left hleft
    · exact List.infix_append_of_infix_right (List.infix_cons hright)

/-- The folded mark is one character. -/
theorem Quote.foldCase_mark (quote : Quote) : ∃ mark, foldCase quote.mark = [mark] := by
  cases quote <;> exact ⟨_, rfl⟩

/-- Marks are not letters. -/
theorem Quote.isAlpha_mark (quote : Quote) :
    ∀ mark ∈ foldCase quote.mark, mark.isAlpha = false := by
  have hall : (foldCase quote.mark).all (fun mark => !mark.isAlpha) = true := by
    cases quote <;> rfl
  intro mark hmark
  simpa using List.all_eq_true.mp hall mark hmark

/-- **A word of letters occurs in the code or in a body.** -/
theorem QuotedText.infix_text_iff {word : List Char} (hword : word ≠ [])
    (hletters : word.all Char.isAlpha = true) (query : QuotedText) :
    word <:+: foldCase query.text ↔
      (∃ piece ∈ query.codes, word <:+: foldCase piece) ∨
        ∃ piece ∈ query.bodies, word <:+: foldCase piece := by
  induction query with
  | code piece => simp [QuotedText.text, codes, bodies]
  | quoted before quote body rest ih =>
      obtain ⟨mark, hfold⟩ := quote.foldCase_mark
      have hseparator : mark ∉ word := by
        intro hmem
        have hmark := quote.isAlpha_mark mark (by rw [hfold]; exact List.mem_singleton_self mark)
        rw [List.all_eq_true.mp hletters mark hmem] at hmark
        cases hmark
      have htext : foldCase (QuotedText.quoted before quote body rest).text =
          foldCase before ++ mark :: (foldCase body ++ mark :: foldCase rest.text) := by
        simp [QuotedText.text, hfold]
      rw [htext, infix_separator_iff hword hseparator, infix_separator_iff hword hseparator, ih]
      simp only [codes, bodies, List.mem_cons, exists_eq_or_imp]
      constructor
      · rintro (hbefore | hbody | hcode | hbodies)
        · exact .inl (.inl hbefore)
        · exact .inr (.inl hbody)
        · exact .inl (.inr hcode)
        · exact .inr (.inr hbodies)
      · rintro ((hbefore | hcode) | hbody | hbodies)
        · exact .inl hbefore
        · exact .inr (.inr (.inl hcode))
        · exact .inr (.inl hbody)
        · exact .inr (.inr (.inr hbodies))

end DuckdbCoda
