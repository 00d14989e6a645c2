import DuckdbCoda.Logic.Encoding
import DuckdbCoda.Logic.Literals
import DuckdbCoda.Logic.Pushdowns
import DuckdbCoda.Model.MockCoda

/-!
# What a value becomes on the way out

A JSON number cannot hold an infinity or NaN, and `json!` turns them into
`null`; the tag of the input value still says double, so no check sees it.
`value_kept_iff` says that these are the only values that become `null`, and
the only ones whose queries do not tell them apart.
-/

namespace DuckdbCoda

open AsciiCase

/-- A FLOAT or DOUBLE that is an infinity or NaN. -/
def Value.NonFinite : Value → Prop
  | .float d => d.isFinite = false
  | .double d => d.isFinite = false
  | _ => False

/-! ## The text of a literal -/

/-- What serde_json prints of scalars: the three names, and strings in quotes,
different ones differently. -/
structure PrintsTexts (serde : SerdeJson) : Prop where
  null : serde.toString .null = "null"
  bool : ∀ value, serde.toString (.bool value) = if value then "true" else "false"
  quoted : ∀ text, ∃ rest, serde.toString (.string text) = "\"" ++ rest
  string : ∀ text text', serde.toString (.string text) = serde.toString (.string text') →
    text = text'

theorem int64_text {serde : SerdeJson} {value : Int64}
    (h : PrintsNumber serde (.number (.ofInt64 value))) :
    serde.toString (.number (.ofInt64 value)) =
      if value < 0 then "-" ++ Nat.repr value.toInt.natAbs else Nat.repr value.toUInt64.toNat := by
  unfold JsonNumber.ofInt64 at h ⊢
  by_cases hneg : value < 0
  · rw [dif_pos hneg] at h ⊢
    rw [if_pos hneg]
    exact h
  · rw [dif_neg hneg] at h ⊢
    rw [if_neg hneg]
    exact h

/-- Integers with the same text are the same. -/
theorem int64_text_injective {m n : Int64}
    (h : (if m < 0 then "-" ++ Nat.repr m.toInt.natAbs else Nat.repr m.toUInt64.toNat) =
      if n < 0 then "-" ++ Nat.repr n.toInt.natAbs else Nat.repr n.toUInt64.toNat) : m = n := by
  -- a sign tells a negative integer from the others, whose text has digits only
  by_cases hm : m < 0 <;> by_cases hn : n < 0
  · rw [if_pos hm, if_pos hn, String.append_right_inj] at h
    have habs := repr_injective h
    rw [Int64.lt_iff_toInt_lt] at hm hn
    have hzero : (0 : Int64).toInt = 0 := rfl
    apply Int64.toInt_inj.mp
    omega
  · rw [if_pos hm, if_neg hn] at h
    exact absurd h.symm (repr_ne_minus _ _)
  · rw [if_neg hm, if_pos hn] at h
    exact absurd h (repr_ne_minus _ _)
  · rw [if_neg hm, if_neg hn] at h
    exact congrArg UInt64.toInt64 (UInt64.toNat_inj.mp (repr_injective h))

theorem parse_null : F64.parse "null" = none := by decide

/-- No scalar but `null` is printed as `null`. -/
theorem print_ne_null {serde : SerdeJson} (texts : PrintsTexts serde) {value : RustExtInputValue}
    (hprints : PrintsNumber serde (inputValueJson value)) (h : inputValueJson value ≠ .null) :
    serde.toString (inputValueJson value) ≠ "null" := by
  have hnumber : ∀ number, PrintsNumber serde (.number number) →
      serde.toString (.number number) ≠ "null" := by
    intro number hnumber heq
    have hparse := parse_printed hnumber
    rw [heq, parse_null] at hparse
    cases hparse
  cases value with
  | null => exact absurd rfl h
  | bool value =>
      rw [inputValueJson, texts.bool]
      cases value <;> decide
  | int value => exact hnumber _ hprints
  | uint value => exact hnumber _ hprints
  | double d =>
      cases hfinite : d.isFinite with
      | true =>
          have hjson : inputValueJson (.double d) = .number (.float d hfinite) := dif_pos hfinite
          rw [hjson] at hprints ⊢
          exact hnumber _ hprints
      | false => exact absurd (dif_neg (by simp [hfinite])) h
  | string text =>
      -- the text `null` is printed in quotes
      obtain ⟨rest, hquoted⟩ := texts.quoted text
      rw [inputValueJson, hquoted]
      intro heq
      have hhead := congrArg (fun s => s.toList.head?) heq
      simp at hhead

/-! ## Values -/

/-- Only NULL and the doubles without a number are encoded as `null`. -/
theorem encoded_null_iff (duckdb : DuckDb) (value : Value) :
    inputValueJson (convert duckdb value) = .null ↔ value.isNull = true ∨ value.NonFinite := by
  have hdouble : ∀ d : F64, jsonDouble d = .null ↔ d.isFinite = false := by
    intro d
    unfold jsonDouble
    split
    · next hfinite => simp [hfinite]
    · next hfinite => simpa using hfinite
  cases value with
  | null type => exact ⟨fun _ => .inl rfl, fun _ => rfl⟩
  | float d => exact (hdouble d).trans ⟨.inr, fun h => h.resolve_left (fun h => by cases h)⟩
  | double d => exact (hdouble d).trans ⟨.inr, fun h => h.resolve_left (fun h => by cases h)⟩
  | _ =>
      refine ⟨fun h => (by cases h), ?_⟩
      intro h
      rcases h with h | h
      · cases h
      · exact h.elim

theorem sameDouble_refl {d : F64} (hfinite : d.isFinite = true) : d.sameDouble d = true :=
  (F64.sameDouble_iff_scaled hfinite hfinite).mpr rfl

/-- Doubles, one of them finite, with the same text are the same. -/
theorem double_print_injective {serde : SerdeJson} (texts : PrintsTexts serde) {d e : F64}
    (hfinite : d.isFinite = true)
    (hd : PrintsNumber serde (jsonDouble d)) (he : PrintsNumber serde (jsonDouble e))
    (h : serde.toString (jsonDouble d) = serde.toString (jsonDouble e)) :
    d.sameDouble e = true := by
  rw [show jsonDouble d = .number (.float d hfinite) from dif_pos hfinite] at hd h
  cases hfinite' : e.isFinite with
  | true =>
      rw [show jsonDouble e = .number (.float e hfinite') from dif_pos hfinite'] at he h
      have hparse := (parse_printed hd).symm.trans ((congrArg F64.parse h).trans (parse_printed he))
      rw [show d = e from Option.some.inj hparse]
      exact sameDouble_refl hfinite'
  | false =>
      -- the other one is printed as `null`, which no number is
      rw [show jsonDouble e = .null from dif_neg (by simp [hfinite']), texts.null] at h
      have hparse := parse_printed hd
      rw [h, parse_null] at hparse
      cases hparse

/-- **Equal texts, equal values**: two values of one type, one of them kept, whose
literals have the same text are equal for DuckDB. -/
theorem sqlEqual_of_print_eq {serde : SerdeJson} (duckdb : DuckDb) (texts : PrintsTexts serde)
    {value other : Value} (htype : value.type = other.type) (hvalue : value.isNull = false)
    (hother : other.isNull = false) (hkept : ¬ value.NonFinite)
    (hprints : PrintsNumber serde (inputValueJson (convert duckdb value)))
    (hprints' : PrintsNumber serde (inputValueJson (convert duckdb other)))
    (h : serde.toString (inputValueJson (convert duckdb value)) =
      serde.toString (inputValueJson (convert duckdb other))) :
    sqlEqual value other = true := by
  -- in each case the other value has the same constructor, or is the NULL of the type
  cases value with
  | null type => cases hvalue
  | boolean b =>
      cases other with
      | boolean b' =>
          simp only [convert, inputValueJson, texts.bool] at h
          cases b <;> cases b' <;> first | rfl | exact absurd h (by decide)
      | null type => cases hother
      | _ => cases htype
  | integer width m =>
      cases other with
      | integer width' n =>
          cases htype
          have htexts := (int64_text hprints).symm.trans (h.trans (int64_text hprints'))
          rw [int64_text_injective htexts]
          exact decide_eq_true rfl
      | null type => cases hother
      | _ => cases htype
  | uinteger width m =>
      cases other with
      | uinteger width' n =>
          cases htype
          have hm : serde.toString (.number (.posInt m)) = Nat.repr m.toNat := hprints
          have hn : serde.toString (.number (.posInt n)) = Nat.repr n.toNat := hprints'
          have hrepr := hm.symm.trans (h.trans hn)
          rw [UInt64.toNat_inj.mp (repr_injective hrepr)]
          exact decide_eq_true rfl
      | null type => cases hother
      | _ => cases htype
  | float d =>
      cases other with
      | float e =>
          exact double_print_injective texts (Bool.eq_true_of_not_eq_false hkept) hprints hprints' h
      | null type => cases hother
      | _ => cases htype
  | double d =>
      cases other with
      | double e =>
          exact double_print_injective texts (Bool.eq_true_of_not_eq_false hkept) hprints hprints' h
      | null type => cases hother
      | _ => cases htype
  | varchar text =>
      cases other with
      | varchar text' =>
          rw [show text = text' from texts.string _ _ h]
          exact decide_eq_true rfl
      | null type => cases hother
      | _ => cases htype
  | timestampTz text =>
      cases other with
      | timestampTz text' =>
          rw [show text = text' from texts.string _ _ h]
          exact decide_eq_true rfl
      | null type => cases hother
      | _ => cases htype
  | other name text =>
      cases other with
      | other name' text' =>
          cases htype
          rw [show text = text' from texts.string _ _ h]
          exact decide_eq_true rfl
      | null type => cases hother
      | _ => cases htype

/-- The query that is built for a value. -/
theorem buildEqualityQuery_ok {serde : SerdeJson} {columnId columnName query description : String}
    {value : RustExtInputValue}
    (h : buildEqualityQuery serde columnId columnName value = .ok (query, description)) :
    value ≠ .null ∧ query = columnId ++ ":" ++ serde.toString (inputValueJson value) := by
  unfold buildEqualityQuery at h
  split at h
  · cases h
  · next hne =>
      cases h
      exact ⟨hne, rfl⟩

theorem isNull_of_convert {duckdb : DuckDb} {value : Value} (h : convert duckdb value ≠ .null) :
    value.isNull = false := by
  cases value with
  | null type => exact absurd rfl h
  | _ => rfl

/-- A value is encoded as `null` exactly if it is NULL, in bodies as in queries,
and its query is not that of another value of its type that differs from it. -/
structure ValueKept (serde : SerdeJson) (duckdb : DuckDb) (value : Value) : Prop where
  encoded : inputValueJson (convert duckdb value) = .null ↔ value.isNull = true
  written : ∀ info, (writtenCell duckdb (info, value)).2 = .null ↔ value.isNull = true
  queried : ∀ columnId columnName query description,
    buildEqualityQuery serde columnId columnName (convert duckdb value) =
      .ok (query, description) → query ≠ columnId ++ ":null"
  told : ∀ (other : Value) (columnId columnName query query' description description' : String),
    other.type = value.type → sqlEqual value other = false →
    PrintsNumber serde (inputValueJson (convert duckdb other)) →
    buildEqualityQuery serde columnId columnName (convert duckdb value) =
      .ok (query, description) →
    buildEqualityQuery serde columnId columnName (convert duckdb other) =
      .ok (query', description') → query ≠ query'

/-- **A value is kept on the way out** exactly if it is no infinity or NaN. -/
theorem value_kept_iff (serde : SerdeJson) (duckdb : DuckDb) (texts : PrintsTexts serde)
    (value : Value) (prints : PrintsNumber serde (inputValueJson (convert duckdb value))) :
    ValueKept serde duckdb value ↔ ¬ value.NonFinite := by
  constructor
  · intro hkept hnonfinite
    have hnull := hkept.encoded.mp ((encoded_null_iff duckdb value).mpr (.inr hnonfinite))
    cases value with
    | null type => exact hnonfinite
    | _ => cases hnull
  · intro hfinite
    have hencoded : inputValueJson (convert duckdb value) = .null ↔ value.isNull = true := by
      rw [encoded_null_iff, or_iff_left hfinite]
    refine ⟨hencoded, fun info => hencoded, ?_, ?_⟩
    · intro columnId columnName query description hquery heq
      obtain ⟨hne, rfl⟩ := buildEqualityQuery_ok hquery
      have hcolon : columnId ++ ":null" = columnId ++ ":" ++ "null" := by
        rw [String.append_assoc]
        rfl
      rw [hcolon, String.append_right_inj] at heq
      have hliteral : inputValueJson (convert duckdb value) ≠ .null := by
        rw [ne_eq, hencoded, isNull_of_convert hne]
        decide
      exact print_ne_null texts prints hliteral heq
    · intro other columnId columnName query query' description description' htype hdiffer prints'
        hquery hquery' heq
      obtain ⟨hne, rfl⟩ := buildEqualityQuery_ok hquery
      obtain ⟨hne', rfl⟩ := buildEqualityQuery_ok hquery'
      rw [String.append_right_inj] at heq
      have hsame := sqlEqual_of_print_eq duckdb texts htype.symm (isNull_of_convert hne)
        (isNull_of_convert hne') hfinite prints prints' heq
      rw [hdiffer] at hsame
      cases hsame

/-- The bits of a NaN and of infinity. -/
def mockNaN : Value := .double ⟨0x7ff8000000000000⟩

def mockInfinity : Value := .double ⟨0x7ff0000000000000⟩

/-- The text of a scalar without escapes. -/
def mockPrintScalar : Json → String
  | .null => "null"
  | .bool value => if value then "true" else "false"
  | .string value => "\"" ++ value ++ "\""
  | .number (.posInt value) => Nat.repr value.toNat
  | _ => ""

def mockScalarSerde : SerdeJson := mockSerde [] mockPrintScalar

/-- NaN is written as `null`, and the filter on NaN is the one on infinity: the
query for the cells that are null. -/
theorem nan_becomes_null :
    mockNaN.isNull = false ∧ mockInfinity.isNull = false ∧
      sqlEqual mockNaN mockInfinity = false ∧
      inputValueJson (convert mockDuckDb mockNaN) = .null ∧
      buildEqualityQuery mockScalarSerde "c_size" "Size" (convert mockDuckDb mockNaN) =
        .ok ("c_size:null", "Size = NaN") ∧
      buildEqualityQuery mockScalarSerde "c_size" "Size" (convert mockDuckDb mockInfinity) =
        .ok ("c_size:null", "Size = inf") :=
  ⟨rfl, rfl, rfl, literal_of_not_finite rfl, rfl, rfl⟩

theorem mockScalarSerde_prints : PrintsTexts mockScalarSerde where
  null := rfl
  bool _ := rfl
  quoted text := ⟨text ++ "\"", String.append_assoc⟩
  string text text' h := by
    have hinner := (String.append_left_inj _).mp h
    exact (String.append_right_inj _).mp hinner

/-- The integer 7 is kept. -/
theorem value_kept_iff_mock :
    ValueKept mockScalarSerde mockDuckDb (.uinteger .big 7) :=
  (value_kept_iff mockScalarSerde mockDuckDb mockScalarSerde_prints (.uinteger .big 7) rfl).mpr
    (fun h => h)

end DuckdbCoda
