import DuckdbCoda.Model.Values

/-!
# JSON values as text

What serde_json prints of a number reads as the double nearest to it
(`parse_printed`), and which double becomes a number at all
(`literal_of_finite`, `literal_of_not_finite`).
-/

namespace DuckdbCoda

/-! ## Numbers -/

/-- The double nearest to a number. -/
def JsonNumber.nearest : JsonNumber → F64
  | .posInt value => F64.ofInt value.toNat
  | .negInt value _ => F64.ofInt value.toInt
  | .float value _ => value

/-- Integers are printed as decimal numerals, and a double is read back from
its text. -/
def PrintsNumber (serde : SerdeJson) : Json → Prop
  | .number (.posInt value) => serde.toString (.number (.posInt value)) = Nat.repr value.toNat
  | .number (.negInt value negative) =>
      serde.toString (.number (.negInt value negative)) = "-" ++ Nat.repr value.toInt.natAbs
  | .number (.float value finite) =>
      F64.parse (serde.toString (.number (.float value finite))) = some value
  | _ => True

theorem parse_printed {serde : SerdeJson} {number : JsonNumber}
    (h : PrintsNumber serde (.number number)) :
    F64.parse (serde.toString (.number number)) = some number.nearest := by
  cases number with
  | posInt value =>
      have htext : serde.toString (.number (.posInt value)) = Nat.repr value.toNat := h
      rw [htext]
      exact F64.parse_repr _
  | negInt value negative =>
      have htext : serde.toString (.number (.negInt value negative)) =
          "-" ++ Nat.repr value.toInt.natAbs := h
      rw [htext]
      apply F64.parse_neg_repr
      simpa [Int64.lt_iff_toInt_lt] using negative
  | float value finite => exact h

/-! ## Doubles -/

theorem literal_of_finite {duckdb : DuckDb} {d : F64} (finite : d.isFinite = true) :
    inputValueJson (convert duckdb (.double d)) = .number (.float d finite) := dif_pos finite

theorem literal_of_not_finite {duckdb : DuckDb} {d : F64} (h : d.isFinite = false) :
    inputValueJson (convert duckdb (.double d)) = .null :=
  dif_neg (by simp [h])

end DuckdbCoda
