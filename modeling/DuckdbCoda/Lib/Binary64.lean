import Mathlib.Data.Nat.Log
import Mathlib.Data.List.TakeWhile
import Mathlib.Tactic.Positivity
import Mathlib.Tactic.Ring
import DuckdbCoda.Lib.AsciiCase

/-!
# IEEE binary64 words

A double is its 64-bit word. A finite one is an integer number of *units* of
`2^-1074` (`scaled`), so values are compared as integers and no real number
is involved.

* `ofRatio` rounds a ratio of naturals to the nearest double, ties to even,
  overflowing to an infinity; `roundWord_units`: a representable value is its
  own rounding.
* `parse` reads a decimal literal as Rust's `str::parse::<f64>` does, and
  `display` prints the shortest one that reads back, as its `Display` does.
* `sameDouble` is equality of values with all NaNs identified and both zeros
  equal; on finite doubles it is equality of `scaled` (`sameDouble_iff_scaled`).
-/

namespace DuckdbCoda

open AsciiCase

/-- A binary64 word. -/
structure F64 where
  bits : BitVec 64
  deriving DecidableEq, Repr

namespace F64

/-- The word of `+∞`; the finite magnitudes are the words below it. -/
def infinityWord : Nat := 0x7ff0000000000000

/-- The units in `1`: the smallest positive double is `2^-1074`. -/
def unitsPerOne : Nat := 2 ^ 1074

/-- The sign bit. -/
def negative (x : F64) : Bool := decide (2 ^ 63 ≤ x.bits.toNat)

/-- The word without its sign bit. -/
def magnitude (x : F64) : Nat := x.bits.toNat % 2 ^ 63

def isFinite (x : F64) : Bool := decide (x.magnitude < infinityWord)

def isNaN (x : F64) : Bool := decide (infinityWord < x.magnitude)

/-- The double with the given sign and magnitude word. -/
def ofMagnitude (negative : Bool) (magnitude : Nat) : F64 :=
  ⟨BitVec.ofNat 64 (if negative then 2 ^ 63 + magnitude else magnitude)⟩

/-- The value of a finite magnitude word, in units of `2^-1074`. -/
def units (magnitude : Nat) : Nat :=
  if magnitude < 2 ^ 52 then magnitude
  else (2 ^ 52 + magnitude % 2 ^ 52) * 2 ^ (magnitude / 2 ^ 52 - 1)

/-- The value of a finite double, in units of `2^-1074`. -/
def scaled (x : F64) : Int :=
  if x.negative then -(units x.magnitude : Int) else (units x.magnitude : Int)

/-- Equality of values: all NaNs are one value, and so are the two zeros. -/
def sameDouble (x y : F64) : Bool :=
  if x.isNaN || y.isNaN then x.isNaN && y.isNaN
  else x.bits == y.bits || (x.magnitude == 0 && y.magnitude == 0)

/-! ## Rounding -/

/-- The magnitude word nearest to `num / den`, ties to even. -/
def roundWord (num den : Nat) : Nat :=
  let quotient := num * unitsPerOne / den
  let shift := quotient.log2 - 52
  let kept := quotient / 2 ^ shift
  -- what rounding drops, as a fraction of the last place kept
  let dropped := quotient % 2 ^ shift * den + num * unitsPerOne % den
  let place := den * 2 ^ shift
  let roundUp := place < 2 * dropped || (place == 2 * dropped && kept % 2 == 1)
  min (shift * 2 ^ 52 + kept + if roundUp then 1 else 0) infinityWord

/-- The double nearest to `± num / den`. -/
def ofRatio (negative : Bool) (num den : Nat) : F64 :=
  ofMagnitude negative (roundWord num den)

/-- The double nearest to an integer. -/
def ofInt (n : Int) : F64 := ofRatio (decide (n < 0)) n.natAbs 1

/-! ## Decimal literals -/

/-- `± digits * 10^exponent`, rounded. -/
def ofDecimal (negative : Bool) (digits : Nat) (exponent : Int) : F64 :=
  if 0 ≤ exponent then ofRatio negative (digits * 10 ^ exponent.toNat) 1
  else ofRatio negative digits (10 ^ (-exponent).toNat)

/-- An optional exponent: `[eE] [+-]? digit+`, up to the end of the text. -/
def parseExponent : List Char → Option Int
  | [] => some 0
  | c :: rest =>
      if c == 'e' || c == 'E' then
        let (minus, digits) := match rest with
          | '-' :: tail => (true, tail)
          | '+' :: tail => (false, tail)
          | tail => (false, tail)
        if digits.isEmpty || !digits.all Char.isDigit then none
        else some (if minus then -(Nat.ofDigitChars 10 digits 0 : Int)
          else (Nat.ofDigitChars 10 digits 0 : Int))
      else none

/-- `digit* [. digit*]? exponent?` with at least one digit. -/
def parseNumber (negative : Bool) (cs : List Char) : Option F64 :=
  let whole := cs.takeWhile Char.isDigit
  let rest := cs.dropWhile Char.isDigit
  let (fraction, rest) := match rest with
    | '.' :: tail => (tail.takeWhile Char.isDigit, tail.dropWhile Char.isDigit)
    | tail => ([], tail)
  if whole.isEmpty && fraction.isEmpty then none
  else (parseExponent rest).map fun exponent =>
    ofDecimal negative (Nat.ofDigitChars 10 (whole ++ fraction) 0)
      (exponent - fraction.length)

/-- `nan`, `inf` or `infinity`, in any letter case. -/
def parseInfNan (negative : Bool) (cs : List Char) : Option F64 :=
  let word := cs.map Char.toLower
  if word == foldCase "nan" then some (ofMagnitude negative 0x7ff8000000000000)
  else if word == foldCase "inf" || word == foldCase "infinity" then
    some (ofMagnitude negative infinityWord)
  else none

/-- `text.parse::<f64>().ok()`. -/
def parse (text : String) : Option F64 :=
  match text.toList with
  | [] => none
  | c :: cs =>
      let negative := c == '-'
      let body := if c == '-' || c == '+' then cs else c :: cs
      if body.isEmpty then none
      else parseNumber negative body <|> parseInfNan negative body

/-! ## Shortest decimals -/

/-- The power of ten of the leading digit of a magnitude that is not zero. -/
def topExponent (m : Nat) : Int :=
  if unitsPerOne ≤ units m then (Nat.repr (units m / unitsPerOne)).length - 1
  else -((Nat.repr ((unitsPerOne - 1) / units m)).length : Int)

/-- The two neighbours of a magnitude among the multiples of a power of ten, the
nearer one first. -/
def neighbours (num den : Nat) : List Nat :=
  let low := num / den
  if den < 2 * (num % den) || (den == 2 * (num % den) && low % 2 == 1) then [low + 1, low]
  else [low, low + 1]

/-- A decimal of `count` digits that reads back as the magnitude: the nearer of
the two neighbours when both do. -/
def decimalOf (m count : Nat) : Option (Nat × Int) :=
  let exponent := topExponent m - (count - 1 : Nat)
  let num := units m * 10 ^ (-exponent).toNat
  let den := unitsPerOne * 10 ^ exponent.toNat
  -- a neighbour with a digit more is a power of ten
  let written (digits : Nat) : Nat × Int :=
    if digits = 10 ^ count then (10 ^ (count - 1), exponent + 1) else (digits, exponent)
  ((neighbours num den).map written).find? fun decimal =>
    (ofDecimal false decimal.1 decimal.2).magnitude == m

/-- The shortest decimal that reads back; 17 digits are always enough. -/
def shortestDecimal (m : Nat) : Nat × Int :=
  ((List.range 17).findSome? fun k => decimalOf m (k + 1)).getD (0, 0)

/-- `digits * 10^exponent` written out. -/
def positional (digits : Nat) (exponent : Int) : String :=
  if 0 ≤ exponent then Nat.repr digits ++ String.ofList (List.replicate exponent.toNat '0')
  else
    let text := (Nat.repr digits).toList
    let places := (-exponent).toNat
    let text := List.replicate (places + 1 - text.length) '0' ++ text
    String.ofList (text.take (text.length - places) ++ '.' :: text.drop (text.length - places))

/-- `format!` of an `f64`. -/
def display (x : F64) : String :=
  if x.isNaN then "NaN"
  else
    (if x.negative then "-" else "") ++
      if x.magnitude = infinityWord then "inf"
      else if x.magnitude = 0 then "0"
      else
        let (digits, exponent) := shortestDecimal x.magnitude
        positional digits exponent

/-! ## Words and fields -/

theorem magnitude_lt (x : F64) : x.magnitude < 2 ^ 63 := Nat.mod_lt _ (by decide)

theorem magnitude_ofMagnitude {negative : Bool} {m : Nat} (h : m < 2 ^ 63) :
    (ofMagnitude negative m).magnitude = m := by
  cases negative <;> simp only [ofMagnitude, magnitude, BitVec.toNat_ofNat] <;> simp <;> omega

theorem negative_ofMagnitude {negative : Bool} {m : Nat} (h : m < 2 ^ 63) :
    (ofMagnitude negative m).negative = negative := by
  cases negative <;> simp only [ofMagnitude, F64.negative, BitVec.toNat_ofNat] <;> simp <;> omega

/-- A double is its sign and its magnitude word. -/
theorem ext_fields {x y : F64} (hs : x.negative = y.negative)
    (hm : x.magnitude = y.magnitude) : x = y := by
  obtain ⟨bx⟩ := x
  obtain ⟨bY⟩ := y
  have hx := bx.isLt
  have hy := bY.isLt
  simp only [negative, magnitude, decide_eq_decide] at hs hm
  congr 1
  apply BitVec.eq_of_toNat_eq
  omega

@[simp] theorem ofMagnitude_fields (x : F64) : ofMagnitude x.negative x.magnitude = x :=
  ext_fields (negative_ofMagnitude x.magnitude_lt) (magnitude_ofMagnitude x.magnitude_lt)

theorem unitsPerOne_pos : 0 < unitsPerOne := by
  unfold unitsPerOne
  positivity

theorem isFinite_iff {x : F64} : x.isFinite = true ↔ x.magnitude < infinityWord := by
  simp [isFinite]

theorem not_isNaN_of_isFinite {x : F64} (h : x.isFinite = true) : x.isNaN = false := by
  simp only [isFinite, isNaN, decide_eq_true_eq, decide_eq_false_iff_not] at h ⊢
  omega

/-! ## A representable value is its own rounding -/

theorem log2_mul_pow {f e : Nat} (low : 2 ^ 52 ≤ f) (high : f < 2 ^ 53) :
    (f * 2 ^ e).log2 = 52 + e := by
  have hpos : f * 2 ^ e ≠ 0 := by
    have := Nat.mul_pos (show 0 < f by omega) (Nat.two_pow_pos e)
    omega
  rw [Nat.log2_eq_iff hpos]
  constructor
  · rw [Nat.pow_add]
    exact Nat.mul_le_mul_right _ low
  · rw [show 52 + e + 1 = 53 + e by omega, Nat.pow_add]
    exact Nat.mul_lt_mul_of_pos_right high (Nat.pow_pos (by decide))

theorem log2_lt_of_lt {m : Nat} (h : m < 2 ^ 53) : m.log2 - 52 = 0 := by
  by_cases hm : m = 0
  · subst hm
    simp
  · have := (Nat.log2_lt hm).mpr h
    omega

/-- A word above the first binade from its two fields. -/
theorem reassemble {m base : Nat} (h : 1 ≤ m / base) :
    (m / base - 1) * base + (base + m % base) = m := by
  obtain ⟨k, hk⟩ : ∃ k, m / base = k + 1 := ⟨m / base - 1, by omega⟩
  have hdiv := Nat.div_add_mod m base
  rw [hk, Nat.mul_add, Nat.mul_one, Nat.mul_comm] at hdiv
  rw [hk, Nat.add_sub_cancel]
  omega

/-- Rounding returns the magnitude word whose value it is given. -/
theorem roundWord_units {m num den : Nat} (finite : m < infinityWord) (hden : 0 < den)
    (value : num * unitsPerOne = units m * den) : roundWord num den = m := by
  have hquot : num * unitsPerOne / den = units m := by
    rw [value]
    exact Nat.mul_div_cancel _ hden
  have hrem : num * unitsPerOne % den = 0 := by
    rw [value]
    exact Nat.mul_mod_left _ _
  unfold roundWord
  simp only [hquot, hrem]
  by_cases hsub : m < 2 ^ 52
  · -- subnormal: every unit is kept
    have hunits : units m = m := if_pos hsub
    have hshift : m.log2 - 52 = 0 := log2_lt_of_lt (by omega)
    rw [hunits, hshift]
    have hnot : ¬ (den < 0) := by omega
    have hne : (den == 0) = false := by simp; omega
    simp [Nat.mod_one, hnot, hne]
    omega
  · -- normal: the shift is the exponent field, and nothing is dropped
    have hunits : units m = (2 ^ 52 + m % 2 ^ 52) * 2 ^ (m / 2 ^ 52 - 1) := if_neg hsub
    have hlow : 2 ^ 52 ≤ 2 ^ 52 + m % 2 ^ 52 := Nat.le_add_right _ _
    have hhigh : 2 ^ 52 + m % 2 ^ 52 < 2 ^ 53 := by
      have := Nat.mod_lt m (show 0 < 2 ^ 52 by decide)
      omega
    have hlog := log2_mul_pow (e := m / 2 ^ 52 - 1) hlow hhigh
    have hpow : 0 < 2 ^ (m / 2 ^ 52 - 1) := Nat.pow_pos (by decide)
    have hshift : (units m).log2 - 52 = m / 2 ^ 52 - 1 := by rw [hunits, hlog]; omega
    rw [hshift, hunits, Nat.mul_div_cancel _ hpow, Nat.mul_mod_left]
    have hplace : 0 < den * 2 ^ (m / 2 ^ 52 - 1) := Nat.mul_pos hden hpow
    have hne : (den * 2 ^ (m / 2 ^ 52 - 1) == 2 * (0 * den + 0)) = false := by
      simp; omega
    have hnot : ¬ (den * 2 ^ (m / 2 ^ 52 - 1) < 2 * (0 * den + 0)) := by omega
    simp only [hne, hnot, decide_false, Bool.false_and, Bool.or_self, Bool.false_eq_true,
      if_false]
    have hge : 1 ≤ m / 2 ^ 52 := (Nat.one_le_div_iff (Nat.pow_pos (by decide))).mpr
      (Nat.le_of_not_lt hsub)
    rw [Nat.add_zero, reassemble hge]
    exact Nat.min_eq_left finite.le

theorem units_injective {m m' : Nat} (hm : m < infinityWord) (hm' : m' < infinityWord)
    (h : units m = units m') : m = m' := by
  have h₁ := roundWord_units hm unitsPerOne_pos (rfl : units m * unitsPerOne = _)
  have h₂ := roundWord_units hm' unitsPerOne_pos (rfl : units m' * unitsPerOne = _)
  rw [← h₁, ← h₂, h]

theorem units_eq_zero_iff {m : Nat} : units m = 0 ↔ m = 0 := by
  unfold units
  split
  · rfl
  · have : 0 < 2 ^ (m / 2 ^ 52 - 1) := Nat.pow_pos (by decide)
    constructor
    · intro h
      rcases Nat.mul_eq_zero.mp h with h | h <;> omega
    · omega

theorem sameDouble_comm (x y : F64) : sameDouble x y = sameDouble y x := by
  unfold sameDouble
  rw [Bool.or_comm, Bool.and_comm x.isNaN, Bool.and_comm (x.magnitude == 0),
    show (x.bits == y.bits) = (y.bits == x.bits) from Bool.beq_comm]

/-- On finite doubles, equality of values is equality of `scaled`. -/
theorem sameDouble_iff_scaled {x y : F64} (hx : x.isFinite = true) (hy : y.isFinite = true) :
    sameDouble x y = true ↔ x.scaled = y.scaled := by
  have hxm := isFinite_iff.mp hx
  have hym := isFinite_iff.mp hy
  simp only [sameDouble, not_isNaN_of_isFinite hx, not_isNaN_of_isFinite hy, Bool.or_self,
    Bool.false_eq_true, if_false, Bool.or_eq_true, Bool.and_eq_true, beq_iff_eq]
  constructor
  · rintro (hbits | ⟨hx0, hy0⟩)
    · have : x = y := by cases x; cases y; simpa using hbits
      rw [this]
    · simp [scaled, hx0, hy0, units]
  · intro h
    by_cases hzero : units x.magnitude = 0
    · have hy0 : units y.magnitude = 0 := by
        simp only [scaled] at h
        split at h <;> split at h <;> omega
      exact .inr ⟨units_eq_zero_iff.mp hzero, units_eq_zero_iff.mp hy0⟩
    · -- a nonzero value determines the sign and the magnitude
      have hboth : x.negative = y.negative ∧ units x.magnitude = units y.magnitude := by
        simp only [scaled] at h
        cases hxs : x.negative <;> cases hys : y.negative <;> simp [hxs, hys] at h ⊢ <;> omega
      have := ext_fields hboth.1 (units_injective hxm hym hboth.2)
      exact .inl (by rw [this])

/-- An integer that is the value of a finite double rounds to that double, up
to the sign of zero. -/
theorem sameDouble_ofInt {x : F64} {n : Int} (finite : x.isFinite = true)
    (value : x.scaled = n * (unitsPerOne : Int)) : sameDouble (ofInt n) x = true := by
  have habs : n.natAbs * unitsPerOne = units x.magnitude * 1 := by
    have h := congrArg Int.natAbs value
    rw [Int.natAbs_mul, Int.natAbs_natCast] at h
    rw [Nat.mul_one]
    simp only [scaled] at h
    split at h <;> simpa using h.symm
  have hword := roundWord_units (isFinite_iff.mp finite) Nat.one_pos habs
  by_cases hzero : x.magnitude = 0
  · have hof : (ofInt n).magnitude = 0 := by
      rw [ofInt, ofRatio, hword, hzero]
      exact magnitude_ofMagnitude (by decide)
    simp [sameDouble, isNaN, hof, hzero, infinityWord]
  · have hunits : units x.magnitude ≠ 0 := fun h => hzero (units_eq_zero_iff.mp h)
    have hsign : decide (n < 0) = x.negative := by
      have hpow : (0 : Int) < unitsPerOne := by exact_mod_cast unitsPerOne_pos
      simp only [scaled] at value
      cases hneg : x.negative
      · simp only [hneg, Bool.false_eq_true, if_false] at value
        have : 0 ≤ n := by
          by_contra hlt
          have := Int.mul_neg_of_neg_of_pos (by omega : n < 0) hpow
          omega
        simpa using this
      · simp only [hneg, if_true] at value
        have : n < 0 := by
          by_contra hge
          have := Int.mul_nonneg (by omega : 0 ≤ n) hpow.le
          omega
        simpa using this
    have : ofInt n = x := by
      rw [ofInt, ofRatio, hword, hsign, ofMagnitude_fields]
    rw [this]
    simp [sameDouble, not_isNaN_of_isFinite finite]

/-- The digits of a numeral are all of it. -/
theorem parseNumber_digits (negative : Bool) (n : Nat) :
    parseNumber negative (Nat.toDigits 10 n) = some (ofRatio negative n 1) := by
  have hdigit : ∀ c ∈ Nat.toDigits 10 n, c.isDigit = true := fun c hc =>
    Nat.isDigit_of_mem_toDigits (by omega) (by omega) hc
  have htake : (Nat.toDigits 10 n).takeWhile Char.isDigit = Nat.toDigits 10 n :=
    List.takeWhile_eq_self_iff.mpr hdigit
  have hdrop : (Nat.toDigits 10 n).dropWhile Char.isDigit = [] :=
    List.dropWhile_eq_nil_iff.mpr hdigit
  have hne : Nat.toDigits 10 n ≠ [] := Nat.toDigits_ne_nil
  simp [parseNumber, htake, hdrop, hne, parseExponent, ofDecimal]

/-- A decimal numeral reads as the double nearest to its number. -/
theorem parse_repr (n : Nat) : parse (Nat.repr n) = some (ofInt n) := by
  have hnumber : parseNumber false (Nat.toDigits 10 n) = some (ofInt n) := by
    have hsign : decide ((n : Int) < 0) = false := by simp
    rw [parseNumber_digits, ofInt, hsign, Int.natAbs_natCast]
  unfold parse
  rw [Nat.toList_repr]
  cases hcs : Nat.toDigits 10 n with
  | nil => exact absurd hcs Nat.toDigits_ne_nil
  | cons c cs =>
      have hmem : c ∈ Nat.toDigits 10 n := by
        rw [hcs]
        exact List.mem_cons_self
      have hc : c.isDigit = true := Nat.isDigit_of_mem_toDigits (by omega) (by omega) hmem
      have hminus : (c == '-') = false := by
        rw [beq_eq_false_iff_ne]
        rintro rfl
        exact absurd hc (by decide)
      have hplus : (c == '+') = false := by
        rw [beq_eq_false_iff_ne]
        rintro rfl
        exact absurd hc (by decide)
      simp [hminus, hplus, ← hcs, hnumber]

theorem parse_neg_repr {n : Int} (h : n < 0) :
    parse ("-" ++ Nat.repr n.natAbs) = some (ofInt n) := by
  have hlist : ("-" ++ Nat.repr n.natAbs).toList = '-' :: Nat.toDigits 10 n.natAbs := by
    rw [String.toList_append, Nat.toList_repr]
    rfl
  have hne : Nat.toDigits 10 n.natAbs ≠ [] := Nat.toDigits_ne_nil
  unfold parse
  rw [hlist]
  simp [hne, parseNumber_digits, ofInt, h]

example : parse "-1.5e0" = some ⟨0xbff8000000000000#64⟩ := by decide +kernel

example : display ⟨0xbff8000000000000#64⟩ = "-1.5" := by decide +kernel

-- the double nearest to `1e-6` lies below it
example : display ⟨0x3eb0c6f7a0b5ed8d#64⟩ = "0.000001" := by decide +kernel

end F64

end DuckdbCoda
