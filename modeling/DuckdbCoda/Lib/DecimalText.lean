import DuckdbCoda.Lib.Binary64

/-!
# A double that is printed reads back

`display` looks for the shortest decimal that reads back. With 17 digits there is
always one (`decimalOf_seventeen`): the nearest decimal of 17 digits is closer to a
double than half the way to the next one (`roundWord_near`). So what `display`
prints is read back by `parse` (`parse_display`).
-/

namespace DuckdbCoda.F64

/-! ## Ratios near a double -/

section

variable {num den shift kept : Nat}

/-- The place that is kept is read off the quotient. -/
theorem log2_quotient (hkept : kept < 2 ^ 53) (hlead : shift = 0 ∨ 2 ^ 52 ≤ kept)
    (hquotient : num / den / 2 ^ shift = kept) : (num / den).log2 - 52 = shift := by
  have hpow : 0 < 2 ^ shift := Nat.two_pow_pos shift
  rcases hlead with rfl | hlead
  · rw [Nat.pow_zero, Nat.div_one] at hquotient
    rw [hquotient]
    exact log2_lt_of_lt hkept
  · have hlow : 2 ^ 52 * 2 ^ shift ≤ num / den :=
      (Nat.le_div_iff_mul_le hpow).mp (by rw [hquotient]; exact hlead)
    have hhigh : num / den < 2 ^ 53 * 2 ^ shift :=
      (Nat.div_lt_iff_lt_mul hpow).mp (by rw [hquotient]; exact hkept)
    rw [← Nat.pow_add] at hlow hhigh
    have hpos : num / den ≠ 0 := by
      have := Nat.two_pow_pos (52 + shift)
      omega
    have hlog : (num / den).log2 = 52 + shift :=
      (Nat.log2_eq_iff hpos).mpr ⟨hlow, by rwa [show 52 + shift + 1 = 53 + shift by omega]⟩
    rw [hlog, Nat.add_sub_cancel_left]

/-- What rounding drops, over the whole of the place that is kept. -/
theorem dropped_eq (hquotient : num / den / 2 ^ shift = kept) :
    kept * (den * 2 ^ shift) + (num / den % 2 ^ shift * den + num % den) = num := by
  have hplace := Nat.div_add_mod (num / den) (2 ^ shift)
  have hunit := Nat.div_add_mod num den
  rw [hquotient] at hplace
  calc kept * (den * 2 ^ shift) + (num / den % 2 ^ shift * den + num % den)
      = den * (2 ^ shift * kept + num / den % 2 ^ shift) + num % den := by ring
    _ = num := by rw [hplace, hunit]

/-- The place and the digits that are kept, and the rest. -/
theorem roundWord_of (hkept : kept < 2 ^ 53) (hlead : shift = 0 ∨ 2 ^ 52 ≤ kept)
    (hlow : kept * (den * 2 ^ shift) ≤ num * unitsPerOne)
    (hhigh : num * unitsPerOne < (kept + 1) * (den * 2 ^ shift)) :
    ∃ dropped, num * unitsPerOne = kept * (den * 2 ^ shift) + dropped ∧
      roundWord num den = min (shift * 2 ^ 52 + kept +
        if den * 2 ^ shift < 2 * dropped || (den * 2 ^ shift == 2 * dropped && kept % 2 == 1) then 1
        else 0) infinityWord := by
  have hquotient : num * unitsPerOne / den / 2 ^ shift = kept := by
    rw [Nat.div_div_eq_div_mul]
    exact Nat.div_eq_of_lt_le hlow hhigh
  refine ⟨_, (dropped_eq hquotient).symm, ?_⟩
  unfold roundWord
  simp only [log2_quotient hkept hlead hquotient, hquotient]

/-- Less than half of the place is dropped. -/
theorem roundWord_down (hkept : kept < 2 ^ 53)
    (hlead : shift = 0 ∨ 2 ^ 52 ≤ kept) (hlow : kept * (den * 2 ^ shift) ≤ num * unitsPerOne)
    (hhalf : 2 * (num * unitsPerOne) < 2 * (kept * (den * 2 ^ shift)) + den * 2 ^ shift) :
    roundWord num den = min (shift * 2 ^ 52 + kept) infinityWord := by
  obtain ⟨dropped, hnum, hround⟩ :=
    roundWord_of hkept hlead hlow (by rw [Nat.succ_mul]; omega)
  have hless : ¬ den * 2 ^ shift < 2 * dropped := by omega
  have hnot : ¬ den * 2 ^ shift = 2 * dropped := by omega
  simp only [hless, decide_false, beq_iff_eq, hnot, Bool.false_or, Bool.and_eq_true, false_and,
    if_false, Nat.add_zero] at hround
  exact hround

/-- More than half of the place is dropped. -/
theorem roundWord_up (hkept : kept < 2 ^ 53)
    (hlead : shift = 0 ∨ 2 ^ 52 ≤ kept) (hhigh : num * unitsPerOne < (kept + 1) * (den * 2 ^ shift))
    (hhalf : 2 * (kept * (den * 2 ^ shift)) + den * 2 ^ shift < 2 * (num * unitsPerOne)) :
    roundWord num den = min (shift * 2 ^ 52 + kept + 1) infinityWord := by
  obtain ⟨dropped, hnum, hround⟩ := roundWord_of hkept hlead (by omega) hhigh
  have hmore : den * 2 ^ shift < 2 * dropped := by omega
  simp only [hmore, decide_true, Bool.true_or, if_true] at hround
  exact hround

/-- The value of a word, as digits at a place. -/
theorem units_eq {m : Nat} : ∃ kept shift, units m = kept * 2 ^ shift ∧
    m = shift * 2 ^ 52 + kept ∧ kept < 2 ^ 53 ∧ (shift = 0 ∨ 2 ^ 52 ≤ kept) := by
  by_cases hsub : m < 2 ^ 52
  · exact ⟨m, 0, by rw [units, if_pos hsub, Nat.pow_zero, Nat.mul_one], by omega, by omega, .inl rfl⟩
  · have hmod := Nat.mod_lt m (show 0 < 2 ^ 52 by decide)
    refine ⟨2 ^ 52 + m % 2 ^ 52, m / 2 ^ 52 - 1, if_neg hsub, ?_, by omega, .inr (by omega)⟩
    omega

/-- **A ratio near a double** rounds to it: near is what is closer than the 54th
binary digit of the double, which is a quarter of its last place or less. -/
theorem roundWord_near {m : Nat} (finite : m < infinityWord)
    (habove : 2 ^ 54 * (num * unitsPerOne) < (2 ^ 54 + 1) * (units m * den))
    (hbelow : (2 ^ 54 - 1) * (units m * den) < 2 ^ 54 * (num * unitsPerOne)) :
    roundWord num den = m := by
  obtain ⟨kept, shift, hunits, hword, hkept, hlead⟩ := @units_eq m
  have hvalue : units m * den = kept * (den * 2 ^ shift) := by
    rw [hunits]
    ring
  have hmin : min m infinityWord = m := Nat.min_eq_left (Nat.le_of_lt finite)
  rw [hvalue] at habove hbelow
  rcases Nat.lt_or_ge (num * unitsPerOne) (kept * (den * 2 ^ shift)) with hless | hmore
  · by_cases hedge : kept = 2 ^ 52 ∧ shift ≠ 0
    · -- below a power of two the place is half as large
      obtain ⟨rfl, hshift⟩ := hedge
      obtain ⟨lower, rfl⟩ := Nat.exists_eq_succ_of_ne_zero hshift
      have hplace : den * 2 ^ (lower + 1) = 2 * (den * 2 ^ lower) := by
        rw [Nat.pow_succ]
        ring
      rw [Nat.succ_eq_add_one, hplace] at hless hbelow
      have hround := @roundWord_up num den lower (2 ^ 53 - 1) (by decide) (.inr (by decide))
        (by omega) (by omega)
      have hsame : lower * 2 ^ 52 + (2 ^ 53 - 1) + 1 = m := by omega
      rw [hround, hsame, hmin]
    · have hfew : 0 < kept := by
        rcases Nat.eq_zero_or_pos kept with rfl | hpos
        · simp at hless
        · exact hpos
      have hprevious : kept * (den * 2 ^ shift) =
          (kept - 1) * (den * 2 ^ shift) + den * 2 ^ shift := by
        rw [← Nat.succ_mul, Nat.succ_eq_add_one, Nat.sub_add_cancel hfew]
      have hbound : kept * (den * 2 ^ shift) ≤ 2 ^ 53 * (den * 2 ^ shift) :=
        Nat.mul_le_mul_right _ (Nat.le_of_lt hkept)
      have hround := @roundWord_up num den shift (kept - 1) (by omega) (by omega)
        (by rw [Nat.sub_add_cancel hfew]; exact hless) (by omega)
      have hsame : shift * 2 ^ 52 + (kept - 1) + 1 = m := by omega
      rw [hround, hsame, hmin]
  · have hbound : kept * (den * 2 ^ shift) ≤ 2 ^ 53 * (den * 2 ^ shift) :=
      Nat.mul_le_mul_right _ (Nat.le_of_lt hkept)
    have hround := roundWord_down hkept hlead hmore (by omega)
    rw [hround, ← hword, hmin]

/-- A ratio is the same ratio in other terms. -/
theorem roundWord_scale (num den : Nat) {factor : Nat} (hfactor : 0 < factor) :
    roundWord (num * factor) (den * factor) = roundWord num den := by
  have hscaled : num * factor * unitsPerOne = num * unitsPerOne * factor := Nat.mul_right_comm _ _ _
  have hquotient : num * factor * unitsPerOne / (den * factor) = num * unitsPerOne / den := by
    rw [hscaled, Nat.mul_div_mul_right _ _ hfactor]
  have hrest : num * factor * unitsPerOne % (den * factor) =
      num * unitsPerOne % den * factor := by
    rw [hscaled, Nat.mul_mod_mul_right]
  unfold roundWord
  simp only [hquotient, hrest]
  generalize num * unitsPerOne / den = quotient
  generalize num * unitsPerOne % den = rest
  have hdropped : quotient % 2 ^ (quotient.log2 - 52) * (den * factor) + rest * factor =
      (quotient % 2 ^ (quotient.log2 - 52) * den + rest) * factor := by ring
  have hplace : den * factor * 2 ^ (quotient.log2 - 52) =
      den * 2 ^ (quotient.log2 - 52) * factor := Nat.mul_right_comm _ _ _
  have hless : ∀ a b : Nat, a * factor < 2 * (b * factor) ↔ a < 2 * b := by
    intro a b
    rw [← Nat.mul_assoc, Nat.mul_lt_mul_right hfactor]
  have heven : ∀ a b : Nat, a * factor = 2 * (b * factor) ↔ a = 2 * b := by
    intro a b
    rw [← Nat.mul_assoc, Nat.mul_right_cancel_iff hfactor]
  simp only [hdropped, hplace, hless, beq_eq_decide, heven]

end

/-! ## Decimals -/

theorem roundWord_le (num den : Nat) : roundWord num den ≤ infinityWord := Nat.min_le_right _ _

theorem ofDecimal_eq (negative : Bool) (digits : Nat) (exponent : Int) :
    ofDecimal negative digits exponent =
      ofMagnitude negative (roundWord (digits * 10 ^ exponent.toNat) (10 ^ (-exponent).toNat)) := by
  unfold ofDecimal ofRatio
  split
  case isTrue hpositive =>
    rw [show (-exponent).toNat = 0 by omega, Nat.pow_zero]
  case isFalse hnegative =>
    rw [show exponent.toNat = 0 by omega, Nat.pow_zero, Nat.mul_one]

theorem magnitude_ofDecimal (negative : Bool) (digits : Nat) (exponent : Int) :
    (ofDecimal negative digits exponent).magnitude =
      roundWord (digits * 10 ^ exponent.toNat) (10 ^ (-exponent).toNat) := by
  have hle := roundWord_le (digits * 10 ^ exponent.toNat) (10 ^ (-exponent).toNat)
  rw [ofDecimal_eq, magnitude_ofMagnitude (Nat.lt_of_le_of_lt hle (by decide))]

/-- A power of ten is one of fewer digits at the next place. -/
theorem ofDecimal_carry (negative : Bool) (count : Nat) (exponent : Int) :
    ofDecimal negative (10 ^ count) (exponent + 1) =
      ofDecimal negative (10 ^ (count + 1)) exponent := by
  rw [ofDecimal_eq, ofDecimal_eq]
  refine congrArg (ofMagnitude negative) ?_
  by_cases hpositive : 0 ≤ exponent
  · have hnum : 10 ^ count * 10 ^ (exponent.toNat + 1) = 10 ^ (count + 1) * 10 ^ exponent.toNat := by
      ring
    rw [show (-exponent).toNat = 0 by omega, show (-(exponent + 1)).toNat = 0 by omega,
      show (exponent + 1).toNat = exponent.toNat + 1 by omega, hnum]
  · rw [show exponent.toNat = 0 by omega, show (exponent + 1).toNat = 0 by omega,
      show (-exponent).toNat = (-(exponent + 1)).toNat + 1 by omega, Nat.pow_zero, Nat.mul_one,
      Nat.mul_one, Nat.pow_succ, Nat.pow_succ, roundWord_scale _ _ (by decide)]

/-- The number of digits before the point, less one, or the zeros behind it. -/
theorem leadingPlace_le {units one : Nat} (hone : 0 < one) (hpos : 0 < units) {place : Int}
    (hplace : place = if one ≤ units then ((Nat.repr (units / one)).length : Int) - 1
      else -((Nat.repr ((one - 1) / units)).length : Int)) :
    one * 10 ^ place.toNat ≤ units * 10 ^ (-place).toNat := by
  by_cases hwhole : one ≤ units
  · rw [if_pos hwhole] at hplace
    obtain ⟨digits, hdigits⟩ := Nat.exists_eq_succ_of_ne_zero
      (Nat.ne_of_gt (@Nat.length_repr_pos (units / one)))
    have hlow : 10 ^ digits ≤ units / one := by
      rcases Nat.eq_zero_or_pos digits with rfl | hdigits'
      · exact (Nat.one_le_div_iff hone).mpr hwhole
      · refine Nat.le_of_not_lt fun hless => ?_
        have hlength := (Nat.length_repr_le_iff hdigits').mpr hless
        omega
    rw [show place.toNat = digits by omega, show (-place).toNat = 0 by omega, Nat.pow_zero,
      Nat.mul_one, Nat.mul_comm]
    exact (Nat.le_div_iff_mul_le hone).mp hlow
  · rw [if_neg hwhole] at hplace
    have hdigits := @Nat.length_repr_pos ((one - 1) / units)
    have hhigh := (Nat.length_repr_le_iff hdigits).mp (Nat.le_refl _)
    rw [Nat.div_lt_iff_lt_mul hpos] at hhigh
    rw [show place.toNat = 0 by omega,
      show (-place).toNat = (Nat.repr ((one - 1) / units)).length by omega, Nat.pow_zero,
      Nat.mul_one, Nat.mul_comm units]
    omega

/-- In units of the place of the last of `count` digits a magnitude has that many
digits. -/
theorem leading_digits {units one count : Nat} {place exponent : Int}
    (hplace : one * 10 ^ place.toNat ≤ units * 10 ^ (-place).toNat)
    (hexponent : exponent = place - count) :
    one * 10 ^ exponent.toNat * 10 ^ count ≤ units * 10 ^ (-exponent).toNat := by
  have hscale : 0 < 10 ^ (-place).toNat := Nat.pow_pos (by decide)
  have hexponents : 10 ^ place.toNat * 10 ^ (-exponent).toNat =
      10 ^ count * 10 ^ exponent.toNat * 10 ^ (-place).toNat := by
    rw [← Nat.pow_add, ← Nat.pow_add, ← Nat.pow_add]
    congr 1
    omega
  refine Nat.le_of_mul_le_mul_right ?_ hscale
  calc one * 10 ^ exponent.toNat * 10 ^ count * 10 ^ (-place).toNat
      = one * (10 ^ count * 10 ^ exponent.toNat * 10 ^ (-place).toNat) := by ring
    _ = one * 10 ^ place.toNat * 10 ^ (-exponent).toNat := by rw [← hexponents, Nat.mul_assoc]
    _ ≤ units * 10 ^ (-place).toNat * 10 ^ (-exponent).toNat := Nat.mul_le_mul_right _ hplace
    _ = units * 10 ^ (-exponent).toNat * 10 ^ (-place).toNat := Nat.mul_right_comm _ _ _

/-- The first neighbour is within half of the distance between the two. -/
theorem neighbours_head {num den : Nat} (hden : 0 < den) :
    ∃ first rest, neighbours num den = first :: rest ∧
      2 * (first * den) ≤ 2 * num + den ∧ 2 * num ≤ 2 * (first * den) + den := by
  have hdiv := Nat.div_add_mod num den
  have hmod := Nat.mod_lt num hden
  rw [Nat.mul_comm] at hdiv
  unfold neighbours
  dsimp only
  split
  case isTrue hupper =>
    refine ⟨_, _, rfl, ?_⟩
    rw [Nat.succ_mul (num / den)]
    simp only [Bool.or_eq_true, decide_eq_true_eq, Bool.and_eq_true, beq_iff_eq] at hupper
    omega
  case isFalse hlower =>
    refine ⟨_, _, rfl, ?_⟩
    simp only [Bool.or_eq_true, decide_eq_true_eq, not_or] at hlower
    omega

/-- **17 digits are enough.** -/
theorem decimalOf_seventeen {m : Nat} (hpos : 0 < m) (finite : m < infinityWord) :
    (decimalOf m 17).isSome := by
  have hunits : 0 < units m := Nat.pos_of_ne_zero fun h => Nat.ne_of_gt hpos (units_eq_zero_iff.mp h)
  obtain ⟨exponent, hexponent⟩ : ∃ exponent, exponent = topExponent m - 16 := ⟨_, rfl⟩
  obtain ⟨den, hden⟩ : ∃ den, den = unitsPerOne * 10 ^ exponent.toNat := ⟨_, rfl⟩
  obtain ⟨num, hnum⟩ : ∃ num, num = units m * 10 ^ (-exponent).toNat := ⟨_, rfl⟩
  have hdenPos : 0 < den := hden ▸ Nat.mul_pos unitsPerOne_pos (Nat.pow_pos (by decide))
  have hdigits : den * 10 ^ 16 ≤ num := by
    rw [hden, hnum]
    exact leading_digits (leadingPlace_le unitsPerOne_pos hunits rfl) hexponent
  obtain ⟨first, rest, hneighbours, hupper, hlower⟩ := @neighbours_head num den hdenPos
  -- the nearest decimal is close enough
  have hfirst : (ofDecimal false first exponent).magnitude = m := by
    have hvalue : first * 10 ^ exponent.toNat * unitsPerOne = first * den := by
      rw [hden]
      ring
    rw [magnitude_ofDecimal]
    refine roundWord_near finite ?_ ?_
    · rw [hvalue, ← hnum]
      omega
    · rw [hvalue, ← hnum]
      omega
  have hwritten : (ofDecimal false
      (if first = 10 ^ 17 then (10 ^ 16, exponent + 1) else (first, exponent)).1
      (if first = 10 ^ 17 then (10 ^ 16, exponent + 1) else (first, exponent)).2).magnitude = m := by
    split
    case isTrue hcarry =>
      rw [ofDecimal_carry, ← hcarry]
      exact hfirst
    case isFalse => exact hfirst
  unfold decimalOf
  dsimp only
  rw [show topExponent m - ((17 - 1 : Nat) : Int) = exponent from hexponent.symm, ← hnum, ← hden,
    hneighbours]
  exact List.find?_isSome.mpr ⟨_, List.mem_cons_self, beq_iff_eq.mpr hwritten⟩

/-- The shortest decimal reads back. -/
theorem shortestDecimal_reads {m : Nat} (hpos : 0 < m) (finite : m < infinityWord) :
    (ofDecimal false (shortestDecimal m).1 (shortestDecimal m).2).magnitude = m := by
  have hsome : ((List.range 17).findSome? fun k => decimalOf m (k + 1)).isSome :=
    List.findSome?_isSome_iff.mpr ⟨16, by decide, decimalOf_seventeen hpos finite⟩
  obtain ⟨decimal, hdecimal⟩ := Option.isSome_iff_exists.mp hsome
  obtain ⟨k, _, hk⟩ := List.exists_of_findSome?_eq_some hdecimal
  have hreads := List.find?_some hk
  rw [shortestDecimal, hdecimal]
  exact beq_iff_eq.mp hreads

/-! ## Texts -/

theorem isDigit_of_mem_toDigits {n : Nat} {c : Char} (h : c ∈ Nat.toDigits 10 n) :
    c.isDigit = true :=
  Nat.isDigit_of_mem_toDigits (by omega) (by omega) h

/-- A numeral without a point. -/
theorem parseNumber_whole (negative : Bool) {whole : List Char}
    (hdigits : ∀ c ∈ whole, c.isDigit = true) (hne : whole ≠ []) :
    parseNumber negative whole =
      some (ofDecimal negative (Nat.ofDigitChars 10 whole 0) 0) := by
  have htake : whole.takeWhile Char.isDigit = whole := List.takeWhile_eq_self_iff.mpr hdigits
  have hdrop : whole.dropWhile Char.isDigit = [] := List.dropWhile_eq_nil_iff.mpr hdigits
  simp [parseNumber, htake, hdrop, hne, parseExponent]

/-- A numeral with a point. -/
theorem parseNumber_point (negative : Bool) {whole fraction : List Char}
    (hwhole : ∀ c ∈ whole, c.isDigit = true) (hfraction : ∀ c ∈ fraction, c.isDigit = true)
    (hne : whole ≠ []) :
    parseNumber negative (whole ++ '.' :: fraction) =
      some (ofDecimal negative (Nat.ofDigitChars 10 (whole ++ fraction) 0) (-fraction.length)) := by
  have hpoint : Char.isDigit '.' = false := by decide
  have htake : (whole ++ '.' :: fraction).takeWhile Char.isDigit = whole := by
    rw [List.takeWhile_append_of_pos hwhole, List.takeWhile_cons_of_neg (by simp [hpoint]),
      List.append_nil]
  have hdrop : (whole ++ '.' :: fraction).dropWhile Char.isDigit = '.' :: fraction := by
    rw [List.dropWhile_append_of_pos hwhole, List.dropWhile_cons_of_neg (by simp [hpoint])]
  have htake' : fraction.takeWhile Char.isDigit = fraction :=
    List.takeWhile_eq_self_iff.mpr hfraction
  have hdrop' : fraction.dropWhile Char.isDigit = [] := List.dropWhile_eq_nil_iff.mpr hfraction
  simp [parseNumber, htake, hdrop, htake', hdrop', hne, parseExponent]

/-- What `positional` writes is a numeral of the decimal. -/
theorem positional_reads (digits : Nat) (exponent : Int) :
    ∃ c cs, (positional digits exponent).toList = c :: cs ∧ c.isDigit = true ∧
      ∀ negative, parseNumber negative (c :: cs) = some (ofDecimal negative digits exponent) := by
  have hzeros : ∀ k, ∀ c ∈ List.replicate k '0' ++ Nat.toDigits 10 digits, c.isDigit = true := by
    intro k c hmem
    rcases List.mem_append.mp hmem with hzero | hdigit
    · rw [List.eq_of_mem_replicate hzero]
      decide
    · exact isDigit_of_mem_toDigits hdigit
  unfold positional
  split
  case isTrue hpositive =>
    obtain ⟨whole, hwhole⟩ : ∃ whole, whole =
      Nat.toDigits 10 digits ++ List.replicate exponent.toNat '0' := ⟨_, rfl⟩
    have hdigits : ∀ c ∈ whole, c.isDigit = true := by
      intro c hmem
      rw [hwhole] at hmem
      exact hzeros exponent.toNat c (List.mem_append.mpr (List.mem_append.mp hmem).symm)
    have hne : whole ≠ [] := by
      rw [hwhole]
      exact List.append_ne_nil_of_left_ne_nil Nat.toDigits_ne_nil _
    have hvalue : ∀ negative, ofDecimal negative (Nat.ofDigitChars 10 whole 0) 0 =
        ofDecimal negative digits exponent := by
      intro negative
      rw [hwhole, Nat.ofDigitChars_append, Nat.ofDigitChars_ten_toDigits,
        Nat.ofDigitChars_replicate_zero, ofDecimal_eq, ofDecimal_eq,
        show (-exponent).toNat = 0 by omega, Nat.mul_comm (10 ^ exponent.toNat)]
      simp
    rw [String.toList_append, Nat.toList_repr, String.toList_ofList, ← hwhole]
    obtain ⟨c, cs, hcons⟩ := List.exists_cons_of_ne_nil hne
    refine ⟨c, cs, hcons, hdigits c (hcons ▸ List.mem_cons_self), ?_⟩
    intro negative
    rw [← hcons, parseNumber_whole negative hdigits hne, hvalue]
  case isFalse hnegative =>
    obtain ⟨places, hplaces⟩ : ∃ places, places = (-exponent).toNat := ⟨_, rfl⟩
    obtain ⟨text, htext⟩ : ∃ text, text =
      List.replicate (places + 1 - (Nat.toDigits 10 digits).length) '0' ++ Nat.toDigits 10 digits :=
        ⟨_, rfl⟩
    have hlength : places + 1 ≤ text.length := by
      rw [htext, List.length_append, List.length_replicate]
      omega
    have hdigits : ∀ c ∈ text, c.isDigit = true := by
      rw [htext]
      exact hzeros _
    have hvalue : Nat.ofDigitChars 10 text 0 = digits := by
      rw [htext, Nat.ofDigitChars_append, Nat.ofDigitChars_replicate_zero, Nat.mul_zero,
        Nat.ofDigitChars_ten_toDigits]
    -- the point stands before the last `places` digits
    obtain ⟨whole, hwhole⟩ : ∃ whole, whole = text.take (text.length - places) := ⟨_, rfl⟩
    obtain ⟨fraction, hfraction⟩ : ∃ fraction, fraction = text.drop (text.length - places) :=
      ⟨_, rfl⟩
    have hsplit : whole ++ fraction = text := by
      rw [hwhole, hfraction, List.take_append_drop]
    have hfractionLength : fraction.length = places := by
      rw [hfraction, List.length_drop]
      omega
    have hne : whole ≠ [] := by
      intro hnil
      have hwholeLength := congrArg List.length hwhole
      rw [hnil, List.length_take, List.length_nil] at hwholeLength
      omega
    have hwholeDigits : ∀ c ∈ whole, c.isDigit = true := fun c hmem =>
      hdigits c (hsplit ▸ List.mem_append_left _ hmem)
    have hfractionDigits : ∀ c ∈ fraction, c.isDigit = true := fun c hmem =>
      hdigits c (hsplit ▸ List.mem_append_right _ hmem)
    simp only [Nat.toList_repr, ← hplaces, ← htext, ← hwhole, ← hfraction, String.toList_ofList]
    obtain ⟨c, cs, hcons⟩ := List.exists_cons_of_ne_nil hne
    refine ⟨c, cs ++ '.' :: fraction, by rw [hcons]; rfl,
      hwholeDigits c (hcons ▸ List.mem_cons_self), ?_⟩
    intro negative
    rw [← List.cons_append, ← hcons, parseNumber_point negative hwholeDigits hfractionDigits hne,
      hsplit, hvalue, hfractionLength, show (-(places : Int)) = exponent by omega]

/-- A numeral behind its sign. -/
theorem parse_signed {text : String} {c : Char} {cs : List Char} {x : F64} (negative : Bool)
    (htext : text.toList = c :: cs) (hdigit : c.isDigit = true)
    (hnumber : parseNumber negative (c :: cs) = some x) :
    parse ((if negative then "-" else "") ++ text) = some x := by
  cases negative with
  | true =>
      have hlist : ("-" ++ text).toList = '-' :: c :: cs := by
        rw [String.toList_append, htext]
        rfl
      simp [parse, hlist, hnumber]
  | false =>
      have hminus : c ≠ '-' := by
        rintro rfl
        exact absurd hdigit (by decide)
      have hplus : c ≠ '+' := by
        rintro rfl
        exact absurd hdigit (by decide)
      have hsign : (c == '-') = false := beq_eq_false_iff_ne.mpr hminus
      simp [parse, htext, hplus, hsign, hnumber]

/-- **What is printed reads back**, up to the bits of a NaN. -/
theorem parse_display {x : F64} (h : x.isNaN = false) : parse (display x) = some x := by
  have hle : x.magnitude ≤ infinityWord := by
    simp only [isNaN, decide_eq_false_iff_not] at h
    omega
  rw [display, h, if_neg (by decide)]
  by_cases hinfinite : x.magnitude = infinityWord
  · rw [if_pos hinfinite]
    have hx := ofMagnitude_fields x
    rw [hinfinite] at hx
    rw [← hx]
    cases x.negative <;> decide +kernel
  rw [if_neg hinfinite]
  by_cases hzero : x.magnitude = 0
  · rw [if_pos hzero]
    have hx := ofMagnitude_fields x
    rw [hzero] at hx
    rw [← hx]
    cases x.negative <;> decide +kernel
  · rw [if_neg hzero]
    -- the decimal that was found
    generalize hdecimal : shortestDecimal x.magnitude = decimal
    have hreads := shortestDecimal_reads (Nat.pos_of_ne_zero hzero)
      (Nat.lt_of_le_of_ne hle hinfinite)
    rw [hdecimal] at hreads
    obtain ⟨c, cs, htext, hdigit, hnumber⟩ := positional_reads decimal.1 decimal.2
    have hsame : ofDecimal x.negative decimal.1 decimal.2 = x := by
      rw [magnitude_ofDecimal] at hreads
      rw [ofDecimal_eq, hreads, ofMagnitude_fields]
    have hnumeral := hnumber x.negative
    rw [hsame] at hnumeral
    exact parse_signed x.negative htext hdigit hnumeral

theorem display_NaN {x : F64} (h : x.isNaN = true) : display x = "NaN" := by
  rw [display, h, if_pos rfl]

end DuckdbCoda.F64
