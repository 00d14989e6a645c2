import Mathlib.Data.List.Nodup
import Mathlib.Data.List.Perm.Subperm

/-!
# ASCII case folding

`eqIgnoreAsciiCase` compares strings up to ASCII letter case, as Rust's
`str::eq_ignore_ascii_case` and C++ maps over an ASCII-lowered key do. It is
the kernel of `foldCase`, so it is an equivalence and every question about it
becomes one about equality of folded keys.

`exists_fresh` is the pigeonhole behind every search for a free numbered name:
among `keys.length + 1` pairwise different candidates one is not taken.
-/

namespace DuckdbCoda.AsciiCase

/-- The key under which two strings differing only in ASCII case coincide. -/
def foldCase (s : String) : List Char := s.toList.map Char.toLower

/-- Equality up to ASCII letter case. -/
def eqIgnoreAsciiCase (a b : String) : Bool := foldCase a == foldCase b

@[simp] theorem eqIgnoreAsciiCase_iff {a b : String} :
    eqIgnoreAsciiCase a b = true ↔ foldCase a = foldCase b := by
  simp [eqIgnoreAsciiCase]

@[simp] theorem eqIgnoreAsciiCase_refl (a : String) : eqIgnoreAsciiCase a a = true := by
  simp

@[simp] theorem foldCase_append (a b : String) :
    foldCase (a ++ b) = foldCase a ++ foldCase b := by
  simp [foldCase]

theorem foldCase_eq_nil_iff {s : String} : foldCase s = [] ↔ s = "" := by
  simp [foldCase]

/-- Digits are their own lower case. -/
theorem toLower_of_isDigit {c : Char} (h : c.isDigit = true) : c.toLower = c := by
  have hd : c.val ≤ 57 := by
    have := h
    simp only [Char.isDigit, Bool.and_eq_true, decide_eq_true_eq] at this
    exact this.2
  have hlt : c.toNat ≤ 57 := UInt32.le_iff_toNat_le.mp hd
  unfold Char.toLower
  rw [dif_neg]
  intro hcap
  have h65 : (65 : Nat) ≤ c.toNat := UInt32.le_iff_toNat_le.mp hcap.1
  omega

/-- A decimal numeral is its own folded key. -/
theorem foldCase_repr (n : Nat) : foldCase (Nat.repr n) = Nat.toDigits 10 n := by
  unfold foldCase
  rw [Nat.toList_repr]
  refine (List.map_congr_left fun c hc => ?_).trans (List.map_id _)
  exact toLower_of_isDigit (Nat.isDigit_of_mem_toDigits (by omega) (by omega) hc)

/-- Numerals with equal folded keys denote the same number. -/
theorem foldCase_repr_injective {m n : Nat} (h : foldCase (Nat.repr m) = foldCase (Nat.repr n)) :
    m = n := by
  rw [foldCase_repr, foldCase_repr] at h
  have := congrArg (fun cs => Nat.ofDigitChars 10 cs 0) h
  simpa using this

theorem repr_injective {m n : Nat} (h : Nat.repr m = Nat.repr n) : m = n :=
  foldCase_repr_injective (congrArg foldCase h)

/-- A numeral has no sign. -/
theorem repr_ne_minus (m n : Nat) : Nat.repr m ≠ "-" ++ Nat.repr n := by
  intro h
  have hmem : '-' ∈ (Nat.repr m).toList := by
    rw [h, String.toList_append]
    exact List.mem_append_left _ (by decide)
  rw [Nat.toList_repr] at hmem
  have hdigit := Nat.isDigit_of_mem_toDigits (by omega) (by omega) hmem
  revert hdigit
  decide

/-- **Pigeonhole.** Of `keys.length + 1` pairwise different candidates, one is
not among the keys. -/
theorem exists_fresh {κ : Type} (candidate : Nat → κ) (keys : List κ)
    (injective : ∀ i j, i ≤ keys.length → j ≤ keys.length → candidate i = candidate j → i = j) :
    ∃ k, k ≤ keys.length ∧ candidate k ∉ keys := by
  by_contra hall
  push Not at hall
  have hsub : (List.range (keys.length + 1)).map candidate ⊆ keys := by
    intro x hx
    obtain ⟨k, hk, rfl⟩ := List.mem_map.mp hx
    exact hall k (by have := List.mem_range.mp hk; omega)
  have hnd : ((List.range (keys.length + 1)).map candidate).Nodup := by
    refine List.Nodup.map_on ?_ List.nodup_range
    intro i hi j hj h
    have hi := List.mem_range.mp hi
    have hj := List.mem_range.mp hj
    exact injective i j (by omega) (by omega) h
  have hlen := (hnd.subperm hsub).length_le
  simp only [List.length_map, List.length_range] at hlen
  omega

end DuckdbCoda.AsciiCase
