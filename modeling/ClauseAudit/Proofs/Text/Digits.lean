import ClauseAudit.Text.Letters
import Mathlib.Algebra.Ring.Nat
import Mathlib.Data.List.Basic

/-!
# Digits of fixed width

A number is written with so many decimal digits. Texts that begin with such numbers stand in the
order of the numbers, and after these in the order of what follows.
-/

namespace ClauseAudit.Text

theorem length_paddedDigits (width n : Nat) : (paddedDigits width n).length = width := by
  induction width generalizing n with
  | zero => rfl
  | succ width ih => rw [paddedDigits, List.length_append, ih, List.length_singleton]

private theorem isAsciiDigit_ofNat {n : Nat} (h : n < 10) :
    isAsciiDigit (Char.ofNat ('0'.toNat + n)) = true := by
  have hall : ∀ n : Fin 10, isAsciiDigit (Char.ofNat ('0'.toNat + n.val)) = true := by decide
  exact hall ⟨n, h⟩

theorem toNat_digit {n : Nat} (h : n < 10) :
    (Char.ofNat ('0'.toNat + n)).toNat - '0'.toNat = n := by
  have hall : ∀ n : Fin 10, (Char.ofNat ('0'.toNat + n.val)).toNat - '0'.toNat = n.val := by decide
  exact hall ⟨n, h⟩

theorem isAsciiDigit_of_mem_paddedDigits {width n : Nat} {c : Char}
    (h : c ∈ paddedDigits width n) : isAsciiDigit c = true := by
  induction width generalizing n with
  | zero => simp [paddedDigits] at h
  | succ width ih =>
    rw [paddedDigits, List.mem_append, List.mem_singleton] at h
    cases h with
    | inl h => exact ih h
    | inr h =>
      rw [h]
      exact isAsciiDigit_ofNat (Nat.mod_lt n (by decide))

/-- Digits compare as what they stand for. -/
private theorem digits_compare {n m : Nat} (hn : n < 10) (hm : m < 10) :
    (Char.ofNat ('0'.toNat + n) < Char.ofNat ('0'.toNat + m) ↔ n < m) ∧
      (Char.ofNat ('0'.toNat + n) = Char.ofNat ('0'.toNat + m) ↔ n = m) := by
  have hall : ∀ n m : Fin 10,
      (Char.ofNat ('0'.toNat + n.val) < Char.ofNat ('0'.toNat + m.val) ↔ n.val < m.val) ∧
        (Char.ofNat ('0'.toNat + n.val) = Char.ofNat ('0'.toNat + m.val) ↔ n.val = m.val) := by
    decide
  exact hall ⟨n, hn⟩ ⟨m, hm⟩

/-- The numbers decide, and between equal numbers what follows them. -/
theorem paddedDigits_append_lt_iff {width n m : Nat} {us vs : List Char} (hn : n < 10 ^ width)
    (hm : m < 10 ^ width) :
    paddedDigits width n ++ us < paddedDigits width m ++ vs ↔ n < m ∨ n = m ∧ us < vs := by
  -- The last digit goes to what follows, so the induction runs over any texts.
  induction width generalizing n m us vs with
  | zero =>
    rw [Nat.pow_zero] at hn hm
    obtain rfl : n = 0 := by omega
    obtain rfl : m = 0 := by omega
    simp [paddedDigits]
  | succ width ih =>
    have hn' : n / 10 < 10 ^ width := by rw [Nat.pow_succ] at hn; omega
    have hm' : m / 10 < 10 ^ width := by rw [Nat.pow_succ] at hm; omega
    obtain ⟨hlt, heq⟩ := digits_compare (Nat.mod_lt n (by decide)) (Nat.mod_lt m (by decide))
    rw [paddedDigits, paddedDigits, List.append_assoc, List.append_assoc, ih hn' hm',
      List.singleton_append, List.singleton_append, List.cons_lt_cons_iff, hlt, heq]
    clear hlt heq
    constructor
    · rintro (h | ⟨h, h' | ⟨h', hlt⟩⟩)
      · exact .inl (by omega)
      · exact .inl (by omega)
      · exact .inr ⟨by omega, hlt⟩
    · rintro (h | ⟨rfl, hlt⟩)
      · by_cases hdiv : n / 10 < m / 10
        · exact .inl hdiv
        · exact .inr ⟨by omega, .inl (by omega)⟩
      · exact .inr ⟨rfl, .inr ⟨rfl, hlt⟩⟩

end ClauseAudit.Text
