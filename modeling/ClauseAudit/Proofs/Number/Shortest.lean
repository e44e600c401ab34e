import ClauseAudit.Number.Shortest
import Mathlib.Algebra.Order.Ring.Nat
import Mathlib.Data.List.Basic

/-!
# Numbers in decimal notation

A whole number has no needless zeros at the front. A finite floating-point number is written as a
whole number with a fraction, an exponent or both. For this its shortest digits must not all be
zero; they are not, because all numbers that round to a positive value are positive.
-/

namespace ClauseAudit

namespace Text

theorem isAsciiDigit_of_mem_toDigits {n : Nat} {c : Char} (h : c ∈ Nat.toDigits 10 n) :
    isAsciiDigit c = true := by
  have hdigit := Nat.isDigit_of_mem_toDigits (by decide) (by decide) h
  rw [Char.isDigit] at hdigit
  simpa [isAsciiDigit, Char.le_def] using hdigit

theorem toDigits_eq_zero_cons {n : Nat} {rest : List Char} (h : Nat.toDigits 10 n = '0' :: rest) :
    n = 0 ∧ rest = [] := by
  induction n using Nat.strongRecOn generalizing rest with
  | _ n ih =>
    by_cases hsmall : n < 10
    · rw [Nat.toDigits_of_lt_base hsmall] at h
      obtain ⟨hdigit, rfl⟩ := List.cons.inj h
      have hall : ∀ n : Fin 10, Nat.digitChar n.val = '0' → n = 0 := by decide
      exact ⟨congrArg Fin.val (hall ⟨n, hsmall⟩ hdigit), rfl⟩
    · -- A longer number begins like its tenth part, which is not zero.
      rw [Nat.toDigits_eq_if (by decide), if_neg hsmall] at h
      obtain ⟨c, front, hfront⟩ := List.exists_cons_of_ne_nil
        (Nat.toDigits_ne_nil (n := n / 10) (b := 10))
      rw [hfront, List.cons_append] at h
      obtain ⟨rfl, _⟩ := List.cons.inj h
      have hzero := (ih (n / 10) (by omega) hfront).1
      omega

structure Digits (cs : List Char) : Prop where
  ne_nil : cs ≠ []
  all : ∀ c ∈ cs, isAsciiDigit c = true

/-- The digits of a whole number: a single zero, or digits that do not begin with one. -/
structure Whole (cs : List Char) : Prop extends Digits cs where
  front : cs = ['0'] ∨ ∀ rest, cs ≠ '0' :: rest

/-- A number with a fraction, an exponent or both. -/
inductive Numeral : List Char → Prop where
  | fraction {whole fraction : List Char} (hwhole : Whole whole) (hfraction : Digits fraction) :
      Numeral (whole ++ '.' :: fraction)
  | exponent {whole digits : List Char} {sign : Char} (hwhole : Whole whole)
      (hsign : sign = '+' ∨ sign = '-') (hdigits : Digits digits) :
      Numeral (whole ++ 'e' :: sign :: digits)
  | both {whole fraction digits : List Char} {sign : Char} (hwhole : Whole whole)
      (hfraction : Digits fraction) (hsign : sign = '+' ∨ sign = '-') (hdigits : Digits digits) :
      Numeral (whole ++ '.' :: (fraction ++ 'e' :: sign :: digits))

private theorem whole_zero : Whole ['0'] where
  ne_nil := List.cons_ne_nil _ _
  all := List.forall_mem_singleton.mpr rfl
  front := .inl rfl

theorem whole_toDigits (n : Nat) : Whole (Nat.toDigits 10 n) where
  ne_nil := Nat.toDigits_ne_nil
  all _ h := isAsciiDigit_of_mem_toDigits h
  front := by
    by_cases hzero : ∃ rest, Nat.toDigits 10 n = '0' :: rest
    · obtain ⟨rest, hrest⟩ := hzero
      exact .inl (by rw [hrest, (toDigits_eq_zero_cons hrest).2])
    · exact .inr fun rest hrest => hzero ⟨rest, hrest⟩

theorem Digits.append {cs ds : List Char} (hcs : ∀ c ∈ cs, isAsciiDigit c = true)
    (hds : Digits ds) : Digits (cs ++ ds) :=
  ⟨by simp [hds.ne_nil], List.forall_mem_append.mpr ⟨hcs, hds.all⟩⟩

end Text

namespace Binary64

open Text

private theorem decimalFraction_pos (digits : Nat) (place : Int) : 0 <
    (decimalFraction digits place).2 := by
  cases place with
  | ofNat k => exact Nat.one_pos
  | negSucc k => exact Nat.pow_pos (by decide)

private theorem decimalFraction_zero (place : Int) : (decimalFraction 0 place).1 = 0 := by
  cases place with
  | ofNat k => exact Nat.zero_mul _
  | negSucc k => rfl

private theorem Interval.pos_of_holds {i : Interval} {num den : Nat} (hbelow : 0 < i.below)
    (hden : 0 < den) (h : i.holds num den = true) : 0 < num := by
  have hleft : 0 < i.below * den := Nat.mul_pos hbelow hden
  refine Nat.pos_of_ne_zero ?_
  rintro rfl
  rw [holds] at h
  split at h
  · simp at h
    omega
  · simp at h

private theorem nearestOn?_holds {i : Interval} {place : Int} {k : Nat}
    (h : nearestOn? i place = some k) :
    i.holds (decimalFraction k place).1 (decimalFraction k place).2 = true := by
  unfold nearestOn? at h
  dsimp only at h
  split at h
  · next hlow hhigh =>
    split at h
    · cases h
      exact hhigh
    · cases h
      exact hlow
  · next hlow _ =>
    cases h
    exact hlow
  · next _ hhigh =>
    cases h
    exact hhigh
  · cases h

private theorem interval_pos {m : Nat} (hm : 0 < m) (e : Int) :
    0 < (interval m e).value ∧ 0 < (interval m e).den ∧ 0 < (interval m e).below := by
  have hscale (k : Nat) : 0 < Nat.pow 2 k := Nat.pow_pos (by decide)
  cases e with
  | ofNat k =>
    have hle : Nat.pow 2 k ≤ m * Nat.pow 2 k := Nat.le_mul_of_pos_left _ hm
    have hpos := hscale k
    simp only [interval, scaled, Nat.mul_assoc]
    refine ⟨by omega, by decide, ?_⟩
    split <;> omega
  | negSucc k =>
    have hpos := hscale (k + 1)
    simp only [interval, scaled]
    refine ⟨by omega, by omega, ?_⟩
    split <;> omega

private theorem lt_pow_digitCount {n : Nat} (hn : 0 < n) : n < 10 ^ digitCount n := by
  rw [digitCount, if_neg (Nat.ne_of_gt hn)]
  have hlength : 0 < (decimal n).length := by
    rw [decimal, Nat.repr, String.length_ofList]
    exact Nat.length_toDigits_pos
  exact (Nat.length_repr_le_iff hlength).mp (Nat.le_refl _)

private theorem pow_le_decimalFraction {n : Nat} {place : Int} (h : place ≤ -(n : Int)) :
    10 ^ n ≤ (decimalFraction 1 place).2 := by
  cases place with
  | ofNat k =>
    have hcast : Int.ofNat k = (k : Int) := rfl
    obtain rfl : n = 0 := by omega
    exact Nat.le_refl 1
  | negSucc k => exact Nat.pow_le_pow_right (by decide) (by omega)

/-- The greatest exponent of ten is not above the value, and no smaller one is. -/
theorem den_le_of_le_floorLog10 {i : Interval} (hvalue : 0 < i.value) (hden : 0 < i.den)
    {place : Int} (h : place ≤ floorLog10 i) :
    i.den ≤ i.value * (decimalFraction 1 place).2 := by
  unfold floorLog10 at h
  dsimp only at h
  split at h
  · next hquotient =>
    have hle : i.den ≤ i.value := (Nat.div_pos_iff.mp hquotient).2
    exact Nat.le_trans hle (Nat.le_mul_of_pos_right _ (decimalFraction_pos 1 place))
  · next hquotient =>
    have hlt : i.value < i.den := by
      rw [Nat.div_pos_iff] at hquotient
      omega
    have hinverse : 0 < i.den / i.value := Nat.div_pos (Nat.le_of_lt hlt) hvalue
    have hbound := lt_pow_digitCount hinverse
    have hcount : 0 < digitCount (i.den / i.value) := by
      refine Nat.pos_of_ne_zero fun hzero => ?_
      rw [hzero, Nat.pow_zero] at hbound
      omega
    split at h
    · next hle =>
      have hplace : place ≤ -((digitCount (i.den / i.value) - 1 : Nat) : Int) := by omega
      exact Nat.le_trans hle (Nat.mul_le_mul_left _ (pow_le_decimalFraction hplace))
    · rw [Nat.div_lt_iff_lt_mul hvalue, Nat.mul_comm] at hbound
      exact Nat.le_trans (Nat.le_of_lt hbound) (Nat.mul_le_mul_left _ (pow_le_decimalFraction h))

private theorem shortestFrom_pos {i : Interval} (hvalue : 0 < i.value) (hden : 0 < i.den)
    (hbelow : 0 < i.below) (tries : Nat) {count : Nat} (hcount : 1 ≤ count) :
    0 < (shortestFrom i (floorLog10 i) tries count).1 := by
  induction tries generalizing count with
  | zero =>
    exact Nat.div_pos (den_le_of_le_floorLog10 hvalue hden (by omega)) hden
  | succ tries ih =>
    rw [shortestFrom]
    split
    · next digits hdigits =>
      have hpos := Interval.pos_of_holds hbelow (decimalFraction_pos _ _) (nearestOn?_holds hdigits)
      refine Nat.pos_of_ne_zero ?_
      rintro rfl
      rw [decimalFraction_zero] at hpos
      exact absurd hpos (by decide)
    · exact ih (by omega)

private theorem trimZeros_pos (fuel : Nat) {digits : Nat} (h : 0 < digits) (place : Int) :
    0 < (trimZeros fuel digits place).1 := by
  induction fuel generalizing digits place with
  | zero => exact h
  | succ fuel ih =>
    rw [trimZeros]
    split
    · next hzero =>
      simp only [Bool.and_eq_true, decide_eq_true_eq] at hzero
      exact ih (by omega) _
    · exact h

private theorem shortest_pos {m : Nat} (hm : 0 < m) (e : Int) : 0 < (shortest m e).1 := by
  obtain ⟨hvalue, hden, hbelow⟩ := interval_pos hm e
  exact trimZeros_pos 20 (shortestFrom_pos hvalue hden hbelow 17 (Nat.le_refl 1)) _

private theorem exists_exponentText (e : Int) : ∃ sign digits, (sign = '+' ∨ sign = '-') ∧
    Digits digits ∧ (exponentText e).toList = 'e' :: sign :: digits := by
  have hdigits : Digits ((if e.natAbs < 10 then ['0'] else []) ++ Nat.toDigits 10 e.natAbs) := by
    refine Digits.append ?_ (whole_toDigits _).toDigits
    split
    · exact whole_zero.all
    · exact fun _ hc => by cases hc
  have hzero : (if e.natAbs < 10 then "0" else "").toList = if e.natAbs < 10 then ['0'] else [] := by
    split <;> rfl
  have htext : (exponentText e).toList = (if e < 0 then "e-" else "e+").toList ++
      ((if e.natAbs < 10 then ['0'] else []) ++ Nat.toDigits 10 e.natAbs) := by
    rw [exponentText, String.toList_append, String.toList_append, hzero, decimal, Nat.toList_repr,
      List.append_assoc]
  by_cases he : e < 0
  · exact ⟨'-', _, .inr rfl, hdigits, by rw [htext, if_pos he]; rfl⟩
  · exact ⟨'+', _, .inl rfl, hdigits, by rw [htext, if_neg he]; rfl⟩

section Placed

variable {ds : List Char} (hds : Digits ds) (hfront : ∀ rest, ds ≠ '0' :: rest)

include hds

private theorem all_drop (n : Nat) : ∀ c ∈ ds.drop n, isAsciiDigit c = true :=
  fun c hc => hds.all c (List.mem_of_mem_drop hc)

include hfront

private theorem whole_take {n : Nat} (hn : 0 < n) (zeros : Nat) :
    Whole (ds.take n ++ List.replicate zeros '0') := by
  obtain ⟨n, rfl⟩ := Nat.exists_eq_add_one.mpr hn
  obtain ⟨c, cs, rfl⟩ := List.exists_cons_of_ne_nil hds.ne_nil
  refine ⟨⟨List.cons_ne_nil _ _, List.forall_mem_append.mpr ⟨?_, ?_⟩⟩, .inr fun rest h => ?_⟩
  · exact fun d hd => hds.all d (List.mem_of_mem_take hd)
  · intro d hd
    rw [List.eq_of_mem_replicate hd]
    rfl
  · obtain ⟨rfl, _⟩ := List.cons.inj h
    exact hfront cs rfl

private theorem numeral_placed {n : Nat} (hn : 0 < n) :
    Numeral ((ds.take n ++ List.replicate (n - ds.length) '0') ++
      '.' :: (if (ds.drop n).isEmpty then ['0'] else ds.drop n)) := by
  refine .fraction (whole_take hds hfront hn _) ?_
  split
  · exact whole_zero.toDigits
  · next hne => exact ⟨by simpa using hne, all_drop hds n⟩

private theorem numeral_scaled (e : Int) :
    Numeral ((ds.take 1 ++ if (ds.drop 1).isEmpty then [] else '.' :: ds.drop 1) ++
      (exponentText e).toList) := by
  have hwhole := whole_take hds hfront Nat.one_pos 0
  rw [List.replicate_zero, List.append_nil] at hwhole
  obtain ⟨sign, digits, hsign, hdigits, htext⟩ := exists_exponentText e
  rw [htext, List.append_assoc]
  split
  · exact .exponent hwhole hsign hdigits
  · next hne => exact .both hwhole ⟨by simpa using hne, all_drop hds 1⟩ hsign hdigits

end Placed

private theorem numeral_magnitudeText {m : Nat} (hm : 0 < m) (e : Int) :
    Numeral (magnitudeText m e).toList := by
  have hpos := shortest_pos hm e
  rw [magnitudeText]
  generalize shortest m e = s at hpos
  obtain ⟨digits, place⟩ := s
  have hdecimal : (decimal digits).toList = Nat.toDigits 10 digits := Nat.toList_repr
  have hds := (whole_toDigits digits).toDigits
  have hfront (rest : List Char) : Nat.toDigits 10 digits ≠ '0' :: rest :=
    fun h => Nat.ne_of_gt hpos (toDigits_eq_zero_cons h).1
  dsimp only
  rw [hdecimal]
  split
  · split
    · have hzeros : ∀ c ∈ List.replicate (-((Nat.toDigits 10 digits).length + place)).toNat '0',
          isAsciiDigit c = true := by
        intro c hc
        rw [List.eq_of_mem_replicate hc]
        rfl
      have hfraction := Digits.append hzeros hds
      rw [String.toList_append, @String.toList_ofList (_ ++ _)]
      exact @Numeral.fraction ['0'] _ whole_zero hfraction
    · rw [String.toList_ofList]
      exact numeral_placed hds hfront (by omega)
  · rw [String.toList_append, String.toList_ofList]
    exact numeral_scaled hds hfront _

/-- What stands for a finite number: a numeral, perhaps after a minus sign. -/
theorem exists_numeral_text (spelling : Spelling) (neg : Bool) (m : Nat) (e : Int) :
    ∃ body, Numeral body ∧ (text spelling (.finite neg m e)).toList =
      (if neg then ['-'] else []) ++ body := by
  have hbody : Numeral (if m = 0 then "0.0" else magnitudeText m e).toList := by
    split
    · exact .fraction whole_zero whole_zero.toDigits
    · next hm => exact numeral_magnitudeText (Nat.pos_of_ne_zero hm) e
  refine ⟨_, hbody, ?_⟩
  rw [text, String.toList_append]
  cases neg <;> rfl

end Binary64

end ClauseAudit
