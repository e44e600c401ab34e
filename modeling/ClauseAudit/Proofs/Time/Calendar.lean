import ClauseAudit.Time.Calendar
import Mathlib.Algebra.Order.Group.Int
import Mathlib.Algebra.Ring.Nat
import Mathlib.Order.Monotone.Basic

/-!
# Days and dates

Every day has exactly one date, and later days have later dates: by the year, then the month, then
the day of the month. Days before a year grow by the length of the year before, and days before a
month by the length of the month before, so one date follows another without gap.
-/

namespace ClauseAudit.Time

/-! ## Years -/

private theorem daysBeforeYear_succ (year : Int) :
    daysBeforeYear (year + 1) = daysBeforeYear year + (monthLengths year).sum := by
  simp only [daysBeforeYear, monthLengths, isLeap]
  by_cases h4 : year % 4 = 0 <;> by_cases h100 : year % 100 = 0 <;>
    by_cases h400 : year % 400 = 0 <;> simp [h4, h100, h400] <;> omega

private theorem daysBeforeYear_lt_iff {year year' : Int} :
    daysBeforeYear year < daysBeforeYear year' ↔ year < year' := by
  have hmono : StrictMono daysBeforeYear := by
    apply strictMono_int_of_lt_succ
    intro year
    have hsum : 0 < (monthLengths year).sum := by
      rw [monthLengths, List.sum_cons]
      omega
    rw [daysBeforeYear_succ]
    omega
  exact hmono.lt_iff_lt

/-- The year is estimated one off at most. -/
private theorem estimate_near (number : Int) :
    daysBeforeYear (number * 400 / 146097 + 1 - 1) < number ∧
      number ≤ daysBeforeYear (number * 400 / 146097 + 1 + 1 + 1) := by
  simp only [daysBeforeYear]
  omega

private theorem yearOf_spec (number : Int) :
    daysBeforeYear (yearOf number) < number ∧ number ≤ daysBeforeYear (yearOf number + 1) := by
  have hnear := estimate_near number
  rw [yearOf]
  split
  · next hbefore => exact ⟨hnear.1, by simpa using hbefore⟩
  · next hbefore =>
    split
    · next hafter => exact ⟨hafter, hnear.2⟩
    · next hafter => exact ⟨by omega, by omega⟩

/-! ## Months -/

private theorem daysBeforeMonth_eq (year : Int) (month : Nat) :
    daysBeforeMonth year month = ((monthLengths year).take (month - 1)).sum := by
  rw [daysBeforeMonth, List.sum_eq_foldl]

private theorem daysBeforeMonth_succ (year : Int) {month : Nat} (h : 1 ≤ month) :
    daysBeforeMonth year (month + 1) = daysBeforeMonth year month + monthLength year month := by
  obtain ⟨i, rfl⟩ : ∃ i, month = i + 1 := Nat.exists_eq_add_one.mpr h
  rw [daysBeforeMonth_eq, daysBeforeMonth_eq, monthLength, Nat.add_sub_cancel, Nat.add_sub_cancel,
    List.take_add_one, List.sum_append]
  cases (monthLengths year)[i]? <;> simp

private theorem daysBeforeMonth_mono (year : Int) {month month' : Nat} (h : 1 ≤ month)
    (hle : month ≤ month') : daysBeforeMonth year month ≤ daysBeforeMonth year month' := by
  induction month', hle using Nat.le_induction with
  | base => exact Nat.le_refl _
  | succ month' hle ih =>
    rw [daysBeforeMonth_succ year (le_trans h hle)]
    omega

theorem monthLength_le (year : Int) (month : Nat) : monthLength year month ≤ 31 := by
  have hall : ∀ length ∈ monthLengths year, length ≤ 31 := by
    intro length h
    simp only [monthLengths, List.mem_cons, List.not_mem_nil, or_false] at h
    have hsecond : (if isLeap year = true then 29 else 28) ≤ 31 := by split <;> decide
    omega
  rw [monthLength]
  cases h : (monthLengths year)[month - 1]? with
  | none => exact Nat.zero_le 31
  | some length => exact hall length (List.mem_of_getElem? h)

private theorem daysBeforeMonth_last (year : Int) :
    daysBeforeMonth year 13 = (monthLengths year).sum := by
  rw [daysBeforeMonth_eq]
  exact congrArg List.sum (List.take_of_length_le (Nat.le_refl 12))

/-- The month that is found begins no later than the day, and does not end before it. -/
theorem monthOf_spec {lengths : List Nat} (month : Nat) {rest : Nat} (h : rest < lengths.sum) :
    ∃ i d, monthOf month rest lengths = (month + i, d) ∧ i < lengths.length ∧
      1 ≤ d ∧ d ≤ (lengths[i]?).getD 0 ∧ (lengths.take i).sum + d = rest + 1 := by
  induction lengths generalizing month rest with
  | nil => simp at h
  | cons length lengths ih =>
    rw [monthOf]
    split
    · next hrest =>
      refine ⟨0, rest + 1, rfl, by simp, by omega, ?_, by simp⟩
      simp only [List.getElem?_cons_zero, Option.getD_some]
      omega
    · next hrest =>
      rw [List.sum_cons] at h
      have hrest' : rest - length < lengths.sum := by omega
      obtain ⟨i, d, hmonth, hi, hlo, hhi, hsum⟩ := ih (month + 1) hrest'
      refine ⟨i + 1, d, ?_, by simpa using hi, hlo, by simpa using hhi, ?_⟩
      · rw [hmonth, Nat.add_assoc, Nat.add_comm 1 i]
      · rw [List.take_succ_cons, List.sum_cons]
        omega

/-! ## Dates -/

structure IsDate (year : Int) (month day : Nat) : Prop where
  month_pos : 1 ≤ month
  month_le : month ≤ 12
  day_pos : 1 ≤ day
  day_le : day ≤ monthLength year month

private theorem IsDate.year_spec {year : Int} {month day : Nat} (h : IsDate year month day) :
    daysBeforeYear year < dayNumber year month day ∧
      dayNumber year month day ≤ daysBeforeYear (year + 1) := by
  have hnext := daysBeforeMonth_succ year h.month_pos
  have hlast := daysBeforeMonth_mono year (Nat.le_add_left 1 month)
    (Nat.succ_le_succ h.month_le)
  have hday_pos := h.day_pos
  have hday_le := h.day_le
  rw [daysBeforeMonth_last] at hlast
  rw [dayNumber, daysBeforeYear_succ]
  omega

/-- A day has a date, and the date has this number. -/
theorem dayOf_spec (number : Int) : ∃ year month day, dayOf number = (year, month, day) ∧
    IsDate year month day ∧ dayNumber year month day = number := by
  have hyear := yearOf_spec number
  rw [daysBeforeYear_succ] at hyear
  have hrest : (number - daysBeforeYear (yearOf number) - 1).toNat <
      (monthLengths (yearOf number)).sum := by omega
  obtain ⟨i, d, hmonth, hi, hlo, hhi, hsum⟩ := monthOf_spec 1 hrest
  have hle : i < 12 := hi
  refine ⟨yearOf number, 1 + i, d, ?_, ?_, ?_⟩
  · rw [dayOf, hmonth]
  · refine ⟨by omega, by omega, hlo, ?_⟩
    rw [monthLength, Nat.add_sub_cancel_left]
    exact hhi
  · rw [dayNumber, daysBeforeMonth_eq, Nat.add_sub_cancel_left]
    omega

theorem dayNumber_lt {year year' : Int} {month month' day day' : Nat} (h : IsDate year month day)
    (h' : IsDate year' month' day')
    (hlt : year < year' ∨ year = year' ∧ (month < month' ∨ month = month' ∧ day < day')) :
    dayNumber year month day < dayNumber year' month' day' := by
  rcases hlt with hyear | ⟨rfl, hmonth | ⟨rfl, hday⟩⟩
  · have hle : daysBeforeYear (year + 1) ≤ daysBeforeYear year' := by
      rw [← Int.not_lt, daysBeforeYear_lt_iff, Int.not_lt]
      exact hyear
    have hbefore := h.year_spec.2
    have hafter := h'.year_spec.1
    omega
  · have hle := daysBeforeMonth_mono year (Nat.le_add_left 1 month)
      (Nat.succ_le_of_lt hmonth)
    rw [daysBeforeMonth_succ year h.month_pos] at hle
    have hbefore := h.day_le
    have hafter := h'.day_pos
    rw [dayNumber, dayNumber]
    omega
  · rw [dayNumber, dayNumber]
    omega

/-! ## Instants -/

namespace Civil

structure InRange (c : Civil) : Prop where
  date : IsDate c.year c.month c.day
  hour : c.hour ≤ 23
  minute : c.minute ≤ 59
  second : c.second ≤ 59
  microsecond : c.microsecond ≤ 999999

theorem fault?_eq_none_iff {c : Civil} :
    c.fault? = none ↔ 1 ≤ c.year ∧ c.year ≤ 9999 ∧ c.InRange := by
  constructor
  · intro h
    simp only [fault?, ite_eq_iff, Bool.or_eq_true, decide_eq_true_eq, reduceCtorEq, and_false,
      false_or, and_true] at h
    have hdate : IsDate c.year c.month c.day := ⟨by omega, by omega, by omega, by omega⟩
    exact ⟨by omega, by omega, hdate, by omega, by omega, by omega, by omega⟩
  · intro ⟨hlo, hhi, h⟩
    have hmonth_pos := h.date.month_pos
    have hmonth_le := h.date.month_le
    have hday_pos := h.date.day_pos
    have hday_le := h.date.day_le
    have hhour := h.hour
    have hminute := h.minute
    have hsecond := h.second
    have hmicrosecond := h.microsecond
    simp only [fault?, Bool.or_eq_true, decide_eq_true_eq]
    rw [if_neg (by omega), if_neg (by omega), if_neg (by omega), if_neg (by omega),
      if_neg (by omega), if_neg (by omega), if_neg (by omega)]

private theorem inRange_ofMicros (t : Int) : (ofMicros t).InRange := by
  obtain ⟨year, month, day, hday, hdate, _⟩ := dayOf_spec (t / microsPerDay + 1)
  simp only [ofMicros, hday]
  have hrest : t % microsPerDay < 86400000000 := Int.emod_lt_of_pos t (by decide)
  exact ⟨hdate, by simp only; omega, by simp only; omega, by simp only; omega, by simp only; omega⟩

theorem micros_ofMicros (t : Int) : (ofMicros t).micros = t := by
  obtain ⟨year, month, day, hday, _, hnumber⟩ := dayOf_spec (t / microsPerDay + 1)
  simp only [ofMicros, hday, micros, hnumber]
  simp only [microsPerDay, microsPerSecond]
  omega

private theorem year_ofMicros {t : Int} (hlo : 0 ≤ t) (hhi : t < endOfTime) :
    1 ≤ (ofMicros t).year ∧ (ofMicros t).year ≤ 9999 := by
  obtain ⟨year, month, day, hday, hdate, hnumber⟩ := dayOf_spec (t / microsPerDay + 1)
  have hspec := hdate.year_spec
  have hnumber_lo : 1 ≤ t / microsPerDay + 1 := by simp only [microsPerDay, microsPerSecond]; omega
  have hnumber_hi : t / microsPerDay + 1 ≤ daysBeforeYear 10000 := by
    have hend : endOfTime = daysBeforeYear 10000 * microsPerDay := by decide
    rw [hend] at hhi
    simp only [microsPerDay, microsPerSecond] at hhi ⊢
    omega
  have hfirst : daysBeforeYear 1 < daysBeforeYear (year + 1) := by
    have hzero : daysBeforeYear 1 = 0 := by decide
    omega
  have hlast : daysBeforeYear year < daysBeforeYear 10000 := by omega
  have hge := daysBeforeYear_lt_iff.mp hfirst
  have hle := daysBeforeYear_lt_iff.mp hlast
  simp only [ofMicros, hday]
  omega

theorem fault?_ofMicros {t : Int} (hlo : 0 ≤ t) (hhi : t < endOfTime) :
    (ofMicros t).fault? = none := by
  have hyear := year_ofMicros hlo hhi
  exact fault?_eq_none_iff.mpr ⟨hyear.1, hyear.2, inRange_ofMicros t⟩

end Civil

end ClauseAudit.Time
