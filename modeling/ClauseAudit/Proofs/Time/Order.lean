import ClauseAudit.Proofs.Time.Stamp
import Mathlib.Data.String.Basic

/-!
# Stamps in order

The texts of instants stand in the order of the instants. The text shows numbers of fixed width, the
largest unit first, so the order of texts is that of the lists of numbers; and of two dates and
times of the calendar the one with the smaller list is earlier.
-/

namespace ClauseAudit.Time

namespace Civil

/-- The numbers that the text of a date and time shows, in their order. -/
def shown (c : Civil) : List Nat :=
  [c.year.toNat, c.month, c.day, c.hour, c.minute, c.second, c.microsecond / 1000]

variable {c c' : Civil}

private theorem cons_lt_cons_self_iff (d : Char) {us vs : List Char} : d :: us < d :: vs ↔
    us < vs := by
  simp

private theorem chars_lt_iff (h : c.fault? = none) (h' : c'.fault? = none) (zone : List Char) :
    c.dateChars ('T' :: c.timeChars zone) < c'.dateChars ('T' :: c'.timeChars zone) ↔
      c.shown < c'.shown := by
  obtain ⟨_, hyear, hrange⟩ := fault?_eq_none_iff.mp h
  obtain ⟨_, hyear', hrange'⟩ := fault?_eq_none_iff.mp h'
  have hday : c.day ≤ 31 := le_trans hrange.date.day_le (monthLength_le c.year c.month)
  have hday' : c'.day ≤ 31 := le_trans hrange'.date.day_le (monthLength_le c'.year c'.month)
  have hmonth := hrange.date.month_le
  have hmonth' := hrange'.date.month_le
  have hhour := hrange.hour
  have hhour' := hrange'.hour
  have hminute := hrange.minute
  have hminute' := hrange'.minute
  have hsecond := hrange.second
  have hsecond' := hrange'.second
  have hmicrosecond := hrange.microsecond
  have hmicrosecond' := hrange'.microsecond
  simp only [dateChars, timeChars]
  rw [Text.paddedDigits_append_lt_iff (by omega) (by omega), cons_lt_cons_self_iff,
    Text.paddedDigits_append_lt_iff (by omega) (by omega), cons_lt_cons_self_iff,
    Text.paddedDigits_append_lt_iff (by omega) (by omega), cons_lt_cons_self_iff,
    Text.paddedDigits_append_lt_iff (by omega) (by omega), cons_lt_cons_self_iff,
    Text.paddedDigits_append_lt_iff (by omega) (by omega), cons_lt_cons_self_iff,
    Text.paddedDigits_append_lt_iff (by omega) (by omega), cons_lt_cons_self_iff,
    Text.paddedDigits_append_lt_iff (by omega) (by omega)]
  simp [shown, List.cons_lt_cons_iff]

private theorem millis_lt (h : c.fault? = none) (h' : c'.fault? = none) (hlt : c.shown < c'.shown) :
    c.micros / 1000 < c'.micros / 1000 := by
  obtain ⟨hyear, _, hrange⟩ := fault?_eq_none_iff.mp h
  obtain ⟨hyear', _, hrange'⟩ := fault?_eq_none_iff.mp h'
  have hhour := hrange.hour
  have hminute := hrange.minute
  have hsecond := hrange.second
  have hmicrosecond := hrange.microsecond
  simp only [shown, List.cons_lt_cons_iff, List.lt_irrefl, and_false, or_false] at hlt
  simp only [micros, microsPerDay, microsPerSecond]
  by_cases hdate : c.year = c'.year ∧ c.month = c'.month ∧ c.day = c'.day
  · obtain ⟨heq_year, heq_month, heq_day⟩ := hdate
    rw [heq_year, heq_month, heq_day] at hlt ⊢
    omega
  · have hday := dayNumber_lt hrange.date hrange'.date (by omega)
    omega

private theorem millis_eq (h : c.fault? = none) (h' : c'.fault? = none) (heq : c.shown = c'.shown) :
    c.micros / 1000 = c'.micros / 1000 := by
  obtain ⟨hyear, _⟩ := fault?_eq_none_iff.mp h
  obtain ⟨hyear', _⟩ := fault?_eq_none_iff.mp h'
  simp only [shown, List.cons.injEq, and_true] at heq
  obtain ⟨heq_year, heq_month, heq_day, heq_hour, heq_minute, heq_second, heq_millis⟩ := heq
  have hyears : c.year = c'.year := by omega
  simp only [micros, microsPerDay, microsPerSecond]
  rw [hyears, heq_month, heq_day, heq_hour, heq_minute, heq_second]
  omega

private theorem millis_lt_iff (h : c.fault? = none) (h' : c'.fault? = none) :
    c.shown < c'.shown ↔ c.micros / 1000 < c'.micros / 1000 := by
  constructor
  · exact millis_lt h h'
  · intro hlt
    rcases lt_trichotomy c.shown c'.shown with hlist | hlist | hlist
    · exact hlist
    · have heq := millis_eq h h' hlist
      omega
    · have hgt := millis_lt h' h hlist
      omega

end Civil

/-- The texts of two instants compare as their milliseconds. -/
theorem universalText_lt_iff {t u : Int} (ht : 0 ≤ t) (ht' : t < endOfTime) (hu : 0 ≤ u)
    (hu' : u < endOfTime) :
    universalText t < universalText u ↔ Stamp.cutToMillis t < Stamp.cutToMillis u := by
  have hmillis := Civil.millis_lt_iff (Civil.fault?_ofMicros ht ht') (Civil.fault?_ofMicros hu hu')
  rw [Civil.micros_ofMicros, Civil.micros_ofMicros] at hmillis
  rw [String.lt_iff_toList_lt, toList_universalText, toList_universalText,
    Civil.chars_lt_iff (Civil.fault?_ofMicros ht ht') (Civil.fault?_ofMicros hu hu'), hmillis,
    Stamp.cutToMillis, Stamp.cutToMillis]
  omega

namespace Stamp

/-- Two stamps whose instants lie in the calendar have texts, whatever their offsets, and the texts
compare as the instants without what is finer than milliseconds. -/
theorem utcText_compares {a b : Stamp} (ha : 0 ≤ a.instant ∧ a.instant < endOfTime)
    (hb : 0 ≤ b.instant ∧ b.instant < endOfTime) :
    ∃ s t, a.utcText = .ok s ∧ b.utcText = .ok t ∧
      (s < t ↔ cutToMillis a.instant < cutToMillis b.instant) ∧
      (s = t ↔ cutToMillis a.instant = cutToMillis b.instant) ∧
      (t < s ↔ cutToMillis b.instant < cutToMillis a.instant) := by
  have hlt := universalText_lt_iff ha.1 ha.2 hb.1 hb.2
  have hgt := universalText_lt_iff hb.1 hb.2 ha.1 ha.2
  refine ⟨_, _, utcText_eq ha.1 ha.2, utcText_eq hb.1 hb.2, hlt, ?_, hgt⟩
  constructor
  · intro heq
    rw [heq] at hlt hgt
    have hge := hlt.not.mp (lt_irrefl (universalText b.instant))
    have hle := hgt.not.mp (lt_irrefl (universalText b.instant))
    omega
  · intro heq
    rw [← universalText_cutToMillis, heq, universalText_cutToMillis]

/-- A clock in the new year where universal time is still in the old one. -/
def newYear : Stamp := ⟨Civil.micros ⟨2025, 1, 1, 0, 30, 0, 0⟩, some (3600 * microsPerSecond)⟩

/-- A later instant on a clock of universal time. -/
def oldYear : Stamp := ⟨Civil.micros ⟨2024, 12, 31, 23, 45, 0, 999⟩, none⟩

theorem newYear_before_oldYear : (0 ≤ newYear.instant ∧ newYear.instant < endOfTime) ∧
    (0 ≤ oldYear.instant ∧ oldYear.instant < endOfTime) ∧
    newYear.utcText = .ok "2024-12-31T23:30:00.000Z" ∧
    oldYear.utcText = .ok "2024-12-31T23:45:00.000Z" ∧
    ∃ s t, newYear.utcText = .ok s ∧ oldYear.utcText = .ok t ∧
      (s < t ↔ cutToMillis newYear.instant < cutToMillis oldYear.instant) ∧
      (s = t ↔ cutToMillis newYear.instant = cutToMillis oldYear.instant) ∧
      (t < s ↔ cutToMillis oldYear.instant < cutToMillis newYear.instant) := by
  have hnew : 0 ≤ newYear.instant ∧ newYear.instant < endOfTime := by decide
  have hold : 0 ≤ oldYear.instant ∧ oldYear.instant < endOfTime := by decide
  exact ⟨hnew, hold, by rfl, by rfl, utcText_compares hnew hold⟩

end Stamp

end ClauseAudit.Time
