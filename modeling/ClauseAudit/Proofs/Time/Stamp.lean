import ClauseAudit.Proofs.Aligned
import ClauseAudit.Proofs.Text.Digits
import ClauseAudit.Proofs.Time.Calendar
import ClauseAudit.Time.Reader

/-!
# Stamps read back

The text of an instant is a date, a time of day and the letter for universal time. Each of its
numbers has a fixed width, so the reader finds it where it was written, and what is read is the
instant without what is finer than milliseconds.
-/

namespace ClauseAudit.Time

open Text (paddedDigits isAsciiDigit)

/-! ## Numbers of the text -/

theorem readDigits_append {ds : List Char} (hds : ∀ c ∈ ds, isAsciiDigit c = true) (value : Nat)
    (rest : List Char) : readDigits ds.length value (ds ++ rest) =
      some (ds.foldl (fun n c => n * 10 + (c.toNat - '0'.toNat)) value, rest) := by
  induction ds generalizing value with
  | nil => rfl
  | cons c ds ih =>
    obtain ⟨hc, hds⟩ := List.forall_mem_cons.mp hds
    rw [List.length_cons, List.cons_append, readDigits, if_pos hc, ih hds, List.foldl_cons]

private theorem foldl_paddedDigits {width n : Nat} (h : n < 10 ^ width) :
    (paddedDigits width n).foldl (fun n c => n * 10 + (c.toNat - '0'.toNat)) 0 = n := by
  induction width generalizing n with
  | zero =>
    rw [Nat.pow_zero] at h
    have hn : n = 0 := by omega
    rw [hn]
    rfl
  | succ width ih =>
    have hn : n / 10 < 10 ^ width := by rw [Nat.pow_succ] at h; omega
    rw [paddedDigits, List.foldl_append, ih hn, List.foldl_cons, List.foldl_nil,
      Text.toNat_digit (Nat.mod_lt n (by decide))]
    omega

private theorem readDigits_paddedDigits {width n : Nat} (h : n < 10 ^ width) (rest : List Char) :
    readDigits width 0 (paddedDigits width n ++ rest) = some (n, rest) := by
  have hdigits : ∀ c ∈ paddedDigits width n, isAsciiDigit c = true :=
    fun c hc => Text.isAsciiDigit_of_mem_paddedDigits hc
  have hread := readDigits_append hdigits 0 rest
  rw [Text.length_paddedDigits, foldl_paddedDigits h] at hread
  exact hread

theorem paddedDigits_cons (width n : Nat) :
    ∃ c ds, paddedDigits (width + 1) n = c :: ds ∧ isAsciiDigit c = true := by
  have hlength := Text.length_paddedDigits (width + 1) n
  cases hds : paddedDigits (width + 1) n with
  | nil =>
    rw [hds] at hlength
    cases hlength
  | cons c ds =>
    have hmem : c ∈ paddedDigits (width + 1) n := by
      rw [hds]
      exact List.mem_cons_self
    exact ⟨c, ds, rfl, Text.isAsciiDigit_of_mem_paddedDigits hmem⟩

private theorem ne_of_isAsciiDigit {c d : Char} (hc : isAsciiDigit c = true)
    (hd : isAsciiDigit d = false) : c ≠ d := by
  intro heq
  rw [heq, hd] at hc
  cases hc

/-! ## Texts of dates and times -/

namespace Civil

def dateChars (c : Civil) (rest : List Char) : List Char :=
  paddedDigits 4 c.year.toNat ++ '-' ::
    (paddedDigits 2 c.month ++ '-' :: (paddedDigits 2 c.day ++ rest))

def timeChars (c : Civil) (rest : List Char) : List Char :=
  paddedDigits 2 c.hour ++ ':' :: (paddedDigits 2 c.minute ++ ':' ::
    (paddedDigits 2 c.second ++ '.' :: (paddedDigits 3 (c.microsecond / 1000) ++ rest)))

theorem dateChars_append (c : Civil) (rest : List Char) :
    c.dateChars [] ++ rest = c.dateChars rest := by
  simp [dateChars]

theorem timeChars_append (c : Civil) (rest : List Char) :
    c.timeChars [] ++ rest = c.timeChars rest := by
  simp [timeChars]

theorem mem_dateChars {c : Civil} {d : Char} (h : d ∈ c.dateChars []) :
    isAsciiDigit d = true ∨ d = '-' := by
  simp only [dateChars, List.append_nil, List.mem_append, List.mem_cons] at h
  rcases h with h | rfl | h | rfl | h
  · exact .inl (Text.isAsciiDigit_of_mem_paddedDigits h)
  · exact .inr rfl
  · exact .inl (Text.isAsciiDigit_of_mem_paddedDigits h)
  · exact .inr rfl
  · exact .inl (Text.isAsciiDigit_of_mem_paddedDigits h)

theorem mem_timeChars {c : Civil} {d : Char} (h : d ∈ c.timeChars []) :
    isAsciiDigit d = true ∨ d = ':' ∨ d = '.' := by
  simp only [timeChars, List.append_nil, List.mem_append, List.mem_cons] at h
  rcases h with h | rfl | h | rfl | h | rfl | h
  · exact .inl (Text.isAsciiDigit_of_mem_paddedDigits h)
  · exact .inr (.inl rfl)
  · exact .inl (Text.isAsciiDigit_of_mem_paddedDigits h)
  · exact .inr (.inl rfl)
  · exact .inl (Text.isAsciiDigit_of_mem_paddedDigits h)
  · exact .inr (.inr rfl)
  · exact .inl (Text.isAsciiDigit_of_mem_paddedDigits h)

end Civil

theorem toList_universalText (t : Int) : (universalText t).toList =
    (Civil.ofMicros t).dateChars ('T' :: (Civil.ofMicros t).timeChars ['Z']) := by
  simp [universalText, dateText, timeText, padded, Civil.dateChars, Civil.timeChars]

/-- The reader sees the offset of universal time in the place of its letter. -/
theorem spellOut_universalText (t : Int) :
    (universalText t).toList.flatMap (fun c => if c = 'Z' then "+00:00".toList else [c]) =
      (Civil.ofMicros t).dateChars ('T' :: (Civil.ofMicros t).timeChars "+00:00".toList) := by
  have hdate : ∀ c ∈ (Civil.ofMicros t).dateChars [],
      (if c = 'Z' then "+00:00".toList else [c]) = [c] := by
    intro c hc
    apply if_neg
    cases Civil.mem_dateChars hc with
    | inl h => exact ne_of_isAsciiDigit h (by decide)
    | inr h => rw [h]; decide
  have htime : ∀ c ∈ (Civil.ofMicros t).timeChars [],
      (if c = 'Z' then "+00:00".toList else [c]) = [c] := by
    intro c hc
    apply if_neg
    rcases Civil.mem_timeChars hc with h | h | h
    · exact ne_of_isAsciiDigit h (by decide)
    · rw [h]; decide
    · rw [h]; decide
  rw [toList_universalText, ← Civil.dateChars_append, ← Civil.timeChars_append,
    List.flatMap_append, List.flatMap_cons, List.flatMap_append, flatMap_eq_self hdate,
    flatMap_eq_self htime, ← Civil.dateChars_append, ← Civil.timeChars_append]
  rfl

/-! ## Reading them -/

section Reading

variable {c : Civil}

private theorem dateLength?_dateChars {rest : List Char} (h : rest ≠ []) :
    dateLength? (c.dateChars rest) = some 10 := by
  obtain ⟨d, ds, hmonth, hdigit⟩ := paddedDigits_cons 1 c.month
  have hyear : (paddedDigits 4 c.year.toNat).length = 4 := Text.length_paddedDigits ..
  have hlength : (c.dateChars rest).length ≠ 7 := by
    have hpos := List.length_pos_iff.mpr h
    simp only [Civil.dateChars, List.length_append, List.length_cons, Text.length_paddedDigits]
    omega
  have hdash : (c.dateChars rest)[4]? = some '-' := by
    rw [Civil.dateChars, List.getElem?_append_right (by omega), hyear]
    rfl
  have hnext : (c.dateChars rest)[5]? = some d := by
    rw [Civil.dateChars, List.getElem?_append_right (by omega), hyear, hmonth]
    rfl
  have hweek : some d ≠ some 'W' := by
    simpa using ne_of_isAsciiDigit hdigit (by decide)
  rw [dateLength?, if_neg hlength, if_pos hdash, hnext, if_neg hweek]

private theorem readDate_dateChars (hyear : c.year.toNat < 10 ^ 4) (hmonth : c.month < 10 ^ 2)
    (hday : c.day < 10 ^ 2) (rest : List Char) (length : Nat) :
    readDate (c.dateChars rest) length = some ((c.year.toNat : Int), c.month, c.day) := by
  obtain ⟨d, ds, hcons, hdigit⟩ := paddedDigits_cons 1 c.month
  have hweek : d ≠ 'W' := ne_of_isAsciiDigit hdigit (by decide)
  have hread := readDigits_paddedDigits hmonth ('-' :: (paddedDigits 2 c.day ++ rest))
  rw [hcons, List.cons_append] at hread
  simp only [readDate, Civil.dateChars, readDigits_paddedDigits hyear, hcons, Option.bind_eq_bind,
    Option.bind_some, List.head?_cons, beq_self_eq_true, if_true, List.drop_succ_cons,
    List.drop_zero, List.cons_append]
  split
  · next heq => exact absurd (List.cons.inj heq).1 hweek
  · simp only [hread, Option.bind_some, passDash, if_true, readDigits_paddedDigits hday]
    rfl

private theorem readParts_colon {clock : Clock} {colons : Bool} {part left n : Nat}
    {more : List Char} (hn : n < 10 ^ 2) (hmore : more ≠ []) (hcolons : part = 0 ∨ colons = true) :
    readParts clock colons part (left + 1) (paddedDigits 2 n ++ ':' :: more) =
      readParts (clock.setPart part n) true (part + 1) left more := by
  obtain ⟨e, es, rfl⟩ := List.exists_cons_of_ne_nil hmore
  rw [readParts, readDigits_paddedDigits hn]
  cases hcolons with
  | inl hpart => simp [hpart]
  | inr hcolons => simp [hcolons]

private theorem readParts_point {clock : Clock} {part left n : Nat} {more : List Char}
    (hn : n < 10 ^ 2) (hmore : more ≠ []) (hpart : part ≠ 0) :
    readParts clock true part (left + 1) (paddedDigits 2 n ++ '.' :: more) =
      readFraction (clock.setPart part n) more := by
  obtain ⟨e, es, rfl⟩ := List.exists_cons_of_ne_nil hmore
  rw [readParts, readDigits_paddedDigits hn]
  simp [hpart]

private theorem readFraction_millis {clock : Clock} {n : Nat} (hn : n < 10 ^ 3) :
    readFraction clock (paddedDigits 3 n) =
      some ({ clock with microsecond := n * 1000 }, true) := by
  have hread := readDigits_paddedDigits hn []
  rw [List.append_nil] at hread
  simp [readFraction, Text.length_paddedDigits, hread]

def Civil.millisClock (c : Civil) : Clock :=
  { hour := c.hour, minute := c.minute, second := c.second
    microsecond := c.microsecond / 1000 * 1000 }

private theorem readClock_timeChars (hhour : c.hour < 10 ^ 2) (hminute : c.minute < 10 ^ 2)
    (hsecond : c.second < 10 ^ 2) (hmicrosecond : c.microsecond / 1000 < 10 ^ 3) :
    readClock (c.timeChars []) = some (c.millisClock, true) := by
  rw [readClock, Civil.timeChars, readParts_colon hhour (by simp) (.inl rfl),
    readParts_colon hminute (by simp) (.inr rfl), List.append_nil,
    readParts_point hsecond _ (by simp), readFraction_millis hmicrosecond]
  · rfl
  · obtain ⟨d, ds, hcons, _⟩ := paddedDigits_cons 2 (c.microsecond / 1000)
    rw [hcons]
    exact List.cons_ne_nil d ds

private theorem splitOffset_timeChars (rest : List Char) :
    splitOffset (c.timeChars ('+' :: rest)) = (c.timeChars [], some (false, rest)) := by
  have hall : ∀ d ∈ c.timeChars [], (d != '+' && d != '-') = true := by
    intro d hd
    rcases Civil.mem_timeChars hd with h | rfl | rfl
    · have hplus : d ≠ '+' := ne_of_isAsciiDigit h (by decide)
      have hminus : d ≠ '-' := ne_of_isAsciiDigit h (by decide)
      simp [hplus, hminus]
    · decide
    · decide
  have htake : (c.timeChars ('+' :: rest)).takeWhile (fun d => d != '+' && d != '-') =
      c.timeChars [] := by
    rw [← Civil.timeChars_append, List.takeWhile_append_of_pos hall,
      List.takeWhile_cons_of_neg (by simp), List.append_nil]
  have hdrop : (c.timeChars ('+' :: rest)).drop (c.timeChars []).length = '+' :: rest := by
    rw [← Civil.timeChars_append c ('+' :: rest), List.drop_left]
  simp only [splitOffset, htake, hdrop]
  rfl

private theorem readTime_timeChars (hhour : c.hour < 10 ^ 2) (hminute : c.minute < 10 ^ 2)
    (hsecond : c.second < 10 ^ 2) (hmicrosecond : c.microsecond / 1000 < 10 ^ 3) :
    readTime (c.timeChars "+00:00".toList) = some (c.millisClock, some 0) := by
  have hsplit := splitOffset_timeChars (c := c) "00:00".toList
  have hoffset : readClock "00:00".toList = some ({}, true) := by decide
  simp only [readTime, show "+00:00".toList = '+' :: "00:00".toList from rfl, hsplit,
    readClock_timeChars hhour hminute hsecond hmicrosecond, hoffset]
  rfl

end Reading

namespace Civil

def cut (c : Civil) : Civil := { c with microsecond := c.microsecond / 1000 * 1000 }

private theorem InRange.cut {c : Civil} (h : c.InRange) : c.cut.InRange := by
  have hmicrosecond := h.microsecond
  refine ⟨h.date, h.hour, h.minute, h.second, ?_⟩
  simp only [Civil.cut]
  omega

private theorem readPlain?_dateChars {c : Civil} (h : c.fault? = none) :
    Stamp.readPlain? (c.dateChars ('T' :: c.timeChars "+00:00".toList)) =
      some ⟨c.cut.micros, some 0⟩ := by
  obtain ⟨hlo, hhi, hrange⟩ := fault?_eq_none_iff.mp h
  have hmonth := hrange.date.month_le
  have hday : c.day ≤ 31 := le_trans hrange.date.day_le (monthLength_le c.year c.month)
  have hhour := hrange.hour
  have hminute := hrange.minute
  have hsecond := hrange.second
  have hmicrosecond := hrange.microsecond
  have hlength : (c.dateChars ('T' :: c.timeChars "+00:00".toList)).length = 29 := by
    simp [dateChars, timeChars, Text.length_paddedDigits]
  have hdrop : (c.dateChars ('T' :: c.timeChars "+00:00".toList)).drop (10 + 1) =
      c.timeChars "+00:00".toList := by
    have hdate : (c.dateChars ['T']).length = 10 + 1 := by
      simp [dateChars, Text.length_paddedDigits]
    have happend : c.dateChars ('T' :: c.timeChars "+00:00".toList) =
        c.dateChars ['T'] ++ c.timeChars "+00:00".toList := by
      simp [dateChars]
    rw [happend, ← hdate, List.drop_left]
  have hcut : c.cut.fault? = none := fault?_eq_none_iff.mpr ⟨hlo, hhi, hrange.cut⟩
  have hyear : ((c.year.toNat : Int) : Int) = c.year := Int.toNat_of_nonneg (by omega)
  have hread := readDate_dateChars (c := c) (by omega) (by omega) (by omega)
    ('T' :: c.timeChars "+00:00".toList) 10
  have htime := readTime_timeChars (c := c) (by omega) (by omega) (by omega) (by omega)
  have hmake : Stamp.make? (c.year, c.month, c.day) c.millisClock (some 0) =
      some ⟨c.cut.micros, some 0⟩ := by
    have hsame : c.cut.fault?.isSome = false := by rw [hcut]; rfl
    rw [Stamp.make?]
    change (if c.cut.fault?.isSome = true then none else _) = _
    rw [hsame]
    rfl
  rw [hyear] at hread
  rw [Stamp.readPlain?, dateLength?_dateChars (List.cons_ne_nil _ _), hlength]
  simp only [Option.bind_eq_bind, Option.bind_some, hread, hdrop, htime, hmake]
  rfl

end Civil

namespace Stamp

/-- The instant that a stamp denotes. Without an offset its clock shows universal time. -/
def instant (s : Stamp) : Int := s.clock - s.offset.getD 0

def cutToMillis (t : Int) : Int := t - t % 1000

private theorem ofMicros_cutToMillis (t : Int) :
    Civil.ofMicros (cutToMillis t) = (Civil.ofMicros t).cut := by
  have hday : cutToMillis t / microsPerDay = t / microsPerDay := by
    simp only [cutToMillis, microsPerDay, microsPerSecond]
    omega
  have hrest : (cutToMillis t % microsPerDay).toNat =
      (t % microsPerDay).toNat / 1000 * 1000 := by
    simp only [cutToMillis, microsPerDay, microsPerSecond]
    omega
  obtain ⟨year, month, day, hdate, _⟩ := dayOf_spec (t / microsPerDay + 1)
  simp only [Civil.ofMicros, Civil.cut, hday, hrest, hdate, Civil.mk.injEq, true_and]
  omega

theorem utcText_eq {s : Stamp} (hlo : 0 ≤ s.instant) (hhi : s.instant < endOfTime) :
    s.utcText = .ok (universalText s.instant) := by
  have hshift : s.universal = .ok s.instant := by
    rw [universal, shift, ← Int.sub_eq_add_neg]
    change (if 0 ≤ s.instant && s.instant < endOfTime then _ else _) = _
    rw [if_pos (by simp [hlo, hhi])]
    rfl
  rw [utcText, hshift]
  rfl

private theorem read?_universalText {t : Int} (hlo : 0 ≤ t) (hhi : t < endOfTime) :
    read? (universalText t) = some ⟨cutToMillis t, some 0⟩ := by
  rw [read?, spellOut_universalText, Civil.readPlain?_dateChars (Civil.fault?_ofMicros hlo hhi),
    ← ofMicros_cutToMillis, Civil.micros_ofMicros]

theorem universalText_cutToMillis (t : Int) : universalText (cutToMillis t) = universalText t := by
  have hmillis (n : Nat) : n / 1000 * 1000 / 1000 = n / 1000 := by omega
  rw [universalText, ofMicros_cutToMillis, universalText]
  simp only [dateText, timeText, Civil.cut, hmillis]

/-- A stamp whose instant lies in the calendar has a text, whatever its offset. The text is read as
a stamp of universal time for the same instant without what is finer than milliseconds, and this
stamp has the same text. -/
theorem utcText_reads_back {s : Stamp} (hlo : 0 ≤ s.instant) (hhi : s.instant < endOfTime) :
    ∃ text r, s.utcText = .ok text ∧ read? text = some r ∧ r.offset = some 0 ∧
      r.instant = cutToMillis s.instant ∧ r.utcText = .ok text := by
  let r : Stamp := ⟨cutToMillis s.instant, some 0⟩
  have hinstant : r.instant = cutToMillis s.instant := Int.sub_zero _
  have hcut : 0 ≤ r.instant ∧ r.instant < endOfTime := by
    rw [hinstant, cutToMillis]
    omega
  refine ⟨universalText s.instant, r, utcText_eq hlo hhi, read?_universalText hlo hhi, rfl,
    hinstant, ?_⟩
  rw [utcText_eq hcut.1 hcut.2, hinstant, universalText_cutToMillis]

/-- A clock on a leap day that is some hours, minutes and seconds behind universal time. -/
def leapDay : Stamp :=
  ⟨Civil.micros ⟨2024, 2, 29, 23, 30, 15, 123999⟩, some (-19815 * microsPerSecond)⟩

theorem leapDay_reads_back : 0 ≤ leapDay.instant ∧ leapDay.instant < endOfTime ∧
    leapDay.utcText = .ok "2024-03-01T05:00:30.123Z" ∧
    ∃ text r, leapDay.utcText = .ok text ∧ read? text = some r ∧ r.offset = some 0 ∧
      r.instant = cutToMillis leapDay.instant ∧ r.utcText = .ok text := by
  have hlo : 0 ≤ leapDay.instant := by decide
  have hhi : leapDay.instant < endOfTime := by decide
  exact ⟨hlo, hhi, by rfl, utcText_reads_back hlo hhi⟩

end Stamp

end ClauseAudit.Time
