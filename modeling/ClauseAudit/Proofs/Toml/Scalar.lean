import ClauseAudit.Proofs.Toml.Passing

/-!
# Reading numbers, dates and times

What is passed holds no carriage return, and a blank at the end of the text stays behind it: the
same is found in the text without the blank.
-/

namespace ClauseAudit.Toml

/-! ## Numbers -/

section Numbers

variable {isDigit : Char → Bool} {cs ds rest : List Char} {v : Value}

private theorem passes_moreDigits (hd : IsDigits isDigit) (fuel : Nat) (cs : List Char) :
    Passes cs (moreDigits isDigit fuel cs).2 := by
  fun_induction moreDigits isDigit fuel cs with
  | case1 fuel c rest hc ds rest' heq ih =>
    rw [heq] at ih
    exact (ih.cons (hd.visible c hc).ne_return).cons (by decide)
  | case2 fuel c rest hc => exact Passes.refl _
  | case3 fuel c rest hne hc ds rest' heq ih =>
    rw [heq] at ih
    exact ih.cons (hd.visible c hc).ne_return
  | case4 fuel c rest hne hc => exact Passes.refl _
  | case5 fuel cs hne hnil => exact Passes.refl _

private theorem passes_digits? (hd : IsDigits isDigit) (h : digits? isDigit cs = some (ds, rest)) :
    Passes cs rest := by
  cases cs with
  | nil => cases h
  | cons c cs =>
    rw [digits?] at h
    split at h
    · next hc =>
      cases h
      exact (passes_moreDigits hd _ _).cons (hd.visible c hc).ne_return
    · cases h

private theorem passes_based? (h : based? cs = some (v, rest)) : Passes cs rest := by
  unfold based? at h
  split at h
  · next letter more =>
    have hread {base : Nat} {isDigit : Char → Bool} (hd : IsDigits isDigit)
        (h : (digits? isDigit more).map (fun found => (Value.int (inBase base found.1), found.2)) =
          some (v, rest)) : Passes more rest := by
      obtain ⟨⟨ds, rest'⟩, hds, heq⟩ := Option.map_eq_some_iff.mp h
      cases heq
      exact passes_digits? hd hds
    have hmore : letter ≠ '\r' ∧ Passes more rest := by
      split at h
      · exact ⟨by decide, hread .hexadecimal h⟩
      · exact ⟨by decide, hread .binary h⟩
      · exact ⟨by decide, hread .octal h⟩
      · cases h
    exact (hmore.2.cons hmore.1).cons (by decide)
  · cases h

private theorem passes_sign (cs : List Char) : Passes cs (sign cs).2 := by
  unfold sign
  split
  · exact (Passes.refl _).cons (by decide)
  · exact (Passes.refl _).cons (by decide)
  · exact Passes.refl _

private theorem passes_fraction? (h : fraction? cs = some (ds, rest)) : Passes cs rest := by
  unfold fraction? at h
  split at h
  · exact (passes_digits? .ascii h).cons (by decide)
  · cases h

private theorem passes_exponent? {e : Int} (h : exponent? cs = some (e, rest)) :
    Passes cs rest := by
  cases cs with
  | nil => cases h
  | cons c cs =>
    rw [exponent?] at h
    split at h
    · next hc =>
      obtain ⟨⟨ds, rest'⟩, hds, heq⟩ := Option.map_eq_some_iff.mp h
      cases heq
      have hletter : c ≠ '\r' := by
        rintro rfl
        cases hc
      exact ((passes_sign cs).trans (passes_digits? .ascii hds)).cons hletter
    · cases h

private theorem passes_whole? (h : whole? cs = some (ds, rest)) : Passes cs rest := by
  unfold whole? at h
  split at h
  · cases h
    exact (Passes.refl _).cons (by decide)
  · exact passes_digits? .ascii h

private theorem passes_getD {α : Type} {part : Option (α × List Char)} {a : α}
    (h : ∀ a rest, part = some (a, rest) → Passes cs rest) : Passes cs (part.getD (a, cs)).2 := by
  cases part with
  | none => exact Passes.refl cs
  | some found => exact h found.1 found.2 rfl

private theorem passes_decimal? (h : decimal? cs = some (v, rest)) : Passes cs rest := by
  obtain ⟨⟨whole, more⟩, hwhole, h⟩ := Option.bind_eq_some_iff.mp h
  have hfraction : Passes more ((fraction? more).getD ([], more)).2 :=
    passes_getD fun _ _ => passes_fraction?
  have hexponent (more : List Char) : Passes more ((exponent? more).getD (0, more)).2 :=
    passes_getD fun _ _ => passes_exponent?
  have hall := (passes_sign cs).trans
    ((passes_whole? hwhole).trans (hfraction.trans (hexponent _)))
  dsimp only at h
  split at h
  · cases h
    exact hall
  · cases h
    exact hall

private theorem passes_special? (h : special? cs = some (v, rest)) : Passes cs rest := by
  refine (passes_sign cs).trans ?_
  unfold special? at h
  dsimp only at h
  split at h
  · next hsign =>
    cases h
    rw [hsign]
    exact (((Passes.refl _).cons (by decide)).cons (by decide)).cons (by decide)
  · next hsign =>
    cases h
    rw [hsign]
    exact (((Passes.refl _).cons (by decide)).cons (by decide)).cons (by decide)
  · cases h

end Numbers

/-! ## Dates and times -/

section Moments

variable {cs rest : List Char} {v : Value}

private theorem passes_field? {width lo hi n : Nat} (h : field? width lo hi cs = some (n, rest)) :
    Passes cs rest := by
  unfold field? at h
  dsimp only at h
  split at h
  · next hfield =>
    cases h
    simp only [Bool.and_eq_true] at hfield
    exact Passes.drop (IsDigits.ascii.return_notMem hfield.1.1.2)
  · cases h

private theorem passes_pass? {c : Char} (hc : c ≠ '\r') (h : pass? c cs = some rest) :
    Passes cs rest := by
  cases cs with
  | nil => cases h
  | cons d cs =>
    rw [pass?] at h
    split at h
    · next heq =>
      cases h
      rw [← eq_of_beq heq]
      exact (Passes.refl _).cons hc
    · cases h

private theorem passes_hoursMinutes? (h : hoursMinutes? cs = some rest) : Passes cs rest := by
  obtain ⟨⟨hour, r₁⟩, hhour, h⟩ := Option.bind_eq_some_iff.mp h
  obtain ⟨r₂, hcolon, h⟩ := Option.bind_eq_some_iff.mp h
  obtain ⟨⟨minute, r₃⟩, hminute, h⟩ := Option.bind_eq_some_iff.mp h
  cases h
  exact (passes_field? hhour).trans ((passes_pass? (by decide) hcolon).trans
    (passes_field? hminute))

private theorem passes_clock? (h : clock? cs = some rest) : Passes cs rest := by
  obtain ⟨r₁, hclock, h⟩ := Option.bind_eq_some_iff.mp h
  obtain ⟨r₂, hcolon, h⟩ := Option.bind_eq_some_iff.mp h
  obtain ⟨⟨second, r₃⟩, hsecond, h⟩ := Option.bind_eq_some_iff.mp h
  refine (passes_hoursMinutes? hclock).trans ((passes_pass? (by decide) hcolon).trans
    ((passes_field? hsecond).trans ?_))
  dsimp only at h
  split at h
  · next d more =>
    cases h
    split
    · next hd =>
      have hdigit := (visible_of_isAsciiDigit hd).ne_return
      exact ((Passes.dropWhile (by decide) _).cons hdigit).cons (by decide)
    · exact Passes.refl _
  · cases h
    exact Passes.refl _

private theorem passes_passOffset (cs : List Char) : Passes cs (passOffset cs) := by
  unfold passOffset
  split
  · exact (Passes.refl _).cons (by decide)
  · exact (Passes.refl _).cons (by decide)
  · next c more _ _ =>
    split
    · next hc =>
      have hsign : c ≠ '\r' := by
        rintro rfl
        cases hc
      cases hoffset : hoursMinutes? more with
      | none => exact Passes.refl _
      | some rest => exact (passes_hoursMinutes? hoffset).cons hsign
    · exact Passes.refl _
  · exact Passes.refl _

private theorem passes_timeOfDate? (h : timeOfDate? cs = some rest) : Passes cs rest := by
  cases cs with
  | nil => cases h
  | cons c cs =>
    rw [timeOfDate?] at h
    split at h
    · next hc =>
      have hbetween : c ≠ '\r' := by
        rintro rfl
        cases hc
      exact (passes_clock? h).cons hbetween
    · cases h

private theorem passes_date? (h : date? cs = some (some (v, rest))) : Passes cs rest := by
  obtain ⟨⟨year, r₁⟩, hyear, h⟩ := Option.bind_eq_some_iff.mp h
  obtain ⟨r₂, hdash, h⟩ := Option.bind_eq_some_iff.mp h
  obtain ⟨⟨month, r₃⟩, hmonth, h⟩ := Option.bind_eq_some_iff.mp h
  obtain ⟨r₄, hdash', h⟩ := Option.bind_eq_some_iff.mp h
  obtain ⟨⟨day, r₅⟩, hday, h⟩ := Option.bind_eq_some_iff.mp h
  refine (passes_field? hyear).trans ((passes_pass? (by decide) hdash).trans
    ((passes_field? hmonth).trans ((passes_pass? (by decide) hdash').trans
      ((passes_field? hday).trans ?_))))
  dsimp only at h
  split at h
  · cases h
  split at h
  · next htime =>
    cases h
    exact (passes_timeOfDate? htime).trans (passes_passOffset _)
  · cases h
    exact Passes.refl _

theorem passes_scalar? (h : scalar? cs = some (v, rest)) : Passes cs rest := by
  unfold scalar? at h
  split at h
  · next hdate =>
    rw [h] at hdate
    exact passes_date? hdate
  split at h
  · next hclock =>
    cases h
    exact passes_clock? hclock
  · cases hbased : based? cs with
    | some found =>
      rw [hbased] at h
      cases h
      exact passes_based? hbased
    | none =>
      rw [hbased] at h
      cases hdecimal : decimal? cs with
      | some found =>
        rw [hdecimal] at h
        cases h
        exact passes_decimal? hdecimal
      | none =>
        rw [hdecimal] at h
        exact passes_special? h

end Moments

/-! ## A blank at the end -/

section Blank

variable {b : Char} {isDigit : Char → Bool}

/-- What is found in a text, with a character more behind the rest. -/
def behind {α : Type} (b : Char) (found : α × List Char) : α × List Char :=
  (found.1, found.2 ++ [b])

private theorem bind_map {α β : Type} {k : α → α} {x x' : Option α} {f f' : α → Option β}
    {g : β → β} (hx : x' = x.map k) (hf : ∀ a, f' (k a) = (f a).map g) :
    x'.bind f' = (x.bind f).map g := by
  rw [hx, Option.bind_map, Option.map_bind]
  exact congrArg x.bind (funext hf)

private theorem bind_behind {α β : Type} {x x' : Option (α × List Char)}
    {f f' : α × List Char → Option β} {g : β → β} (hx : x' = x.map (behind b))
    (hf : ∀ a rest, f' (a, rest ++ [b]) = (f (a, rest)).map g) : x'.bind f' = (x.bind f).map g :=
  bind_map hx fun found => hf found.1 found.2

private theorem getD_behind {α : Type} (part : Option (α × List Char)) (a : α) (cs : List Char) :
    (part.map (behind b)).getD (a, cs ++ [b]) = behind b (part.getD (a, cs)) :=
  Option.getD_map (behind b) (a, cs) part

variable (hb : Text.isBlank b = true)

include hb

theorem IsDigits.blank (hd : IsDigits isDigit) : isDigit b = false := by
  cases hdigit : isDigit b with
  | false => rfl
  | true => exact absurd rfl ((hd.visible b hdigit).ne_of_isBlank hb)

theorem moreDigits_concat (hd : IsDigits isDigit) {cs : List Char} {fuel fuel' : Nat}
    (hfuel : cs.length ≤ fuel) (hfuel' : cs.length ≤ fuel') :
    moreDigits isDigit fuel (cs ++ [b]) = behind b (moreDigits isDigit fuel' cs) := by
  have hblank := hd.blank hb
  have hunderscore := hd.underscore
  fun_induction moreDigits isDigit fuel' cs generalizing fuel with
  | case1 fuel' c rest hc ds rest' heq ih =>
    obtain ⟨fuel, rfl, hle⟩ := exists_fuel hfuel
    have hrest := ih (Nat.le_of_succ_le hle) (Nat.le_of_succ_le (Nat.le_of_succ_le_succ hfuel'))
    rw [heq] at hrest
    simp [moreDigits, hc, hrest, behind]
  | case2 fuel' c rest hc =>
    obtain ⟨fuel, rfl, _⟩ := exists_fuel hfuel
    simp [moreDigits, hc, behind]
  | case3 fuel' c rest hne hc ds rest' heq ih =>
    obtain ⟨fuel, rfl, hle⟩ := exists_fuel hfuel
    have hrest := ih hle (Nat.le_of_succ_le_succ hfuel')
    rw [heq] at hrest
    have hc' : c ≠ '_' := by
      rintro rfl
      rw [hunderscore] at hc
      cases hc
    simp [moreDigits, hc, hrest, hc', behind]
  | case4 fuel' c rest hne hc =>
    obtain ⟨fuel, rfl, _⟩ := exists_fuel hfuel
    by_cases hc' : c = '_'
    · -- An underscore at the end is followed by the blank now, which is no digit.
      cases rest with
      | nil => simp [moreDigits, hc', hblank, behind]
      | cons d rest => exact absurd rfl (hne d rest hc')
    · simp [moreDigits, hc, hc', behind]
  | case5 fuel' cs hne hnil =>
    have hcs : cs = [] := by
      cases fuel' with
      | zero => exact List.length_eq_zero_iff.mp (Nat.le_zero.mp hfuel')
      | succ fuel' =>
        cases cs with
        | nil => rfl
        | cons c cs => exact absurd rfl (hnil fuel' c cs rfl)
    subst hcs
    cases fuel with
    | zero => rfl
    | succ fuel => simp [moreDigits, hblank, behind]

theorem digits?_concat (hd : IsDigits isDigit) (cs : List Char) :
    digits? isDigit (cs ++ [b]) = (digits? isDigit cs).map (behind b) := by
  cases cs with
  | nil => simp [digits?, hd.blank hb]
  | cons c rest =>
    have hmore := moreDigits_concat hb hd (Nat.le_add_right rest.length 1) (Nat.le_refl _)
    rw [List.cons_append, digits?, digits?, List.length_append, List.length_singleton, hmore]
    split
    · rfl
    · rfl

theorem based?_concat (cs : List Char) : based? (cs ++ [b]) = (based? cs).map (behind b) := by
  rcases cs with _ | ⟨c, _ | ⟨letter, rest⟩⟩
  · simp [based?]
  · -- No digit follows a base letter here.
    by_cases hc : c = '0'
    · subst hc
      simp only [based?, List.singleton_append]
      split
      · rfl
      · rfl
      · rfl
      · rfl
    · simp [based?, hc]
  · by_cases hc : c = '0'
    · subst hc
      have hread {base : Nat} {isDigit : Char → Bool} (hd : IsDigits isDigit) :
          (digits? isDigit (rest ++ [b])).map (fun found =>
              (Value.int (inBase base found.1), found.2)) =
            ((digits? isDigit rest).map fun found =>
              (Value.int (inBase base found.1), found.2)).map (behind b) := by
        rw [digits?_concat hb hd, Option.map_map, Option.map_map]
        rfl
      simp only [based?, List.cons_append]
      split
      · exact hread .hexadecimal
      · exact hread .binary
      · exact hread .octal
      · rfl
    · simp [based?, hc]

theorem sign_concat (cs : List Char) : sign (cs ++ [b]) = behind b (sign cs) := by
  cases cs with
  | nil =>
    have hminus : b ≠ '-' := Visible.ne_of_isBlank (by decide) hb
    have hplus : b ≠ '+' := Visible.ne_of_isBlank (by decide) hb
    simp [sign, behind, hminus, hplus]
  | cons c rest =>
    by_cases hminus : c = '-'
    · simp [sign, behind, hminus]
    by_cases hplus : c = '+'
    · simp [sign, behind, hplus]
    · simp [sign, behind, hminus, hplus]

theorem fraction?_concat (cs : List Char) :
    fraction? (cs ++ [b]) = (fraction? cs).map (behind b) := by
  cases cs with
  | nil =>
    have hpoint : b ≠ '.' := Visible.ne_of_isBlank (by decide) hb
    simp [fraction?, hpoint]
  | cons c rest =>
    by_cases hpoint : c = '.'
    · subst hpoint
      exact digits?_concat hb .ascii rest
    · simp [fraction?, hpoint]

theorem exponent?_concat (cs : List Char) :
    exponent? (cs ++ [b]) = (exponent? cs).map (behind b) := by
  cases cs with
  | nil =>
    have hsmall : b ≠ 'e' := Visible.ne_of_isBlank (by decide) hb
    have hcapital : b ≠ 'E' := Visible.ne_of_isBlank (by decide) hb
    simp [exponent?, hsmall, hcapital]
  | cons c rest =>
    rw [List.cons_append, exponent?, exponent?, sign_concat hb]
    split
    · simp only [behind, digits?_concat hb .ascii, Option.map_map]
      rfl
    · rfl

theorem whole?_concat (cs : List Char) : whole? (cs ++ [b]) = (whole? cs).map (behind b) := by
  cases cs with
  | nil =>
    have hzero : b ≠ '0' := Visible.ne_of_isBlank (by decide) hb
    simp [whole?, hzero, digits?, IsDigits.ascii.blank hb]
  | cons c rest =>
    by_cases hzero : c = '0'
    · subst hzero
      rfl
    · have hdigits := digits?_concat hb .ascii (c :: rest)
      simpa [whole?, hzero] using hdigits

theorem decimal?_concat (cs : List Char) :
    decimal? (cs ++ [b]) = (decimal? cs).map (behind b) := by
  rw [decimal?, decimal?, sign_concat hb]
  obtain ⟨negative, rest⟩ := sign cs
  refine bind_behind (whole?_concat hb rest) ?_
  intro whole rest
  simp only [behind, fraction?_concat hb, getD_behind, exponent?_concat hb, Option.isNone_map]
  split
  · rfl
  · rfl

theorem special?_concat (cs : List Char) :
    special? (cs ++ [b]) = (special? cs).map (behind b) := by
  rw [special?, special?, sign_concat hb]
  obtain ⟨negative, rest⟩ := sign cs
  simp only [behind]
  rcases rest with _ | ⟨c, _ | ⟨d, _ | ⟨e, rest⟩⟩⟩
  · simp
  · simp
  · have hf : b ≠ 'f' := Visible.ne_of_isBlank (by decide) hb
    have hn : b ≠ 'n' := Visible.ne_of_isBlank (by decide) hb
    simp [hf, hn]
  · simp only [List.cons_append]
    split
    · next heq =>
      simp only [List.cons.injEq] at heq
      obtain ⟨rfl, rfl, rfl, rfl⟩ := heq
      rfl
    · next heq =>
      simp only [List.cons.injEq] at heq
      obtain ⟨rfl, rfl, rfl, rfl⟩ := heq
      rfl
    · next hinf hnan =>
      have hinf' (more : List Char) : c :: d :: e :: rest ≠ 'i' :: 'n' :: 'f' :: more := by
        intro heq
        simp only [List.cons.injEq] at heq
        obtain ⟨rfl, rfl, rfl, rfl⟩ := heq
        exact hinf _ rfl
      have hnan' (more : List Char) : c :: d :: e :: rest ≠ 'n' :: 'a' :: 'n' :: more := by
        intro heq
        simp only [List.cons.injEq] at heq
        obtain ⟨rfl, rfl, rfl, rfl⟩ := heq
        exact hnan _ rfl
      split
      · next heq => exact absurd heq (hinf' _)
      · next heq => exact absurd heq (hnan' _)
      · rfl

omit hb in
theorem fixed_concat {α : Type} {p : Char → Bool} (hp : p b = false) {width : Nat}
    {ok : List Char → Bool} (hok : ∀ ds, ok ds = true → ds.length = width ∧ ds.all p = true)
    (f : List Char → α) (cs : List Char) :
    (if ok ((cs ++ [b]).take width) then
      some (f ((cs ++ [b]).take width), (cs ++ [b]).drop width) else none) =
        (if ok (cs.take width) then some (f (cs.take width), cs.drop width) else none).map
          (behind b) := by
  by_cases hwidth : width ≤ cs.length
  · rw [List.take_append_of_le_length hwidth, List.drop_append_of_le_length hwidth]
    split
    · rfl
    · rfl
  · have hshort : ¬ok (cs.take width) = true := by
      intro h
      have hlength := (hok _ h).1
      rw [List.length_take] at hlength
      omega
    have hblank : ¬ok ((cs ++ [b]).take width) = true := by
      intro h
      obtain ⟨hlength, hall⟩ := hok _ h
      rw [List.length_take, List.length_append, List.length_singleton] at hlength
      -- The width is that of the whole text, so that the blank would be one of the characters.
      have hlast : b ∈ (cs ++ [b]).take width := by
        rw [List.take_of_length_le (by simp; omega)]
        simp
      rw [List.all_eq_true.mp hall b hlast] at hp
      cases hp
    rw [if_neg hblank, if_neg hshort]
    rfl

theorem field?_concat (width lo hi : Nat) (cs : List Char) :
    field? width lo hi (cs ++ [b]) = (field? width lo hi cs).map (behind b) := by
  have hok (ds : List Char) (h : (decide (ds.length = width) && ds.all Text.isAsciiDigit &&
      decide (lo ≤ inBase 10 ds) && decide (inBase 10 ds ≤ hi)) = true) :
      ds.length = width ∧ ds.all Text.isAsciiDigit = true := by
    simp only [Bool.and_eq_true, decide_eq_true_eq] at h
    exact h.1.1
  exact fixed_concat (IsDigits.ascii.blank hb) hok (inBase 10) cs

theorem pass?_concat {c : Char} (hc : Visible c) (cs : List Char) :
    pass? c (cs ++ [b]) = (pass? c cs).map (· ++ [b]) := by
  cases cs with
  | nil => simp [pass?, (hc.ne_of_isBlank hb).symm]
  | cons d cs =>
    rw [List.cons_append, pass?, pass?]
    split
    · rfl
    · rfl

omit hb in
theorem takeWhile_concat {p : Char → Bool} (hp : p b = false) (cs : List Char) :
    (cs ++ [b]).takeWhile p = cs.takeWhile p := by
  rw [List.takeWhile_append]
  split
  · next hall =>
    rw [List.takeWhile_cons_of_neg (by simp [hp]), List.append_nil]
    exact ((List.takeWhile_prefix p).eq_of_length hall).symm
  · rfl

omit hb in
theorem dropWhile_concat {p : Char → Bool} (hp : p b = false) (cs : List Char) :
    (cs ++ [b]).dropWhile p = cs.dropWhile p ++ [b] := by
  rw [List.dropWhile_append]
  split
  · next hnil =>
    rw [List.isEmpty_iff.mp hnil, List.dropWhile_cons_of_neg (by simp [hp])]
    rfl
  · rfl

theorem hoursMinutes?_concat (cs : List Char) :
    hoursMinutes? (cs ++ [b]) = (hoursMinutes? cs).map (· ++ [b]) := by
  refine bind_behind (field?_concat hb 2 0 23 cs) ?_
  intro _ rest
  refine bind_map (pass?_concat hb (by decide) rest) ?_
  intro rest
  refine bind_behind (field?_concat hb 2 0 59 rest) ?_
  intro _ rest
  rfl

theorem clock?_concat (cs : List Char) : clock? (cs ++ [b]) = (clock? cs).map (· ++ [b]) := by
  refine bind_map (hoursMinutes?_concat hb cs) ?_
  intro rest
  refine bind_map (pass?_concat hb (by decide) rest) ?_
  intro rest
  refine bind_behind (field?_concat hb 2 0 59 rest) ?_
  intro _ rest
  have hdigit := IsDigits.ascii.blank hb
  rcases rest with _ | ⟨c, _ | ⟨d, rest⟩⟩
  · simp
  · by_cases hc : c = '.'
    · simp [hc, hdigit]
    · simp [hc]
  · by_cases hc : c = '.'
    · simp only [hc, List.cons_append, dropWhile_concat hdigit]
      split
      · rfl
      · rfl
    · simp [hc]

theorem passOffset_concat (cs : List Char) : passOffset (cs ++ [b]) = passOffset cs ++ [b] := by
  cases cs with
  | nil =>
    have hcapital : b ≠ 'Z' := Visible.ne_of_isBlank (by decide) hb
    have hsmall : b ≠ 'z' := Visible.ne_of_isBlank (by decide) hb
    have hplus : b ≠ '+' := Visible.ne_of_isBlank (by decide) hb
    have hminus : b ≠ '-' := Visible.ne_of_isBlank (by decide) hb
    simp [passOffset, hplus, hminus]
  | cons c rest =>
    by_cases hcapital : c = 'Z'
    · simp [passOffset, hcapital]
    by_cases hsmall : c = 'z'
    · simp [passOffset, hsmall]
    · have hoffset : ((hoursMinutes? rest).map (· ++ [b])).getD (c :: rest ++ [b]) =
          (hoursMinutes? rest).getD (c :: rest) ++ [b] :=
        Option.getD_map (· ++ [b]) (c :: rest) (hoursMinutes? rest)
      rw [List.cons_append] at hoffset
      simp only [passOffset, List.cons_append, hoursMinutes?_concat hb, hoffset]
      split
      · rfl
      · rfl

theorem timeOfDate?_concat (cs : List Char) :
    timeOfDate? (cs ++ [b]) = (timeOfDate? cs).map (· ++ [b]) := by
  cases cs with
  | nil =>
    -- The blank may stand before a time, but none follows.
    have hnone : clock? [] = none := by decide
    simp [timeOfDate?, hnone]
  | cons c rest =>
    rw [List.cons_append, timeOfDate?, timeOfDate?, clock?_concat hb]
    split
    · rfl
    · rfl

theorem date?_concat (cs : List Char) :
    date? (cs ++ [b]) = (date? cs).map (Option.map (behind b)) := by
  refine bind_behind (field?_concat hb 4 0 9999 cs) ?_
  intro year rest
  refine bind_map (pass?_concat hb (by decide) rest) ?_
  intro rest
  refine bind_behind (field?_concat hb 2 1 12 rest) ?_
  intro month rest
  refine bind_map (pass?_concat hb (by decide) rest) ?_
  intro rest
  refine bind_behind (field?_concat hb 2 1 31 rest) ?_
  intro day rest
  simp only [timeOfDate?_concat hb]
  split
  · rfl
  · cases timeOfDate? rest with
    | none => rfl
    | some rest => simp [passOffset_concat hb, behind]

theorem scalar?_concat (cs : List Char) :
    scalar? (cs ++ [b]) = (scalar? cs).map (behind b) := by
  rw [scalar?, scalar?, date?_concat hb, clock?_concat hb, based?_concat hb, decimal?_concat hb,
    special?_concat hb]
  cases date? cs with
  | some found => rfl
  | none =>
    cases clock? cs with
    | some rest => rfl
    | none =>
      cases based? cs with
      | some found => rfl
      | none =>
        cases decimal? cs with
        | some found => rfl
        | none => rfl

end Blank

end ClauseAudit.Toml
