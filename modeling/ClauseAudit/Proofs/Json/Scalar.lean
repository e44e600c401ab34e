import ClauseAudit.Json.Printer
import ClauseAudit.Json.Reader
import ClauseAudit.Proofs.Number.Shortest

/-!
# Strings and numbers in JSON text

What the printer writes for a string or an integer is read as this string or integer, wherever it
stands, and what it writes for a finite floating-point number as such a number. The reader of a
string takes one character at a time; the printer escapes characters one by one, so it is enough to
compare them for one character.
-/

namespace ClauseAudit

namespace Text

private theorem hexValue?_hexDigit {n : Nat} (h : n < 16) : hexValue? (hexDigit n) = some n := by
  have hall : ∀ n : Fin 16, hexValue? (hexDigit n) = some n.val := by decide
  exact hall ⟨n, h⟩

end Text

/-- A class of characters tells its members from all others. -/
theorem ne_of_class {p : Char → Bool} {c d : Char} (hc : p c = true) (hd : p d = false) :
    c ≠ d := by
  rintro rfl
  rw [hc] at hd
  cases hd

namespace Json

open Text

theorem Cursor.advance_rest {cur : Cursor} {front rest : List Char} (h : cur.rest = front ++ rest) :
    (cur.advance front.length).rest = rest := by
  rw [advance, h, List.drop_left]

def Blank (cs : List Char) : Prop := ∀ c ∈ cs, Cursor.isSpace c = true

theorem Blank.nil : Blank [] := fun _ h => by cases h

theorem Blank.append {cs ds : List Char} (hcs : Blank cs) (hds : Blank ds) : Blank (cs ++ ds) :=
  List.forall_mem_append.mpr ⟨hcs, hds⟩

theorem Cursor.skipSpace_rest {cur : Cursor} {blanks : List Char} {c : Char} {rest : List Char}
    (h : cur.rest = blanks ++ c :: rest) (hblanks : Blank blanks)
    (hc : isSpace c = false) : cur.skipSpace.rest = c :: rest := by
  have hspace : cur.rest.takeWhile isSpace = blanks := by
    rw [h, List.takeWhile_append_of_pos hblanks, List.takeWhile_cons_of_neg (by simp [hc]),
      List.append_nil]
  rw [skipSpace, hspace, Cursor.advance_rest h]

private theorem hexUnit?_hexDigits {n : Nat} (h : n < 0x10000) (rest : List Char) :
    hexUnit? (hexDigits 4 n ++ rest) = some n := by
  have hdigits : hexDigits 4 n ++ rest = hexDigit (n / 16 / 16 / 16 % 16) ::
      hexDigit (n / 16 / 16 % 16) :: hexDigit (n / 16 % 16) :: hexDigit (n % 16) :: rest := rfl
  have hvalue (m : Nat) : hexValue? (hexDigit (m % 16)) = some (m % 16) :=
    hexValue?_hexDigit (Nat.mod_lt m (by decide))
  simp only [hdigits, hexUnit?, hvalue, bind, Option.bind, pure]
  congr 1
  omega

private theorem unitChar_toNat {c : Char} (h : c.toNat < 0x10000) (after : List Char) :
    unitChar c.toNat after = (c, 0) := by
  have hvalid : c.toNat < 0xD800 ∨ 0xDFFF < c.toNat ∧ c.toNat < 0x110000 := c.valid
  have hhigh : ¬(0xD800 ≤ c.toNat ∧ c.toNat < 0xDC00) := by omega
  have hlow : ¬(0xDC00 ≤ c.toNat ∧ c.toNat < 0xE000) := by omega
  simp [unitChar, hhigh, hlow]

private theorem unitChar_pair {high low : Nat} (hhigh : high < 0x400) (hlow : low < 0x400)
    (rest : List Char) : unitChar (0xD800 + high) (unitEscape (0xDC00 + low) ++ rest) =
      (Char.ofNat (0x10000 + high * 0x400 + low), 6) := by
  have hunit : hexUnit? (hexDigits 4 (0xDC00 + low) ++ rest) = some (0xDC00 + low) :=
    hexUnit?_hexDigits (by omega) rest
  have hfirst : (decide (0xD800 ≤ 0xD800 + high) && decide (0xD800 + high < 0xDC00)) = true := by
    rw [Bool.and_eq_true, decide_eq_true_iff, decide_eq_true_iff]
    omega
  have hsecond : (decide (0xDC00 ≤ 0xDC00 + low) && decide (0xDC00 + low < 0xE000)) = true := by
    rw [Bool.and_eq_true, decide_eq_true_iff, decide_eq_true_iff]
    omega
  have hescape : unitEscape (0xDC00 + low) ++ rest =
      '\\' :: 'u' :: (hexDigits 4 (0xDC00 + low) ++ rest) := rfl
  rw [hescape, unitChar, if_pos hfirst, hunit]
  dsimp only
  rw [if_pos hsecond, Nat.add_sub_cancel_left, Nat.add_sub_cancel_left]

/-- The ways of writing a character in a string. -/
inductive Spelling (c : Char) : List Char → Prop where
  | plain (hquote : c ≠ '"') (hescape : c ≠ '\\') (hcontrol : ¬c.toNat < 0x20) : Spelling c [c]
  | simple {e : Char} (h : simpleEscape? e = some c) : Spelling c ['\\', e]
  | unit (h : c.toNat < 0x10000) : Spelling c (unitEscape c.toNat)
  | pair {high low : Nat} (hhigh : high < 0x400) (hlow : low < 0x400)
      (h : c = Char.ofNat (0x10000 + high * 0x400 + low)) :
      Spelling c (unitEscape (0xD800 + high) ++ unitEscape (0xDC00 + low))

theorem Spelling.length_pos {c : Char} {cs : List Char} (h : Spelling c cs) : 0 < cs.length := by
  cases h <;> simp [unitEscape]

theorem Style.spelling_escapedChar (style : Style) (c : Char) :
    Spelling c (style.escapedChar c) := by
  unfold escapedChar
  by_cases hquote : c = '"'
  · rw [if_pos hquote]
    exact .simple (by rw [hquote]; rfl)
  rw [if_neg hquote]
  by_cases hescape : c = '\\'
  · rw [if_pos hescape]
    exact .simple (by rw [hescape]; rfl)
  rw [if_neg hescape]
  by_cases hline : c = '\n'
  · rw [if_pos hline]
    exact .simple (by rw [hline]; rfl)
  rw [if_neg hline]
  by_cases hreturn : c = '\r'
  · rw [if_pos hreturn]
    exact .simple (by rw [hreturn]; rfl)
  rw [if_neg hreturn]
  by_cases htab : c = '\t'
  · rw [if_pos htab]
    exact .simple (by rw [htab]; rfl)
  rw [if_neg htab]
  by_cases hback : c.toNat = 0x08
  · rw [if_pos hback]
    exact .simple (by rw [← Char.ofNat_toNat c, hback]; rfl)
  rw [if_neg hback]
  by_cases hfeed : c.toNat = 0x0C
  · rw [if_pos hfeed]
    exact .simple (by rw [← Char.ofNat_toNat c, hfeed]; rfl)
  rw [if_neg hfeed]
  by_cases hcontrol : c.toNat < 0x20
  · rw [if_pos hcontrol]
    exact .unit (by omega)
  rw [if_neg hcontrol]
  by_cases hsolidus : (decide (c = '/') && style.escapeSolidus) = true
  · rw [if_pos hsolidus]
    have hc : c = '/' := by simpa using (Bool.and_eq_true_iff.mp hsolidus).1
    exact .simple (by rw [hc]; rfl)
  rw [if_neg hsolidus]
  by_cases hascii : (style.ascii && decide (0x7F ≤ c.toNat)) = true
  · rw [if_pos hascii]
    by_cases hsmall : c.toNat < 0x10000
    · rw [if_pos hsmall]
      exact .unit hsmall
    · rw [if_neg hsmall]
      have hvalid : c.toNat < 0xD800 ∨ 0xDFFF < c.toNat ∧ c.toNat < 0x110000 := c.valid
      refine .pair (by omega) (by omega) ?_
      rw [show 0x10000 + (c.toNat - 0x10000) / 0x400 * 0x400 + (c.toNat - 0x10000) % 0x400 =
        c.toNat by omega, Char.ofNat_toNat]
  · rw [if_neg hascii]
    exact .plain hquote hescape hcontrol

section StringSteps

variable {start fuel : Nat} {acc : List Char} {cur : Cursor} {c : Char} {rest : List Char}

private theorem readString_simple {e : Char} (h : cur.rest = '\\' :: e :: rest)
    (he : simpleEscape? e = some c) : readString start (fuel + 1) acc cur =
      readString start fuel (c :: acc) (cur.advance 2) := by
  conv_lhs => unfold readString
  rw [h]
  unfold simpleEscape? at he
  split at he <;> cases he <;> rfl

private theorem readString_unit {unit : Nat} (h : cur.rest = unitEscape unit ++ rest)
    (hunit : unit < 0x10000) (hrest : rest ≠ []) : readString start (fuel + 1) acc cur =
      readString start fuel ((unitChar unit rest).1 :: acc)
        (cur.advance (6 + (unitChar unit rest).2)) := by
  have hmore : cur.rest = '\\' :: 'u' :: (hexDigits 4 unit ++ rest) := h
  have hlength : ¬((hexDigits 4 unit ++ rest).take 5).length < 5 := by
    have hpos := List.length_pos_iff.mpr hrest
    have hfour : (hexDigits 4 unit).length = 4 := rfl
    rw [List.length_take, List.length_append, hfour]
    omega
  conv_lhs => unfold readString
  rw [hmore]
  change (if _ then _ else _) = _
  rw [if_neg hlength, hexUnit?_hexDigits hunit]
  rfl

private theorem readString_plain (h : cur.rest = c :: rest) (hquote : c ≠ '"') (hescape : c ≠ '\\')
    (hcontrol : ¬c.toNat < 0x20) : readString start (fuel + 1) acc cur =
      readString start fuel (c :: acc) (cur.advance 1) := by
  conv_lhs => unfold readString
  rw [h]
  split
  · next heq => cases heq
  · next heq => exact absurd (List.cons.inj heq).1 hquote
  · next heq => exact absurd (List.cons.inj heq).1 hescape
  · next heq => exact absurd (List.cons.inj heq).1 hescape
  · next heq => exact absurd (List.cons.inj heq).1 hescape
  · next heq =>
    obtain ⟨rfl, rfl⟩ := List.cons.inj heq
    rw [if_neg hcontrol]

private theorem readString_spelling {cs : List Char} (hspelling : Spelling c cs)
    (h : cur.rest = cs ++ rest) (hrest : rest ≠ []) :
    ∃ cur', readString start (fuel + 1) acc cur = readString start fuel (c :: acc) cur' ∧
      cur'.rest = rest := by
  cases hspelling with
  | plain hquote hescape hcontrol =>
    exact ⟨cur.advance 1, readString_plain h hquote hescape hcontrol, Cursor.advance_rest h⟩
  | simple he => exact ⟨cur.advance 2, readString_simple h he, Cursor.advance_rest h⟩
  | unit hsmall =>
    refine ⟨cur.advance 6, ?_, Cursor.advance_rest h⟩
    rw [readString_unit h hsmall hrest, unitChar_toNat hsmall, Nat.add_zero]
  | @pair high low hhigh hlow hc =>
    refine ⟨cur.advance 12, ?_, Cursor.advance_rest h⟩
    rw [List.append_assoc] at h
    rw [readString_unit h (by omega) (by simp [unitEscape]), unitChar_pair hhigh hlow, hc]
    rfl

end StringSteps

/-- A string is read up to its closing quote. -/
theorem readString_escaped (style : Style) {start fuel : Nat} {cs acc : List Char} {cur : Cursor}
    {rest : List Char} (h : cur.rest = cs.flatMap style.escapedChar ++ '"' :: rest)
    (hfuel : cs.length < fuel) : ∃ cur', readString start fuel acc cur =
      .ok (String.ofList (acc.reverse ++ cs), cur') ∧ cur'.rest = rest := by
  induction cs generalizing fuel acc cur with
  | nil =>
    obtain ⟨fuel, rfl⟩ := Nat.exists_eq_add_of_lt hfuel
    have hquote : cur.rest = ['"'] ++ rest := h
    refine ⟨cur.advance 1, ?_, Cursor.advance_rest hquote⟩
    unfold readString
    rw [List.append_nil, hquote]
    rfl
  | cons c cs ih =>
    obtain ⟨fuel, rfl⟩ : ∃ n, fuel = n + 1 := ⟨fuel - 1, by omega⟩
    rw [List.flatMap_cons, List.append_assoc] at h
    obtain ⟨cur', hstep, hrest⟩ := @readString_spelling start fuel acc _ _ _ _
      (style.spelling_escapedChar c) h (by simp)
    obtain ⟨last, hlast, hend⟩ := ih hrest (by simpa using hfuel)
    refine ⟨last, ?_, hend⟩
    rw [hstep, hlast, List.reverse_cons, List.append_assoc, List.singleton_append]

/-- No digit stands in front. -/
def NoDigit (rest : List Char) : Prop := ∀ c ∈ rest.head?, isAsciiDigit c = false

/-- A number ends before the text: nothing in front of it could belong to the number. -/
def Stops (rest : List Char) : Prop :=
  ∀ c ∈ rest.head?, isAsciiDigit c = false ∧ c ≠ '.' ∧ c ≠ 'e' ∧ c ≠ 'E'

private theorem Stops.noDigit {rest : List Char} (h : Stops rest) : NoDigit rest :=
  fun c hc => (h c hc).1

theorem noDigit_cons {c : Char} (hc : isAsciiDigit c = false) (rest : List Char) :
    NoDigit (c :: rest) := by
  intro d hd
  rwa [← Option.some.inj hd]

private theorem digitsValue_toDigits (n : Nat) : digitsValue (Nat.toDigits 10 n) = n := by
  have h := Nat.ofDigitChars_toDigits (b := 10) (n := n) (by decide) (by decide)
  rw [Nat.ofDigitChars] at h
  simpa only [digitsValue, Nat.mul_comm] using h

theorem leadingDigits_append {digits rest : List Char}
    (hdigits : ∀ c ∈ digits, isAsciiDigit c = true) (hrest : NoDigit rest) :
    leadingDigits (digits ++ rest) = digits := by
  rw [leadingDigits, List.takeWhile_append_of_pos hdigits]
  cases rest with
  | nil => simp
  | cons c rest => rw [List.takeWhile_cons_of_neg (by simp [hrest c rfl]), List.append_nil]

private theorem Stops.fractionPart {rest : List Char} (h : Stops rest) : fractionPart rest =
    ([], 0) := by
  cases rest with
  | nil => rfl
  | cons c rest =>
    unfold Json.fractionPart
    split
    · next heq => exact absurd (List.cons.inj heq).1 (h c rfl).2.1
    · rfl

private theorem Stops.exponentPart {rest : List Char} (h : Stops rest) : exponentPart rest =
    (0, 0) := by
  cases rest with
  | nil => rfl
  | cons c rest =>
    obtain ⟨_, _, he, hE⟩ := h c rfl
    simp [Json.exponentPart, he, hE]

theorem wholePart_append {whole rest : List Char} (h : Whole whole) (hrest : NoDigit rest) :
    wholePart (whole ++ rest) = whole := by
  rcases h.front with rfl | hfront
  · rfl
  · unfold wholePart
    split
    · next heq =>
      obtain ⟨c, digits, rfl⟩ := List.exists_cons_of_ne_nil h.ne_nil
      obtain ⟨rfl, _⟩ := List.cons.inj heq
      exact absurd rfl (hfront digits)
    · exact leadingDigits_append h.all hrest

theorem fractionPart_append {fraction rest : List Char} (h : Digits fraction)
    (hrest : NoDigit rest) :
    fractionPart ('.' :: (fraction ++ rest)) = (fraction, fraction.length + 1) := by
  have hne : fraction.isEmpty = false := List.isEmpty_eq_false_iff.mpr h.ne_nil
  rw [fractionPart, leadingDigits_append h.all hrest, hne]
  rfl

theorem exists_exponentPart_append {digits : List Char} {sign : Char}
    (hsign : sign = '+' ∨ sign = '-') (h : Digits digits) : ∃ n, ∀ rest, NoDigit rest →
      exponentPart ('e' :: sign :: (digits ++ rest)) = (n, digits.length + 2) := by
  have hne : digits.isEmpty = false := List.isEmpty_eq_false_iff.mpr h.ne_nil
  refine ⟨if sign = '-' then -(digitsValue digits : Int) else digitsValue digits,
    fun rest hrest => ?_⟩
  have hdigits := leadingDigits_append h.all hrest
  rcases hsign with rfl | rfl <;> simp [exponentPart, hdigits, hne] <;> omega

/-- A number begins with a digit, or with a minus sign and a digit. -/
def NumberFront (cs : List Char) : Prop :=
  ∃ c more, isAsciiDigit c = true ∧ (cs = c :: more ∨ cs = '-' :: c :: more)

private theorem signPart_of_front {c : Char} (hc : isAsciiDigit c = true) (rest : List Char) :
    signPart (c :: rest) = (false, 0, c :: rest) := by
  unfold signPart
  split
  · next heq =>
    obtain ⟨rfl, _⟩ := List.cons.inj heq
    cases hc
  · rfl

private theorem exists_front_toDigits (n : Nat) :
    ∃ c more, isAsciiDigit c = true ∧ Nat.toDigits 10 n = c :: more := by
  obtain ⟨c, more, h⟩ := List.exists_cons_of_ne_nil (Nat.toDigits_ne_nil (n := n) (b := 10))
  exact ⟨c, more, isAsciiDigit_of_mem_toDigits (n := n) (h ▸ List.mem_cons_self), h⟩

private theorem number?_of_signPart {cs rest : List Char} {negative : Bool} {sign n : Nat}
    (h : Stops rest) (hsign : signPart cs = (negative, sign, Nat.toDigits 10 n ++ rest)) :
    number? cs = some (.int (if negative then -n else n), sign + (Nat.toDigits 10 n).length) := by
  have hne : (Nat.toDigits 10 n).isEmpty = false := by
    rw [List.isEmpty_eq_false_iff]
    exact Nat.toDigits_ne_nil
  rw [number?, hsign]
  dsimp only
  rw [wholePart_append (whole_toDigits n) h.noDigit, hne, List.drop_left, h.fractionPart]
  dsimp only
  rw [List.drop_zero, h.exponentPart]
  simp [digitsValue_toDigits]

theorem signedDecimal_ofNat (n : Nat) : (signedDecimal (.ofNat n)).toList = Nat.toDigits 10 n :=
  Nat.toList_repr

theorem signedDecimal_negSucc (n : Nat) :
    (signedDecimal (.negSucc n)).toList = '-' :: Nat.toDigits 10 (n + 1) := by
  rw [signedDecimal, String.toList_append, decimal, Nat.toList_repr]
  rfl

theorem number?_signedDecimal (i : Int) {rest : List Char} (h : Stops rest) :
    number? ((signedDecimal i).toList ++ rest) =
      some (.int i, (signedDecimal i).toList.length) := by
  cases i with
  | ofNat n =>
    obtain ⟨c, more, hc, hfront⟩ := exists_front_toDigits n
    have hsign : signPart (Nat.toDigits 10 n ++ rest) = (false, 0, Nat.toDigits 10 n ++ rest) := by
      rw [hfront, List.cons_append, signPart_of_front hc]
    rw [signedDecimal_ofNat, number?_of_signPart h hsign, Nat.zero_add]
    rfl
  | negSucc n =>
    rw [signedDecimal_negSucc, number?_of_signPart (n := n + 1) h rfl, List.length_cons,
      Nat.add_comm 1]
    rfl

theorem numberFront_signedDecimal (i : Int) : NumberFront (signedDecimal i).toList := by
  cases i with
  | ofNat n =>
    obtain ⟨c, more, hc, h⟩ := exists_front_toDigits n
    exact ⟨c, more, hc, .inl (by rw [signedDecimal_ofNat, h])⟩
  | negSucc n =>
    obtain ⟨c, more, hc, h⟩ := exists_front_toDigits (n + 1)
    exact ⟨c, more, hc, .inr (by rw [signedDecimal_negSucc, h])⟩

private theorem number?_real {cs whole after fraction : List Char} {negative : Bool}
    {exponent : Int} {sign fractionLength exponentLength : Nat}
    (hsign : signPart cs = (negative, sign, whole ++ after)) (hwhole : Whole whole)
    (hafter : NoDigit after) (hfraction : fractionPart after = (fraction, fractionLength))
    (hexponent : exponentPart (after.drop fractionLength) = (exponent, exponentLength))
    (hreal : 0 < fractionLength ∨ 0 < exponentLength) : number? cs =
      some (.real (.ofDecimal negative (digitsValue (whole ++ fraction))
          (exponent - fraction.length)),
        sign + whole.length + fractionLength + exponentLength) := by
  have hne : whole.isEmpty = false := List.isEmpty_eq_false_iff.mpr hwhole.ne_nil
  have hpart : ¬(decide (fractionLength = 0) && decide (exponentLength = 0)) = true := by
    rw [Bool.and_eq_true, decide_eq_true_iff, decide_eq_true_iff]
    omega
  rw [number?, hsign]
  dsimp only
  rw [wholePart_append hwhole hafter, hne, List.drop_left, hfraction]
  dsimp only
  rw [hexponent]
  dsimp only
  rw [if_neg hpart]
  rfl

/-- A numeral after a sign is read as a floating-point number up to its end. -/
theorem exists_number?_numeral {body : List Char} (h : Numeral body) : ∃ digits exponent,
    ∀ cs rest negative sign, Stops rest → signPart cs = (negative, sign, body ++ rest) →
      number? cs = some (.real (.ofDecimal negative digits exponent), sign + body.length) := by
  cases h with
  | @fraction whole fraction hwhole hfraction =>
    refine ⟨digitsValue (whole ++ fraction), -fraction.length, ?_⟩
    intro cs rest negative sign hrest hsign
    rw [List.append_assoc, List.cons_append] at hsign
    have hdrop : ('.' :: (fraction ++ rest)).drop (fraction.length + 1) = rest := by
      rw [List.drop_succ_cons, List.drop_left]
    rw [number?_real hsign hwhole (noDigit_cons rfl _) (fractionPart_append hfraction hrest.noDigit)
      (by rw [hdrop, hrest.exponentPart]) (.inl (Nat.succ_pos _))]
    simp [Nat.add_assoc]
  | @exponent whole digits e hwhole he hdigits =>
    obtain ⟨n, hn⟩ := exists_exponentPart_append he hdigits
    refine ⟨digitsValue whole, n, fun cs rest negative sign hrest hsign => ?_⟩
    rw [List.append_assoc, List.cons_append, List.cons_append] at hsign
    rw [number?_real hsign hwhole (noDigit_cons rfl _) rfl (hn rest hrest.noDigit)
      (.inr (Nat.succ_pos _))]
    simp [Nat.add_assoc]
  | @both whole fraction digits e hwhole hfraction he hdigits =>
    obtain ⟨n, hn⟩ := exists_exponentPart_append he hdigits
    refine ⟨digitsValue (whole ++ fraction), n - fraction.length,
      fun cs rest negative sign hrest hsign => ?_⟩
    rw [List.append_assoc, List.cons_append, List.append_assoc, List.cons_append,
      List.cons_append] at hsign
    have hdrop : ('.' :: (fraction ++ 'e' :: e :: (digits ++ rest))).drop (fraction.length + 1) =
        'e' :: e :: (digits ++ rest) := by
      rw [List.drop_succ_cons, List.drop_left]
    rw [number?_real hsign hwhole (noDigit_cons rfl _)
      (fractionPart_append hfraction (noDigit_cons rfl _))
      (by rw [hdrop, hn rest hrest.noDigit]) (.inl (Nat.succ_pos _))]
    simp [Nat.add_assoc, Nat.add_comm, Nat.add_left_comm]

private theorem exists_front_numeral {body : List Char} (h : Numeral body) :
    ∃ c more, isAsciiDigit c = true ∧ body = c :: more := by
  have hfront {whole : List Char} (hwhole : Whole whole) (after : List Char) :
      ∃ c more, isAsciiDigit c = true ∧ whole ++ after = c :: more := by
    obtain ⟨c, more, rfl⟩ := List.exists_cons_of_ne_nil hwhole.ne_nil
    exact ⟨c, _, hwhole.all c List.mem_cons_self, rfl⟩
  cases h with
  | fraction hwhole => exact hfront hwhole _
  | exponent hwhole => exact hfront hwhole _
  | both hwhole => exact hfront hwhole _

def rereadReal (x : Binary64) : Binary64 :=
  match number? (x.text numberSpelling).toList with
  | some (.real y, _) => y
  | _ => x

section Finite

variable (neg : Bool) (m : Nat) (e : Int)

theorem number?_text {rest : List Char} (h : Stops rest) :
    number? (((Binary64.finite neg m e).text numberSpelling).toList ++ rest) =
      some (.real (rereadReal (.finite neg m e)),
        ((Binary64.finite neg m e).text numberSpelling).toList.length) := by
  obtain ⟨body, hbody, htext⟩ := Binary64.exists_numeral_text numberSpelling neg m e
  obtain ⟨c, more, hc, hfront⟩ := exists_front_numeral hbody
  obtain ⟨digits, exponent, hnumber⟩ := exists_number?_numeral hbody
  have hsign (rest : List Char) : signPart ((if neg then ['-'] else []) ++ body ++ rest) =
      (neg, (if neg then ['-'] else []).length, body ++ rest) := by
    cases neg with
    | false =>
      rw [hfront]
      exact signPart_of_front hc (more ++ rest)
    | true => rfl
  have hread (rest : List Char) (h : Stops rest) :
      number? ((if neg then ['-'] else []) ++ body ++ rest) =
        some (.real (.ofDecimal neg digits exponent),
          ((if neg then ['-'] else []) ++ body).length) := by
    rw [hnumber _ rest _ _ h (hsign rest), List.length_append]
  have hnone : Stops [] := fun c hc => by cases hc
  have hempty := hread [] hnone
  rw [List.append_nil, ← htext] at hempty
  rw [rereadReal, hempty, htext]
  exact hread rest h

theorem numberFront_text : NumberFront ((Binary64.finite neg m e).text numberSpelling).toList := by
  obtain ⟨body, hbody, htext⟩ := Binary64.exists_numeral_text numberSpelling neg m e
  obtain ⟨c, more, hc, hfront⟩ := exists_front_numeral hbody
  rw [htext, hfront]
  cases neg with
  | false => exact ⟨c, more, hc, .inl rfl⟩
  | true => exact ⟨c, more, hc, .inr rfl⟩

end Finite

private theorem NumberFront.namedValues_find?_eq_none {cs : List Char} (h : NumberFront cs)
    (rest : List Char) :
    namedValues.find? (fun named => named.1.isPrefixOf (cs ++ rest)) = none := by
  obtain ⟨c, more, hc, h⟩ := h
  have hne (d : Char) (hd : isAsciiDigit d = false) : d ≠ c := (ne_of_class hc hd).symm
  rcases h with h | h <;> rw [h] <;> simp [namedValues, hne 'n' rfl, hne 't' rfl, hne 'f' rfl,
    hne 'N' rfl, hne 'I' rfl, hne '-' rfl]

/-- A number is read up to its end. -/
theorem readScalar_number {limit : Option Nat} {cs rest : List Char} {v : Value} {cur : Cursor}
    (hfront : NumberFront cs) (hnumber : number? (cs ++ rest) = some (v, cs.length))
    (hshort : excess? limit v = none) (h : cur.rest = cs ++ rest) :
    readScalar limit cur = .ok (v, cur.advance cs.length) := by
  rw [readScalar, h, hfront.namedValues_find?_eq_none, hnumber]
  simp only [hshort]

end Json

end ClauseAudit
