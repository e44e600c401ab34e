import ClauseAudit.Proofs.Json.RoundTrip
import ClauseAudit.Proofs.Outcome

/-!
# Values on lines of their own

A style without indentation keeps each value on one line: escapes stand for the line feeds of its
strings. So the lines of a text of many values are the texts of the values. If characters beyond
ASCII are escaped too, no other sign that breaks lines is left either.
-/

namespace ClauseAudit.Json

open Text

/-- From the blank to the tilde. -/
def Printable (c : Char) : Prop := 0x20 ≤ c.toNat ∧ c.toNat < 0x7F

instance (c : Char) : Decidable (Printable c) := inferInstanceAs (Decidable (_ ∧ _))

private theorem printable_of_all {cs : List Char}
    (h : cs.all (fun c => decide (Printable c)) = true) : ∀ c ∈ cs, Printable c := by
  simpa using h

private theorem Printable.ne_newline {c : Char} (h : Printable c) : c ≠ '\n' := by
  rintro rfl
  exact absurd h (by decide)

private theorem printable_of_isAsciiDigit {c : Char} (h : isAsciiDigit c = true) : Printable c := by
  simp only [isAsciiDigit, Char.le_def, UInt32.le_iff_toNat_le, Bool.and_eq_true,
    decide_eq_true_eq] at h
  have hlow : ('0' : Char).val.toNat = 48 := rfl
  have hhigh : ('9' : Char).val.toNat = 57 := rfl
  have hvalue : c.toNat = c.val.toNat := rfl
  rw [Printable]
  omega

private theorem printable_hexDigits (width n : Nat) : ∀ c ∈ hexDigits width n, Printable c := by
  induction width generalizing n with
  | zero => exact fun _ hc => by cases hc
  | succ width ih =>
    have hall : ∀ n : Fin 16, Printable (hexDigit n.val) := by decide
    rw [hexDigits]
    exact List.forall_mem_append.mpr ⟨ih _, List.forall_mem_singleton.mpr
      (hall ⟨n % 16, Nat.mod_lt n (by decide)⟩)⟩

private theorem printable_unitEscape (n : Nat) : ∀ c ∈ unitEscape n, Printable c := by
  rw [unitEscape]
  exact List.forall_mem_cons.mpr ⟨by decide, List.forall_mem_cons.mpr
    ⟨by decide, printable_hexDigits 4 n⟩⟩

private theorem printable_signedDecimal (i : Int) : ∀ c ∈
    (signedDecimal i).toList, Printable c := by
  have hdigits (n : Nat) : ∀ c ∈ Nat.toDigits 10 n, Printable c :=
    fun c hc => printable_of_isAsciiDigit (isAsciiDigit_of_mem_toDigits hc)
  cases i with
  | ofNat n =>
    rw [signedDecimal_ofNat]
    exact hdigits n
  | negSucc n =>
    rw [signedDecimal_negSucc]
    exact List.forall_mem_cons.mpr ⟨by decide, hdigits _⟩

theorem newline_notMem_signedDecimal (i : Int) : '\n' ∉ (signedDecimal i).toList :=
  fun hmem => (printable_signedDecimal i _ hmem).ne_newline rfl

private theorem printable_numeral {cs : List Char} (h : Numeral cs) : ∀ c ∈ cs, Printable c := by
  have hdigits {ds : List Char} (hds : Digits ds) : ∀ c ∈ ds, Printable c :=
    fun c hc => printable_of_isAsciiDigit (hds.all c hc)
  have hsigned {sign : Char} (hsign : sign = '+' ∨ sign = '-') : Printable sign := by
    rcases hsign with rfl | rfl <;> decide
  cases h with
  | fraction hwhole hfraction =>
    simp only [List.forall_mem_append, List.forall_mem_cons]
    exact ⟨hdigits hwhole.toDigits, by decide, hdigits hfraction⟩
  | exponent hwhole hsign hexponent =>
    simp only [List.forall_mem_append, List.forall_mem_cons]
    exact ⟨hdigits hwhole.toDigits, by decide, hsigned hsign, hdigits hexponent⟩
  | both hwhole hfraction hsign hexponent =>
    simp only [List.forall_mem_append, List.forall_mem_cons]
    exact ⟨hdigits hwhole.toDigits, by decide, hdigits hfraction, by decide, hsigned hsign,
      hdigits hexponent⟩

private theorem printable_real (neg : Bool) (m : Nat) (e : Int) :
    ∀ c ∈ ((Binary64.finite neg m e).text numberSpelling).toList, Printable c := by
  obtain ⟨body, hbody, htext⟩ := Binary64.exists_numeral_text numberSpelling neg m e
  rw [htext]
  exact List.forall_mem_append.mpr
    ⟨printable_of_all (by cases neg <;> rfl), printable_numeral hbody⟩

private theorem Spelling.newline_notMem {c : Char} {cs : List Char} (h : Spelling c cs) :
    '\n' ∉ cs := by
  have hunit (n : Nat) : '\n' ∉ unitEscape n :=
    fun hmem => (printable_unitEscape n _ hmem).ne_newline rfl
  cases h with
  | plain _ _ hcontrol =>
    rw [List.mem_singleton]
    rintro rfl
    exact hcontrol (by decide)
  | @simple e he =>
    have hne : e ≠ '\n' := by
      rintro rfl
      cases he
    simpa using hne.symm
  | unit _ => exact hunit _
  | pair _ _ _ => exact List.mem_append.not.mpr (not_or.mpr ⟨hunit _, hunit _⟩)

private theorem Spelling.printable {c : Char} {cs : List Char} (h : Spelling c cs)
    (hc : c.toNat < 0x7F) : ∀ d ∈ cs, Printable d := by
  cases h with
  | plain _ _ hcontrol =>
    exact List.forall_mem_singleton.mpr ⟨Nat.le_of_not_lt hcontrol, hc⟩
  | @simple e he =>
    have hletter : Printable e := by
      unfold simpleEscape? at he
      split at he <;> first | decide | cases he
    exact List.forall_mem_cons.mpr ⟨by decide, List.forall_mem_singleton.mpr hletter⟩
  | unit _ => exact printable_unitEscape _
  | pair _ _ _ =>
    exact List.forall_mem_append.mpr ⟨printable_unitEscape _, printable_unitEscape _⟩

namespace Style

private theorem escapedChar_of_ascii {style : Style} (hascii : style.ascii = true) {c : Char}
    (hc : 0x7F ≤ c.toNat) : style.escapedChar c =
      if c.toNat < 0x10000 then unitEscape c.toNat
      else unitEscape (0xD800 + (c.toNat - 0x10000) / 0x400) ++
        unitEscape (0xDC00 + (c.toNat - 0x10000) % 0x400) := by
  have hne {d : Char} (hd : d.toNat < 0x7F) : c ≠ d := by
    rintro rfl
    omega
  have hsolidus : ¬(decide (c = '/') && style.escapeSolidus) = true := by
    simp [@hne '/' (by decide)]
  rw [escapedChar, if_neg (hne (by decide)), if_neg (hne (by decide)), if_neg (hne (by decide)),
    if_neg (hne (by decide)), if_neg (hne (by decide)), if_neg (by omega), if_neg (by omega),
    if_neg (by omega), if_neg hsolidus, if_pos (by simp [hascii, hc])]

private theorem printable_escapedChar {style : Style} (hascii : style.ascii = true) (c : Char) :
    ∀ d ∈ style.escapedChar c, Printable d := by
  by_cases hc : c.toNat < 0x7F
  · exact (style.spelling_escapedChar c).printable hc
  · rw [escapedChar_of_ascii hascii (Nat.le_of_not_lt hc)]
    split
    · exact printable_unitEscape _
    · exact List.forall_mem_append.mpr ⟨printable_unitEscape _, printable_unitEscape _⟩

/-- Values are written on one line, and with characters of a kind only. -/
structure Within (style : Style) (p : Char → Prop) : Prop where
  indent : style.indent = none
  printable : ∀ c, Printable c → p c
  item : ∀ c ∈ style.itemSeparator.toList, p c
  name : ∀ c ∈ style.nameSeparator.toList, p c
  escaped : ∀ c, ∀ d ∈ style.escapedChar c, p d

section Within

variable {style : Style} {p : Char → Prop} (hstyle : style.Within p)

include hstyle

theorem Within.toList_newline (level : Nat) : (style.newline level).toList = [] := by
  rw [newline, hstyle.indent]
  rfl

private theorem Within.string (s : String) : ∀ c ∈ (style.string s).toList, p c := by
  have hquote := hstyle.printable '"' (by decide)
  have hbody : ∀ c ∈ s.toList.flatMap style.escapedChar, p c := by
    intro c hc
    obtain ⟨d, _, hd⟩ := List.mem_flatMap.mp hc
    exact hstyle.escaped d c hd
  simp only [toList_string, List.forall_mem_cons, List.forall_mem_append]
  exact ⟨hquote, hbody, hquote, fun _ hc => by cases hc⟩

private theorem Within.items {items : List Value} {level : Nat}
    (h : ∀ v ∈ items, ∀ c ∈ (style.print level v).toList, p c) :
    ∀ c ∈ (style.printItems level items).toList, p c := by
  induction items with
  | nil =>
    rw [printItems]
    exact fun _ hc => by cases hc
  | cons v items ih =>
    obtain ⟨hv, hitems⟩ := List.forall_mem_cons.mp h
    rw [toList_printItems_cons, hstyle.toList_newline, List.append_nil]
    simp only [List.forall_mem_append]
    exact ⟨⟨hstyle.item, hv⟩, ih hitems⟩

private theorem Within.fields {fields : Fields} {level : Nat}
    (h : ∀ f ∈ fields, ∀ c ∈ (style.print level f.2).toList, p c) :
    ∀ c ∈ (style.printFields level fields).toList, p c := by
  induction fields with
  | nil =>
    rw [printFields]
    exact fun _ hc => by cases hc
  | cons f fields ih =>
    obtain ⟨hv, hfields⟩ := List.forall_mem_cons.mp h
    rw [toList_printFields_cons, hstyle.toList_newline, List.append_nil]
    simp only [List.forall_mem_append]
    exact ⟨⟨⟨⟨hstyle.item, hstyle.string f.1⟩, hstyle.name⟩, hv⟩, ih hfields⟩

theorem Within.print {v : Value} (h : v.Finite) (level : Nat) :
    ∀ c ∈ (style.print level v).toList, p c := by
  have hprintable {cs : List Char} (hcs : ∀ c ∈ cs, Printable c) : ∀ c ∈ cs, p c :=
    fun c hc => hstyle.printable c (hcs c hc)
  have hsign {c : Char} (hc : Printable c) : p c := hstyle.printable c hc
  have hend : ∀ c ∈ ([] : List Char), p c := fun _ hc => by cases hc
  induction h generalizing level with
  | null => rw [Style.print]; exact hprintable (printable_of_all rfl)
  | bool b => cases b <;> rw [Style.print] <;> exact hprintable (printable_of_all rfl)
  | int i => rw [Style.print]; exact hprintable (printable_signedDecimal i)
  | real neg m e => rw [Style.print]; exact hprintable (printable_real neg m e)
  | str s => rw [Style.print]; exact hstyle.string s
  | @arr items _ ih =>
    cases items with
    | nil => rw [Style.print]; exact hprintable (printable_of_all rfl)
    | cons v items =>
      obtain ⟨hv, hitems⟩ := List.forall_mem_cons.mp ih
      have hrest := hstyle.items fun w hw => hitems w hw (level + 1)
      rw [toList_print_arr, hstyle.toList_newline, hstyle.toList_newline, List.nil_append,
        List.append_nil]
      simp only [List.forall_mem_cons, List.forall_mem_append]
      exact ⟨hsign (by decide), ⟨hv _, hrest⟩, hsign (by decide), hend⟩
  | @obj fields _ _ ih =>
    cases fields with
    | nil => rw [Style.print]; exact hprintable (printable_of_all rfl)
    | cons f fields =>
      obtain ⟨hv, hfields⟩ := List.forall_mem_cons.mp ih
      have hrest := hstyle.fields fun g hg => hfields g hg (level + 1)
      rw [toList_print_obj, hstyle.toList_newline, hstyle.toList_newline, List.nil_append,
        List.append_nil]
      simp only [List.forall_mem_cons, List.forall_mem_append]
      exact ⟨hsign (by decide), ⟨⟨⟨hstyle.string f.1, hstyle.name⟩, hv _⟩, hrest⟩,
        hsign (by decide), hend⟩

end Within

structure OneLine (style : Style) : Prop where
  indent : style.indent = none
  item : '\n' ∉ style.itemSeparator.toList
  name : '\n' ∉ style.nameSeparator.toList

private theorem OneLine.within {style : Style} (hstyle : style.OneLine) : style.Within
    (· ≠ '\n') where
  indent := hstyle.indent
  printable _ hc := hc.ne_newline
  item _ hc heq := hstyle.item (heq ▸ hc)
  name _ hc heq := hstyle.name (heq ▸ hc)
  escaped c _ hd heq := (style.spelling_escapedChar c).newline_notMem (heq ▸ hd)

theorem within_compact : compact.Within Printable :=
  ⟨rfl, fun _ => id, printable_of_all rfl, printable_of_all rfl, printable_escapedChar rfl⟩

theorem lawful_record : record.Lawful :=
  ⟨⟨[], rfl, .nil⟩, ⟨[], rfl, .nil⟩⟩

theorem oneLine_record : record.OneLine := ⟨rfl, by decide, by decide⟩

end Style

/-- The values on the lines of a text that are not empty. -/
def readLines (text : String) : Except Fault (List Value) :=
  ((text.toList.splitOn '\n').filter (!·.isEmpty)).mapM fun line => read (String.ofList line)

/-- Values that are written each on a line of its own are read line by line. -/
theorem readLines_joined {style : Style} (hlawful : style.Lawful) (hline : style.OneLine)
    {vs : List Value} (h : ∀ v ∈ vs, v.Plain) :
    readLines (String.intercalate "\n" (vs.map (·.text style)) ++ "\n") = .ok vs := by
  have hne : ∀ v ∈ vs, (v.text style).toList ≠ [] := by
    intro v hv hnil
    obtain ⟨c, more, hfront, _⟩ := Style.print_front (h v hv).finite style 0
    rw [Value.text, hfront] at hnil
    cases hnil
  have htexts : ∀ line ∈ vs.map fun v => (v.text style).toList, '\n' ∉ line := by
    intro line hmem
    obtain ⟨v, hv, rfl⟩ := List.mem_map.mp hmem
    exact fun hmem => hline.within.print (h v hv).finite 0 _ hmem rfl
  have hsplit : ((['\n'].intercalate (vs.map fun v => (v.text style).toList)).splitOn '\n').filter
      (!·.isEmpty) = vs.map fun v => (v.text style).toList := by
    by_cases hvs : vs = []
    · rw [hvs]
      rfl
    · rw [List.splitOn_intercalate '\n' htexts (by simpa using hvs), List.filter_eq_self]
      intro line hmem
      obtain ⟨v, hv, rfl⟩ := List.mem_map.mp hmem
      simpa using hne v hv
  have hlines : ((String.intercalate "\n" (vs.map (·.text style)) ++ "\n").toList.splitOn
      '\n').filter (!·.isEmpty) = vs.map fun v => (v.text style).toList := by
    have hlist : (String.intercalate "\n" (vs.map (·.text style)) ++ "\n").toList =
        ['\n'].intercalate (vs.map fun v => (v.text style).toList) ++ '\n' :: [] := by
      simp [String.toList_intercalate, Function.comp_def]
    rw [hlist, List.splitOn_append_cons_self, List.filter_append, hsplit]
    simp
  rw [readLines, hlines, mapM_eq_ok_iff, List.forall₂_map_left_iff]
  refine List.forall₂_same.mpr fun v hv => ?_
  rw [String.ofList_toList]
  exact read_text hlawful (h v hv)

end ClauseAudit.Json
