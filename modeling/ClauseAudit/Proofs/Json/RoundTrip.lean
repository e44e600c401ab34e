import ClauseAudit.Proofs.Json.Scalar

/-!
# JSON text and its value

The text of a value is read as this value, in every style whose separators are a sign and blanks.
This is true of values without floating-point numbers whose objects name no field twice; a finite
floating-point number is read as the number that its text stands for. The text of a value may stand
before any text that could not belong to a number, and the reader leaves this rest as it is; so the
readers of arrays and objects need to know no more about their items than that each of them is read
in this way.
-/

namespace ClauseAudit.Json

open Text

/-- Without floating-point numbers and without two fields of one name. -/
inductive Value.Plain : Value → Prop where
  | null : Plain .null
  | bool (b : Bool) : Plain (.bool b)
  | int (i : Int) : Plain (.int i)
  | str (s : String) : Plain (.str s)
  | arr {items : List Value} (h : ∀ v ∈ items, Plain v) : Plain (.arr items)
  | obj {fields : Fields} (hnames : (fields.map (·.1)).Nodup) (h : ∀ f ∈ fields, Plain f.2) :
      Plain (.obj fields)

/-- With finite numbers only and without two fields of one name. -/
inductive Value.Finite : Value → Prop where
  | null : Finite .null
  | bool (b : Bool) : Finite (.bool b)
  | int (i : Int) : Finite (.int i)
  | real (neg : Bool) (m : Nat) (e : Int) : Finite (.real (.finite neg m e))
  | str (s : String) : Finite (.str s)
  | arr {items : List Value} (h : ∀ v ∈ items, Finite v) : Finite (.arr items)
  | obj {fields : Fields} (hnames : (fields.map (·.1)).Nodup) (h : ∀ f ∈ fields, Finite f.2) :
      Finite (.obj fields)

mutual

/-- What the text of a value is read as. -/
def Value.reread : Value → Value
  | .real x => .real (rereadReal x)
  | .arr items => .arr (rereadItems items)
  | .obj fields => .obj (rereadFields fields)
  | .null => .null
  | .bool b => .bool b
  | .int i => .int i
  | .str s => .str s

def rereadItems : List Value → List Value
  | [] => []
  | v :: rest => v.reread :: rereadItems rest

def rereadFields : List (String × Value) → List (String × Value)
  | [] => []
  | (name, v) :: rest => (name, v.reread) :: rereadFields rest

end

private theorem rereadItems_eq_map (items : List Value) : rereadItems items =
    items.map Value.reread := by
  induction items with
  | nil => rfl
  | cons v items ih => rw [rereadItems, ih, List.map_cons]

theorem rereadFields_eq_map (fields : Fields) :
    rereadFields fields = fields.map fun f => (f.1, f.2.reread) := by
  induction fields with
  | nil => rfl
  | cons f fields ih => rw [rereadFields, ih, List.map_cons]

/-- No integer in the value has more digits than the limit. -/
inductive Value.Short (limit : Option Nat) : Value → Prop where
  | null : Short limit .null
  | bool (b : Bool) : Short limit (.bool b)
  | int {i : Int} (h : excess? limit (.int i) = none) : Short limit (.int i)
  | real (x : Binary64) : Short limit (.real x)
  | str (s : String) : Short limit (.str s)
  | arr {items : List Value} (h : ∀ v ∈ items, Short limit v) : Short limit (.arr items)
  | obj {fields : Fields} (h : ∀ f ∈ fields, Short limit f.2) : Short limit (.obj fields)

private theorem Value.Finite.short_none {v : Value} (h : v.Finite) : v.Short none := by
  induction h with
  | null => exact .null
  | bool b => exact .bool b
  | int i => exact .int rfl
  | real neg m e => exact .real _
  | str s => exact .str s
  | arr _ ih => exact .arr ih
  | obj _ _ ih => exact .obj ih

namespace Value.Plain

theorem finite {v : Value} (h : v.Plain) : v.Finite := by
  induction h with
  | null => exact .null
  | bool b => exact .bool b
  | int i => exact .int i
  | str s => exact .str s
  | arr _ ih => exact .arr ih
  | obj hnames _ ih => exact .obj hnames ih

private theorem reread_eq {v : Value} (h : v.Plain) : v.reread = v := by
  induction h with
  | null => rfl
  | bool b => rfl
  | int i => rfl
  | str s => rfl
  | @arr items _ ih =>
    rw [reread, rereadItems_eq_map, List.map_congr_left ih, List.map_id']
  | @obj fields _ _ ih =>
    have hfields : ∀ f ∈ fields, (f.1, f.2.reread) = f := fun f hf => by rw [ih f hf]
    rw [reread, rereadFields_eq_map, List.map_congr_left hfields, List.map_id']

end Value.Plain

namespace Style

/-- A separator is a comma or a colon, and white space after it. -/
structure Lawful (style : Style) : Prop where
  item : ∃ blanks, style.itemSeparator.toList = ',' :: blanks ∧ Blank blanks
  name : ∃ blanks, style.nameSeparator.toList = ':' :: blanks ∧ Blank blanks

theorem lawful_compact : compact.Lawful :=
  ⟨⟨[], rfl, .nil⟩, ⟨[], rfl, .nil⟩⟩

private theorem blank_newline (style : Style) (level : Nat) : Blank
    (style.newline level).toList := by
  intro c hc
  unfold newline at hc
  split at hc
  · rw [String.toList_ofList, List.mem_cons, List.mem_replicate] at hc
    rcases hc with rfl | ⟨_, rfl⟩ <;> rfl
  · cases hc

theorem toList_string (style : Style) (s : String) :
    (style.string s).toList = '"' :: (s.toList.flatMap style.escapedChar ++ ['"']) := by
  rw [string, String.toList_ofList, List.cons_append]

theorem length_le_flatMap_escapedChar (style : Style) (cs : List Char) :
    cs.length ≤ (cs.flatMap style.escapedChar).length := by
  induction cs with
  | nil => exact Nat.le_refl 0
  | cons c cs ih =>
    have hpos := (style.spelling_escapedChar c).length_pos
    rw [List.flatMap_cons, List.length_append, List.length_cons]
    omega

theorem toList_print_arr (style : Style) (level : Nat) (v : Value) (items : List Value) :
    (style.print level (.arr (v :: items))).toList = '[' :: ((style.newline (level + 1)).toList ++
      (style.print (level + 1) v).toList ++ (style.printItems (level + 1) items).toList ++
      (style.newline level).toList ++ [']']) := by
  rw [print]
  simp

theorem toList_print_obj (style : Style) (level : Nat) (name : String) (v : Value)
    (fields : Fields) : (style.print level (.obj ((name, v) :: fields))).toList =
      '\x7b' :: ((style.newline (level + 1)).toList ++ (style.string name).toList ++
        style.nameSeparator.toList ++ (style.print (level + 1) v).toList ++
        (style.printFields (level + 1) fields).toList ++ (style.newline level).toList ++
        ['\x7d']) := by
  rw [print]
  simp

theorem toList_printItems_cons (style : Style) (level : Nat) (v : Value) (items : List Value) :
    (style.printItems level (v :: items)).toList = style.itemSeparator.toList ++
      (style.newline level).toList ++ (style.print level v).toList ++
      (style.printItems level items).toList := by
  rw [printItems]
  simp

theorem toList_printFields_cons (style : Style) (level : Nat) (name : String) (v : Value)
    (fields : Fields) : (style.printFields level ((name, v) :: fields)).toList =
      style.itemSeparator.toList ++ (style.newline level).toList ++ (style.string name).toList ++
        style.nameSeparator.toList ++ (style.print level v).toList ++
        (style.printFields level fields).toList := by
  rw [printFields]
  simp

end Style

private theorem NumberFront.front {cs : List Char} (h : NumberFront cs) :
    ∃ c more, cs = c :: more ∧ Cursor.isSpace c = false ∧ c ≠ ']' := by
  obtain ⟨c, more, hc, hfront⟩ := h
  have hne (d : Char) (hd : isAsciiDigit d = false) : c ≠ d := ne_of_class hc hd
  rcases hfront with hfront | hfront
  · refine ⟨c, more, hfront, ?_, hne ']' rfl⟩
    simp [Cursor.isSpace, hne ' ' rfl, hne '\t' rfl, hne '\n' rfl, hne '\r' rfl]
  · exact ⟨'-', _, hfront, rfl, by decide⟩

namespace Style

/-- A value begins with a character that is neither white space nor the end of an array. -/
theorem print_front {v : Value} (h : v.Finite) (style : Style) (level : Nat) : ∃ c more,
    (style.print level v).toList = c :: more ∧ Cursor.isSpace c = false ∧ c ≠ ']' := by
  cases h with
  | null => exact ⟨'n', _, by rw [print]; rfl, rfl, by decide⟩
  | bool b =>
    cases b with
    | false => exact ⟨'f', _, by rw [print]; rfl, rfl, by decide⟩
    | true => exact ⟨'t', _, by rw [print]; rfl, rfl, by decide⟩
  | int i =>
    rw [print]
    exact (numberFront_signedDecimal i).front
  | real neg m e =>
    rw [print]
    exact (numberFront_text neg m e).front
  | str s => exact ⟨'"', _, by rw [print, toList_string], rfl, by decide⟩
  | @arr items _ =>
    cases items with
    | nil => exact ⟨'[', _, by rw [print]; rfl, rfl, by decide⟩
    | cons v rest => exact ⟨'[', _, toList_print_arr style level v rest, rfl, by decide⟩
  | @obj fields _ _ =>
    cases fields with
    | nil => exact ⟨'\x7b', _, by rw [print]; rfl, rfl, by decide⟩
    | cons f rest => exact ⟨'\x7b', _, toList_print_obj style level f.1 f.2 rest, rfl, by decide⟩

end Style

private theorem stops_of_blank {blanks rest : List Char} {c : Char} (hblanks : Blank blanks)
    (hc : c = ',' ∨ c = ']' ∨ c = '\x7d') : Stops (blanks ++ c :: rest) := by
  intro d hd
  cases blanks with
  | nil =>
    obtain rfl : c = d := Option.some.inj hd
    rcases hc with rfl | rfl | rfl <;> decide
  | cons b blanks =>
    obtain rfl : b = d := Option.some.inj hd
    have hspace := hblanks b List.mem_cons_self
    simp only [Cursor.isSpace, Bool.or_eq_true, beq_iff_eq] at hspace
    rcases hspace with ((rfl | rfl) | rfl) | rfl <;> decide

private theorem Fields.set_of_nodup {known fields : Fields} {name : String} {v : Value}
    (h : ((known ++ (name, v) :: fields).map (·.1)).Nodup) (w : Value) :
    known.set name w = known ++ [(name, w)] := by
  rw [List.map_append, List.nodup_append] at h
  have hnone : known.any (·.1 == name) = false := by
    rw [List.any_eq_false]
    intro f hf heq
    exact h.2.2 f.1 (List.mem_map_of_mem hf) name (by simp) (by simpa using heq)
  rw [set, hnone]
  rfl

/-- The text of the value is read wherever it stands. -/
def Style.Reads (style : Style) (limit : Option Nat) (v : Value) : Prop :=
  ∀ level fuel cur rest, cur.rest = (style.print level v).toList ++ rest → Stops rest →
    2 * (style.print level v).toList.length ≤ fuel →
      ∃ cur', readValue limit fuel cur = .ok (v.reread, cur') ∧ cur'.rest = rest

section Steps

variable {limit : Option Nat} {fuel : Nat} {cur after last : Cursor} {rest : List Char}
  {name : String} {v : Value} {known fields : Fields} {items : List Value}

private theorem readItems_last (hvalue : readValue limit fuel cur = .ok (v, after))
    (hend : after.skipSpace.rest = ']' :: rest) :
    readItems limit (fuel + 1) cur = .ok ([v], after.skipSpace.advance 1) := by
  unfold readItems
  rw [hvalue]
  simp only [bind, Except.bind, hend]
  rfl

private theorem readItems_next (hvalue : readValue limit fuel cur = .ok (v, after))
    (hcomma : after.skipSpace.rest = ',' :: rest)
    (hnext : readItems limit fuel (after.skipSpace.advance 1).skipSpace = .ok (items, last)) :
    readItems limit (fuel + 1) cur = .ok (v :: items, last) := by
  unfold readItems
  rw [hvalue]
  simp only [bind, Except.bind, hcomma, hnext]
  rfl

def ReadsField (limit : Option Nat) (fuel : Nat) (cur : Cursor) (name : String) (v : Value)
    (after : Cursor) : Prop :=
  ∃ more colon value, cur.rest = '"' :: more ∧
    readString cur.position (cur.rest.length + 1) [] (cur.advance 1) = .ok (name, colon) ∧
    colon.skipSpace.rest = ':' :: value ∧
    readValue limit fuel (colon.skipSpace.advance 1).skipSpace = .ok (v, after)

private theorem readFields_last (hfield : ReadsField limit fuel cur name v after)
    (hend : after.skipSpace.rest = '\x7d' :: rest) :
    readFields limit (fuel + 1) known cur = .ok (known.set name v, after.skipSpace.advance 1) := by
  obtain ⟨more, colon, value, hquote, hname, hcolon, hvalue⟩ := hfield
  rw [hquote] at hname
  unfold readFields
  rw [hquote]
  simp only [bind, Except.bind, hname, hcolon, hvalue, hend]
  rfl

private theorem readFields_next (hfield : ReadsField limit fuel cur name v after)
    (hcomma : after.skipSpace.rest = ',' :: rest)
    (hnext : readFields limit fuel (known.set name v) (after.skipSpace.advance 1).skipSpace =
      .ok (fields, last)) : readFields limit (fuel + 1) known cur = .ok (fields, last) := by
  obtain ⟨more, colon, value, hquote, hname, hcolon, hvalue⟩ := hfield
  rw [hquote] at hname
  unfold readFields
  rw [hquote]
  simp only [bind, Except.bind, hname, hcolon, hvalue, hcomma, hnext]

private theorem readValue_arr {c : Char} {cs : List Char} (hopen : cur.rest = '[' :: rest)
    (hfront : (cur.advance 1).skipSpace.rest = c :: cs) (hc : c ≠ ']')
    (hitems : readItems limit fuel (cur.advance 1).skipSpace = .ok (items, last)) :
    readValue limit (fuel + 1) cur = .ok (.arr items, last) := by
  unfold readValue
  rw [hopen]
  simp only [hfront]
  split
  · next heq => exact absurd (List.cons.inj heq).1 hc
  · rw [hitems]
    rfl

private theorem readValue_obj {cs : List Char} (hopen : cur.rest = '\x7b' :: rest)
    (hfront : (cur.advance 1).skipSpace.rest = '"' :: cs)
    (hfields : readFields limit fuel [] (cur.advance 1).skipSpace = .ok (fields, last)) :
    readValue limit (fuel + 1) cur = .ok (.obj fields, last) := by
  unfold readValue
  rw [hopen]
  simp only [hfront, hfields]
  rfl

private theorem readValue_scalar {c : Char} (h : cur.rest = c :: rest) (hquote : c ≠ '"')
    (hbracket : c ≠ '[') (hbrace : c ≠ '\x7b') :
    readValue limit (fuel + 1) cur = readScalar limit cur := by
  unfold readValue
  rw [h]
  split
  · next heq => exact absurd (List.cons.inj heq).1 hquote
  · next heq => exact absurd (List.cons.inj heq).1 hbracket
  · next heq => exact absurd (List.cons.inj heq).1 hbrace
  · rfl

end Steps

section Readers

variable {limit : Option Nat} {style : Style} {cur : Cursor} {rest : List Char}

private theorem readString_string (s : String) (h : cur.rest = (style.string s).toList ++ rest) :
    ∃ cur', readString cur.position (cur.rest.length + 1) [] (cur.advance 1) = .ok (s, cur') ∧
      cur'.rest = rest := by
  rw [Style.toList_string, List.cons_append, List.append_assoc] at h
  have hopen : (cur.advance 1).rest = s.toList.flatMap style.escapedChar ++ '"' :: rest := by
    rw [Cursor.advance, h]
    rfl
  have hfuel : s.toList.length < cur.rest.length + 1 := by
    have hlength := style.length_le_flatMap_escapedChar s.toList
    rw [h, List.length_cons, List.length_append]
    omega
  obtain ⟨cur', hread, hrest⟩ := readString_escaped style hopen hfuel
  refine ⟨cur', ?_, hrest⟩
  rw [hread, List.reverse_nil, List.nil_append, String.ofList_toList]

private theorem skipSpace_separator {blanks cs : List Char} {sign c : Char}
    (h : cur.rest = sign :: (blanks ++ c :: cs)) (hblanks : Blank blanks)
    (hc : Cursor.isSpace c = false) : (cur.advance 1).skipSpace.rest = c :: cs := by
  have hpast : (cur.advance 1).rest = blanks ++ c :: cs := @Cursor.advance_rest _ [sign] _ h
  exact Cursor.skipSpace_rest hpast hblanks hc

private theorem readItems_print (hstyle : style.Lawful) {level fuel : Nat} {v : Value}
    {items : List Value}
    {blanks : List Char} (hfinite : ∀ w ∈ items, w.Finite) (hv : style.Reads limit v)
    (hitems : ∀ w ∈ items, style.Reads limit w) (hblanks : Blank blanks)
    (h : cur.rest = (style.print level v).toList ++ ((style.printItems level items).toList ++
      (blanks ++ ']' :: rest)))
    (hfuel : 2 * ((style.print level v).toList.length +
      (style.printItems level items).toList.length) + 2 ≤ fuel) :
    ∃ cur', readItems limit fuel cur = .ok ((v :: items).map Value.reread, cur') ∧
      cur'.rest = rest := by
  induction items generalizing v fuel cur with
  | nil =>
    obtain ⟨fuel, rfl⟩ : ∃ n, fuel = n + 1 := ⟨fuel - 1, by omega⟩
    have htail : (style.printItems level []).toList ++ (blanks ++ ']' :: rest) =
        blanks ++ ']' :: rest := by
      rw [Style.printItems]
      rfl
    rw [htail] at h
    obtain ⟨after, hread, hafter⟩ := hv level fuel cur _ h (stops_of_blank hblanks (by simp))
      (by omega)
    have hend := Cursor.skipSpace_rest hafter hblanks rfl
    exact ⟨_, readItems_last hread hend, @Cursor.advance_rest _ [']'] _ hend⟩
  | cons w items ih =>
    obtain ⟨fuel, rfl⟩ : ∃ n, fuel = n + 1 := ⟨fuel - 1, by omega⟩
    obtain ⟨gap, hcomma, hgap⟩ := hstyle.item
    obtain ⟨hw, hws⟩ := List.forall_mem_cons.mp hitems
    obtain ⟨hwfinite, hwsfinite⟩ := List.forall_mem_cons.mp hfinite
    obtain ⟨c, more, hfront, hspace, _⟩ := Style.print_front hwfinite style level
    -- The text after the value begins with a comma, where the value has to stop.
    have htail : (style.printItems level (w :: items)).toList ++ (blanks ++ ']' :: rest) =
        ',' :: ((gap ++ (style.newline level).toList) ++ ((style.print level w).toList ++
          ((style.printItems level items).toList ++ (blanks ++ ']' :: rest)))) := by
      rw [Style.toList_printItems_cons, hcomma]
      simp
    rw [htail] at h
    rw [Style.toList_printItems_cons, hcomma] at hfuel
    simp only [List.length_append, List.length_cons] at hfuel
    have hrest : 2 * ((style.print level w).toList.length +
        (style.printItems level items).toList.length) + 2 ≤ fuel := by omega
    obtain ⟨after, hread, hafter⟩ := hv level fuel cur _ h (stops_of_blank .nil (by simp))
      (by omega)
    have hsign := Cursor.skipSpace_rest (hafter.trans (List.nil_append _).symm) .nil rfl
    rw [hfront, List.cons_append] at hsign
    have hnext := skipSpace_separator hsign (hgap.append (style.blank_newline level)) hspace
    rw [← List.cons_append, ← hfront] at hnext
    obtain ⟨last, hitems, hlast⟩ := ih hwsfinite hw hws hnext hrest
    exact ⟨last, readItems_next hread hsign hitems, hlast⟩

private theorem readsField_print (hstyle : style.Lawful) {level fuel : Nat} {name : String}
    {v : Value} (hfinite : v.Finite) (hv : style.Reads limit v)
    (h : cur.rest = (style.string name).toList ++ (style.nameSeparator.toList ++
      ((style.print level v).toList ++ rest))) (hrest : Stops rest)
    (hfuel : 2 * (style.print level v).toList.length ≤ fuel) :
    ∃ after, ReadsField limit fuel cur name v.reread after ∧ after.rest = rest := by
  obtain ⟨gap, hcolon, hgap⟩ := hstyle.name
  obtain ⟨c, more, hfront, hspace, _⟩ := Style.print_front hfinite style level
  obtain ⟨colon, hname, hcolonRest⟩ := readString_string name h
  rw [hcolon, hfront, List.cons_append, List.cons_append] at hcolonRest
  have hsign := Cursor.skipSpace_rest (hcolonRest.trans (List.nil_append _).symm) .nil rfl
  have hvalueRest := skipSpace_separator hsign hgap hspace
  rw [← List.cons_append, ← hfront] at hvalueRest
  obtain ⟨after, hvalue, hafter⟩ := hv level fuel _ rest hvalueRest hrest hfuel
  rw [Style.toList_string, List.cons_append] at h
  exact ⟨after, ⟨_, colon, _, h, hname, hsign, hvalue⟩, hafter⟩

private theorem readFields_print (hstyle : style.Lawful) {level fuel : Nat} {name : String}
    {v : Value} {known fields : Fields} {blanks : List Char}
    (hnames : ((known ++ (name, v) :: fields).map (·.1)).Nodup)
    (hfinite : ∀ f ∈ (name, v) :: fields, f.2.Finite)
    (hreads : ∀ f ∈ (name, v) :: fields, style.Reads limit f.2) (hblanks : Blank blanks)
    (h : cur.rest = (style.string name).toList ++ (style.nameSeparator.toList ++
      ((style.print level v).toList ++ ((style.printFields level fields).toList ++
        (blanks ++ '\x7d' :: rest)))))
    (hfuel : 2 * ((style.print level v).toList.length +
      (style.printFields level fields).toList.length) + 2 ≤ fuel) :
    ∃ cur', readFields limit fuel known cur =
      .ok (known ++ ((name, v) :: fields).map (fun f => (f.1, f.2.reread)), cur') ∧
        cur'.rest = rest := by
  induction fields generalizing name v known fuel cur with
  | nil =>
    obtain ⟨fuel, rfl⟩ : ∃ n, fuel = n + 1 := ⟨fuel - 1, by omega⟩
    have htail : (style.printFields level []).toList ++ (blanks ++ '\x7d' :: rest) =
        blanks ++ '\x7d' :: rest := by
      rw [Style.printFields]
      rfl
    rw [htail] at h
    have hvalue : 2 * (style.print level v).toList.length ≤ fuel := by omega
    obtain ⟨after, hfield, hafter⟩ := readsField_print hstyle (hfinite _ List.mem_cons_self)
      (hreads _ List.mem_cons_self) h (stops_of_blank hblanks (by simp)) hvalue
    have hend := Cursor.skipSpace_rest hafter hblanks rfl
    rw [List.map_singleton, ← Fields.set_of_nodup hnames v.reread]
    exact ⟨_, readFields_last hfield hend, @Cursor.advance_rest _ ['\x7d'] _ hend⟩
  | cons f fields ih =>
    obtain ⟨name', w⟩ := f
    obtain ⟨fuel, rfl⟩ : ∃ n, fuel = n + 1 := ⟨fuel - 1, by omega⟩
    obtain ⟨gap, hcomma, hgap⟩ := hstyle.item
    have htail : (style.printFields level ((name', w) :: fields)).toList ++
        (blanks ++ '\x7d' :: rest) = ',' :: ((gap ++ (style.newline level).toList) ++
          ((style.string name').toList ++ (style.nameSeparator.toList ++
            ((style.print level w).toList ++ ((style.printFields level fields).toList ++
              (blanks ++ '\x7d' :: rest)))))) := by
      rw [Style.toList_printFields_cons, hcomma]
      simp
    rw [htail] at h
    rw [Style.toList_printFields_cons, hcomma] at hfuel
    simp only [List.length_append, List.length_cons] at hfuel
    have hvalue : 2 * (style.print level v).toList.length ≤ fuel := by omega
    have hrest : 2 * ((style.print level w).toList.length +
        (style.printFields level fields).toList.length) + 2 ≤ fuel := by omega
    obtain ⟨after, hfield, hafter⟩ := readsField_print hstyle (hfinite _ List.mem_cons_self)
      (hreads _ List.mem_cons_self) h (stops_of_blank .nil (by simp)) hvalue
    have hsign := Cursor.skipSpace_rest (hafter.trans (List.nil_append _).symm) .nil rfl
    rw [Style.toList_string, List.cons_append] at hsign
    have hnext := skipSpace_separator hsign (hgap.append (style.blank_newline level)) rfl
    rw [← List.cons_append, ← Style.toList_string] at hnext
    -- The field joins those that are known, and its name does not come again.
    have hset := Fields.set_of_nodup hnames v.reread
    have hnext' : ((known.set name v.reread ++ (name', w) :: fields).map (·.1)).Nodup := by
      rw [hset]
      simpa using hnames
    obtain ⟨last, hread, hlast⟩ := ih hnext' (fun f hf => hfinite f (List.mem_cons_of_mem _ hf))
      (fun f hf => hreads f (List.mem_cons_of_mem _ hf)) hnext hrest
    rw [List.map_cons, ← List.singleton_append, ← List.append_assoc, ← hset]
    exact ⟨last, readFields_next hfield hsign hread, hlast⟩

private theorem readValue_name {name : List Char} {v : Value} {c : Char} {more : List Char}
    {fuel : Nat} (hname : name = c :: more) (hc : Text.isAsciiLetter c = true)
    (hfind : namedValues.find? (fun named => named.1.isPrefixOf (name ++ rest)) = some (name, v))
    (h : cur.rest = name ++ rest) (hfuel : 0 < fuel) :
    ∃ cur', readValue limit fuel cur = .ok (v, cur') ∧ cur'.rest = rest := by
  obtain ⟨fuel, rfl⟩ : ∃ n, fuel = n + 1 := ⟨fuel - 1, by omega⟩
  have hne (d : Char) (hd : Text.isAsciiLetter d = false) : c ≠ d := ne_of_class hc hd
  refine ⟨cur.advance name.length, ?_, Cursor.advance_rest h⟩
  have hfront : cur.rest = c :: (more ++ rest) := by rw [h, hname, List.cons_append]
  rw [readValue_scalar hfront (hne '"' rfl) (hne '[' rfl) (hne '\x7b' rfl), readScalar, h, hfind]

private theorem readValue_number {cs : List Char} {v : Value} {fuel : Nat} (hfront : NumberFront cs)
    (hnumber : number? (cs ++ rest) = some (v, cs.length)) (hshort : excess? limit v = none)
    (h : cur.rest = cs ++ rest) (hfuel : 2 * cs.length ≤ fuel) :
    ∃ cur', readValue limit fuel cur = .ok (v, cur') ∧ cur'.rest = rest := by
  refine ⟨cur.advance cs.length, ?_, Cursor.advance_rest h⟩
  rw [← readScalar_number hfront hnumber hshort h]
  obtain ⟨c, more, hc, hcs⟩ := hfront
  have hne (d : Char) (hd : isAsciiDigit d = false) : c ≠ d := ne_of_class hc hd
  obtain ⟨fuel, rfl⟩ : ∃ n, fuel = n + 1 := by
    refine ⟨fuel - 1, ?_⟩
    rcases hcs with rfl | rfl <;> rw [List.length_cons] at hfuel <;> omega
  rcases hcs with rfl | rfl
  · exact readValue_scalar h (hne '"' rfl) (hne '[' rfl) (hne '\x7b' rfl)
  · exact readValue_scalar h (by decide) (by decide) (by decide)

private theorem reads_int {i : Int} (hshort : excess? limit (.int i) = none) :
    style.Reads limit (.int i) := by
  intro level fuel cur rest h hrest hfuel
  rw [Style.print] at h hfuel
  exact readValue_number (numberFront_signedDecimal i) (number?_signedDecimal i hrest) hshort h
    hfuel

private theorem reads_real (neg : Bool) (m : Nat) (e : Int) :
    style.Reads limit (.real (.finite neg m e)) := by
  intro level fuel cur rest h hrest hfuel
  rw [Style.print] at h hfuel
  exact readValue_number (numberFront_text neg m e) (number?_text neg m e hrest) rfl h hfuel

private theorem reads_str (s : String) : style.Reads limit (.str s) := by
  intro level fuel cur rest h _ hfuel
  rw [Style.print] at h hfuel
  rw [Style.toList_string, List.length_cons] at hfuel
  obtain ⟨fuel, rfl⟩ : ∃ n, fuel = n + 1 := ⟨fuel - 1, by omega⟩
  obtain ⟨cur', hread, hrest⟩ := readString_string s h
  rw [Style.toList_string, List.cons_append] at h
  rw [h] at hread
  refine ⟨cur', ?_, hrest⟩
  unfold readValue
  rw [h]
  simp only [bind, Except.bind, hread]
  rfl

private theorem reads_arr (hstyle : style.Lawful) {items : List Value}
    (hfinite : ∀ v ∈ items, v.Finite)
    (hitems : ∀ v ∈ items, style.Reads limit v) : style.Reads limit (.arr items) := by
  intro level fuel cur rest h _ hfuel
  cases items with
  | nil =>
    rw [Style.print] at h hfuel
    obtain ⟨fuel, rfl⟩ : ∃ n, fuel = n + 1 := Nat.exists_eq_add_one.mpr
      (Nat.lt_of_lt_of_le (by decide) hfuel)
    have hopen : cur.rest = '[' :: ']' :: rest := h
    have hend : (cur.advance 1).skipSpace.rest = ']' :: rest :=
      skipSpace_separator hopen .nil rfl
    refine ⟨_, ?_, @Cursor.advance_rest _ [']'] _ hend⟩
    unfold readValue
    rw [hopen]
    simp only [hend]
    rfl
  | cons v items =>
    rw [Style.toList_print_arr] at h hfuel
    simp only [List.length_cons, List.length_append, List.length_nil] at hfuel
    obtain ⟨fuel, rfl⟩ : ∃ n, fuel = n + 1 := ⟨fuel - 1, by omega⟩
    obtain ⟨hv, hitems⟩ := List.forall_mem_cons.mp hitems
    obtain ⟨hvfinite, hfinite⟩ := List.forall_mem_cons.mp hfinite
    obtain ⟨c, more, hfront, hspace, hc⟩ := Style.print_front hvfinite style (level + 1)
    have hopen : cur.rest = '[' :: ((style.newline (level + 1)).toList ++
        ((style.print (level + 1) v).toList ++ ((style.printItems (level + 1) items).toList ++
          ((style.newline level).toList ++ ']' :: rest)))) := by
      rw [h]
      simp
    rw [hfront, List.cons_append] at hopen
    have hinner := skipSpace_separator hopen (style.blank_newline (level + 1)) hspace
    have hvalue := hinner
    rw [← List.cons_append, ← hfront] at hvalue
    have hinnerFuel : 2 * ((style.print (level + 1) v).toList.length +
        (style.printItems (level + 1) items).toList.length) + 2 ≤ fuel := by omega
    obtain ⟨last, hread, hlast⟩ := readItems_print hstyle hfinite hv hitems
      (style.blank_newline level) hvalue hinnerFuel
    rw [Value.reread, rereadItems_eq_map]
    exact ⟨last, readValue_arr hopen hinner hc hread, hlast⟩

private theorem reads_obj (hstyle : style.Lawful) {fields : Fields}
    (hnames : (fields.map (·.1)).Nodup)
    (hfinite : ∀ f ∈ fields, f.2.Finite) (hfields : ∀ f ∈ fields, style.Reads limit f.2) :
    style.Reads limit (.obj fields) := by
  intro level fuel cur rest h _ hfuel
  cases fields with
  | nil =>
    rw [Style.print] at h hfuel
    obtain ⟨fuel, rfl⟩ : ∃ n, fuel = n + 1 := Nat.exists_eq_add_one.mpr
      (Nat.lt_of_lt_of_le (by decide) hfuel)
    have hopen : cur.rest = '\x7b' :: '\x7d' :: rest := h
    have hend : (cur.advance 1).skipSpace.rest = '\x7d' :: rest :=
      skipSpace_separator hopen .nil rfl
    refine ⟨_, ?_, @Cursor.advance_rest _ ['\x7d'] _ hend⟩
    unfold readValue
    rw [hopen]
    simp only [hend]
    rfl
  | cons f fields =>
    obtain ⟨name, v⟩ := f
    rw [Style.toList_print_obj] at h hfuel
    simp only [List.length_cons, List.length_append, List.length_nil] at hfuel
    obtain ⟨fuel, rfl⟩ : ∃ n, fuel = n + 1 := ⟨fuel - 1, by omega⟩
    have hopen : cur.rest = '\x7b' :: ((style.newline (level + 1)).toList ++
        ((style.string name).toList ++ (style.nameSeparator.toList ++
          ((style.print (level + 1) v).toList ++ ((style.printFields (level + 1) fields).toList ++
            ((style.newline level).toList ++ '\x7d' :: rest)))))) := by
      rw [h]
      simp
    rw [Style.toList_string, List.cons_append] at hopen
    have hinner := skipSpace_separator hopen (style.blank_newline (level + 1)) rfl
    have hname := hinner
    rw [← List.cons_append, ← Style.toList_string] at hname
    have hinnerFuel : 2 * ((style.print (level + 1) v).toList.length +
        (style.printFields (level + 1) fields).toList.length) + 2 ≤ fuel := by omega
    have hknown : (([] ++ (name, v) :: fields : Fields).map (·.1)).Nodup := hnames
    obtain ⟨last, hread, hlast⟩ := readFields_print hstyle hknown hfinite hfields
      (style.blank_newline level) hname hinnerFuel
    rw [Value.reread, rereadFields_eq_map]
    exact ⟨last, readValue_obj hopen hinner hread, hlast⟩

end Readers

/-- Every finite value without long integers is read from its text in a lawful style. -/
theorem Value.Finite.reads {style : Style} (hstyle : style.Lawful) {limit : Option Nat} {v : Value}
    (h : v.Finite) (hshort : v.Short limit) : style.Reads limit v := by
  induction h with
  | null =>
    intro level fuel cur rest h _ hfuel
    rw [Style.print] at h hfuel
    exact readValue_name rfl rfl rfl h (Nat.lt_of_lt_of_le (by decide) hfuel)
  | bool b =>
    intro level fuel cur rest h _ hfuel
    cases b with
    | false =>
      rw [Style.print] at h hfuel
      exact readValue_name rfl rfl rfl h (Nat.lt_of_lt_of_le (by decide) hfuel)
    | true =>
      rw [Style.print] at h hfuel
      exact readValue_name rfl rfl rfl h (Nat.lt_of_lt_of_le (by decide) hfuel)
  | int i =>
    cases hshort with
    | int hshort => exact reads_int hshort
  | real neg m e => exact reads_real neg m e
  | str s => exact reads_str s
  | arr h ih =>
    cases hshort with
    | arr hshort => exact reads_arr hstyle h fun v hv => ih v hv (hshort v hv)
  | obj hnames h ih =>
    cases hshort with
    | obj hshort => exact reads_obj hstyle hnames h fun f hf => ih f hf (hshort f hf)

section Whole

variable {style : Style} (hstyle : style.Lawful) {v : Value}

include hstyle

private theorem readWithin_text_of_finite {limit : Option Nat} (h : v.Finite)
    (hshort : v.Short limit) : readWithin limit (v.text style) = .ok v.reread := by
  obtain ⟨c, more, hfront, hspace, _⟩ := Style.print_front h style 0
  have hstart : (Cursor.mk 0 (v.text style).toList).skipSpace.rest = c :: more :=
    Cursor.skipSpace_rest (hfront.trans (List.nil_append _).symm) .nil hspace
  rw [← hfront, ← List.append_nil (style.print 0 v).toList] at hstart
  obtain ⟨last, hread, hlast⟩ := h.reads hstyle hshort 0 (2 * (v.text style).toList.length + 2) _
    [] hstart (fun c hc => by cases hc) (Nat.le_add_right _ 2)
  have hend : last.skipSpace.rest = [] := by
    rw [Cursor.skipSpace, Cursor.advance, hlast]
    rfl
  unfold readWithin
  simp only [bind, Except.bind, hread, hend]
  rfl

theorem readWithin_text {limit : Option Nat} (h : v.Plain) (hshort : v.Short limit) :
    readWithin limit (v.text style) = .ok v := by
  rw [readWithin_text_of_finite hstyle h.finite hshort, h.reread_eq]

theorem read_text_of_finite (h : v.Finite) : read (v.text style) = .ok v.reread :=
  readWithin_text_of_finite hstyle h h.short_none

theorem read_text (h : v.Plain) : read (v.text style) = .ok v :=
  readWithin_text hstyle h h.finite.short_none

end Whole

end ClauseAudit.Json
