import ClauseAudit.Proofs.Toml.Trimming

/-!
# A blank at the end of a document

A document is read alike with a blank more at its end, because its keys, values and statements are.
Their fuel is computed from the length of the text, so that what is left of it on both sides is
compared as well.
-/

namespace ClauseAudit.Toml

variable {b : Char} (hb : Text.isBlank b = true)

/-! ## Keys -/

section Keys

variable {cs cs' : List Char}

theorem keyPart?_bare {cs : List Char} (hsingle : ∀ rest, cs ≠ '\'' :: rest)
    (hdouble : ∀ rest, cs ≠ '"' :: rest) : keyPart? cs =
      if (cs.takeWhile isBareKey).isEmpty then none
      else some (String.ofList (cs.takeWhile isBareKey), cs.dropWhile isBareKey) := by
  rw [keyPart?]
  · rw [drop_length_takeWhile]
  · exact hsingle
  · exact hdouble

include hb

private theorem isBareKey_blank : isBareKey b = false := by
  cases hbare : isBareKey b with
  | false => rfl
  | true => exact absurd rfl ((visible_of_isBareKey hbare).ne_of_isBlank hb)

private theorem keyPart?_follows (h : Trims b cs cs') : Follows b (keyPart? cs) (keyPart? cs') := by
  cases h with
  | done => exact Follows.of_none rfl
  | blank =>
    by_cases hsingle : ∃ rest, cs' = '\'' :: rest
    · obtain ⟨rest, rfl⟩ := hsingle
      exact (Follows.of_eq (literalString?_concat hb rest)).map String.ofList
    by_cases hdouble : ∃ rest, cs' = '"' :: rest
    · obtain ⟨rest, rfl⟩ := hdouble
      exact (basicString?_follows hb (.blank rest) (Nat.lt_succ_self _)).map String.ofList
    have hbare := isBareKey_blank hb
    have hsingle (rest : List Char) : cs' ≠ '\'' :: rest := fun heq => hsingle ⟨rest, heq⟩
    have hdouble (rest : List Char) : cs' ≠ '"' :: rest := fun heq => hdouble ⟨rest, heq⟩
    rw [keyPart?_bare hsingle hdouble,
      keyPart?_bare (Trims.concat_ne_cons (Visible.ne_of_isBlank (by decide) hb) hsingle)
        (Trims.concat_ne_cons (Visible.ne_of_isBlank (by decide) hb) hdouble),
      takeWhile_concat hbare, dropWhile_concat hbare]
    split
    · exact Follows.of_none rfl
    · exact Follows.of_some (.blank _)

private theorem key?_follows {fuel fuel' : Nat} (h : Trims b cs cs') (hfuel : cs'.length < fuel') :
    Follows b (key? fuel cs) (key? fuel' cs') := by
  induction fuel generalizing cs cs' fuel' with
  | zero => exact Follows.of_none rfl
  | succ fuel ih =>
    obtain ⟨fuel', rfl⟩ : ∃ n, fuel' = n + 1 := Nat.exists_eq_add_one.mpr (by omega)
    refine (keyPart?_follows hb h).bind fun part r r' hpart htrims => ?_
    have hspace := htrims.skipSpace
    have hlength := ((passes_keyPart? hpart).trans (passes_skipSpace r')).length_le
    intro key rest hkey
    dsimp only at hkey ⊢
    split at hkey
    · next more hdot =>
      rw [hdot] at hspace
      obtain ⟨more', hdot', rfl⟩ := hspace.of_visible hb (by decide)
      rw [hdot'] at hlength ⊢
      have hmore := (passes_skipSpace more').length_le
      rw [List.length_cons] at hlength
      have hkeys : Follows b (key? fuel (skipSpace (more' ++ [b])))
          (key? fuel' (skipSpace more')) := ih (Trims.blank more').skipSpace (by omega)
      exact hkeys.bind_some (fun parts => part :: parts) key rest hkey
    · next hne =>
      cases hkey
      refine ⟨skipSpace r', ?_, hspace⟩
      split
      · next more' hdot => exact absurd hdot (hspace.ne_cons hne more')
      · rfl

private theorem keyOfPair?_follows (h : Trims b cs cs') :
    Follows b (keyOfPair? cs) (keyOfPair? cs') := by
  refine (key?_follows hb h (Nat.lt_succ_self _)).bind fun key r r' hkey htrims => ?_
  intro key' rest hpair
  dsimp only at hpair ⊢
  split at hpair
  · next more =>
    obtain ⟨more', rfl, rfl⟩ := htrims.of_visible hb (by decide)
    cases hpair
    exact ⟨_, rfl, (Trims.blank more').skipSpace⟩
  · cases hpair

end Keys

/-! ## Values -/

/-- What is read with the blank is read without it. -/
def ReadFollows {α : Type} (b : Char) (found found' : Except Fault (α × List Char)) : Prop :=
  ∀ a rest, found = .ok (a, rest) → ∃ rest', found' = .ok (a, rest') ∧ Trims b rest rest'

namespace ReadFollows

variable {α β : Type} {b : Char} {found found' : Except Fault (α × List Char)}

private theorem iff_follows :
    ReadFollows b found found' ↔ Follows b found.toOption found'.toOption := by
  simp only [ReadFollows, Follows, toOption_eq_some_iff]

private theorem malformed : ReadFollows b
    (.error .malformed : Except Fault (α × List Char)) found' :=
  iff_follows.mpr (Follows.of_none rfl)

private theorem of_ok {a : α} {rest rest' : List Char} (h : Trims b rest rest') :
    ReadFollows b (.ok (a, rest)) (.ok (a, rest')) :=
  iff_follows.mpr (Follows.of_some h)

private theorem bind {f f' : α × List Char → Except Fault (β × List Char)}
    (h : ReadFollows b found found')
    (hf : ∀ a rest rest', found' = .ok (a, rest') → Trims b rest rest' →
      ReadFollows b (f (a, rest)) (f' (a, rest'))) :
    ReadFollows b (found >>= f) (found' >>= f') := by
  rw [iff_follows, toOption_bind, toOption_bind]
  refine (iff_follows.mp h).bind fun a rest rest' hfound' htrims => ?_
  exact iff_follows.mp (hf a rest rest' (toOption_eq_some_iff.mp hfound') htrims)

private theorem bind_ok (h : ReadFollows b found found') (f : α → β) :
    ReadFollows b (found >>= fun x => .ok (f x.1, x.2)) (found' >>= fun x => .ok (f x.1, x.2)) :=
  h.bind fun _ _ _ _ htrims => of_ok htrims

end ReadFollows

private theorem toOption_orMalformed {α : Type} (found : Option α) :
    (Toml.orMalformed found).toOption = found := by
  cases found <;> rfl

private theorem Follows.orMalformed {α : Type} {b : Char} {found found' : Option (α × List Char)}
    (h : Follows b found found') :
    ReadFollows b (Toml.orMalformed found) (Toml.orMalformed found') := by
  rw [ReadFollows.iff_follows, toOption_orMalformed, toOption_orMalformed]
  exact h

/-- What is read of values with so much fuel follows what is read without the blank. -/
structure ValuesFollow (b : Char) (fuel : Nat) : Prop where
  value : ∀ {cs cs' fuel'}, Trims b cs cs' → 2 * cs'.length + 1 ≤ fuel' →
    ReadFollows b (readValue fuel cs) (readValue fuel' cs')
  items : ∀ {cs cs' fuel'}, Trims b cs cs' → 2 * cs'.length + 2 ≤ fuel' →
    ReadFollows b (readItems fuel cs) (readItems fuel' cs')
  pairs : ∀ {fields frozen cs cs' fuel'}, Trims b cs cs' → 2 * cs'.length + 2 ≤ fuel' →
    ReadFollows b (readPairs fuel fields frozen cs) (readPairs fuel' fields frozen cs')

section Values

variable {cs cs' : List Char} {fuel fuel' : Nat}

include hb

omit hb in
theorem Trims.of_append (front : List Char) {rest : List Char} (hfront : b ∉ front)
    (h : Trims b (front ++ rest) cs') : ∃ rest', cs' = front ++ rest' ∧ Trims b rest rest' := by
  induction front generalizing cs' with
  | nil => exact ⟨cs', rfl, h⟩
  | cons c front ih =>
    simp only [List.mem_cons, not_or] at hfront
    obtain ⟨more, rfl, hmore⟩ := h.of_cons hfront.1
    have hrest : Trims b (front ++ rest) more := by
      change front ++ rest = more ++ [b] at hmore
      rw [hmore]
      exact .blank more
    obtain ⟨rest', rfl, htrims⟩ := ih hfront.2 hrest
    exact ⟨rest', rfl, htrims⟩

private theorem notMem_of_visible {front : List Char}
    (hfront : front.all (decide <| Visible ·) = true) : b ∉ front := by
  intro hmem
  have hvisible : Visible b := of_decide_eq_true (List.all_eq_true.mp hfront b hmem)
  exact absurd rfl (hvisible.ne_of_isBlank hb)

private theorem ValuesFollow.itemsAfterLines (ih : ValuesFollow b fuel) {α : Type}
    (f : List Value → α) (cs : List Char) (hfuel : 2 * cs.length + 2 ≤ fuel') : ReadFollows b
      (orMalformed (skipLines? (cs ++ [b]).length (cs ++ [b])) >>= fun r =>
        readItems fuel r >>= fun x => .ok (f x.1, x.2))
      (orMalformed (skipLines? cs.length cs) >>= fun r =>
        readItems fuel' r >>= fun x => .ok (f x.1, x.2)) := by
  intro a rest h
  obtain ⟨r, hlines, h⟩ := bind_eq_ok_iff.mp h
  obtain ⟨r', hlines', htrims⟩ := skipLines?_trims hb (.blank cs) (Nat.le_refl _) (Nat.le_refl _)
    (orMalformed_eq_ok_iff.mp hlines)
  have hlength := (passes_skipLines? hlines').length_le
  have hitems : ReadFollows b (readItems fuel r) (readItems fuel' r') :=
    ih.items htrims (by omega)
  obtain ⟨rest', h', hrests⟩ := hitems.bind_ok f a rest h
  exact ⟨rest', bind_eq_ok_iff.mpr ⟨r', orMalformed_eq_ok_iff.mpr hlines', h'⟩, hrests⟩

private theorem ValuesFollow.inlineTable (ih : ValuesFollow b fuel) (cs : List Char)
    (hfuel : 2 * cs.length + 2 ≤ fuel') :
    ReadFollows b (readValue (fuel + 1) ('\x7b' :: (cs ++ [b])))
      (readValue (fuel' + 1) ('\x7b' :: cs)) := by
  have hspace := (Trims.blank (b := b) cs).skipSpace
  have hlength := (passes_skipSpace cs).length_le
  rw [readValue, readValue]
  intro v rest hv
  split at hv
  · next hend =>
    rw [hend] at hspace
    obtain ⟨rest', hend', rfl⟩ := hspace.of_visible hb (by decide)
    cases hv
    rw [hend']
    exact ⟨rest', rfl, .blank rest'⟩
  · next hne =>
    have hpairs : ReadFollows b (readPairs fuel [] [] (skipSpace (cs ++ [b])))
        (readPairs fuel' [] [] (skipSpace cs)) := ih.pairs hspace (by omega)
    split
    · next rest' hend => exact absurd hend (hspace.ne_cons hne rest')
    · exact hpairs.bind_ok (fun fields => Value.table fields) v rest hv

private theorem readScalar_follows (cs : List Char) :
    ReadFollows b (readScalar (cs ++ [b])) (readScalar cs) := by
  intro v rest h
  obtain ⟨hscalar, hexcess⟩ := readScalar_eq_ok_iff.mp h
  obtain ⟨rest', hscalar', htrims⟩ := Follows.of_eq (scalar?_concat hb cs) v rest hscalar
  refine ⟨rest', readScalar_eq_ok_iff.mpr ⟨hscalar', ?_⟩, htrims⟩
  rw [← hexcess]
  unfold excess?
  simp only [based?_concat hb, Option.isSome_map]

private theorem ValuesFollow.value_succ (ih : ValuesFollow b fuel) (h : Trims b cs cs')
    (hfuel : 2 * cs'.length ≤ fuel') :
    ReadFollows b (readValue (fuel + 1) cs) (readValue (fuel' + 1) cs') := by
  intro v rest hv
  have hleft := hv
  unfold readValue at hv
  split at hv
  · obtain ⟨more', rfl, rfl⟩ := h.of_visible hb (by decide)
    exact ((string?_follows hb ('"' :: more')).map
      fun s => Value.str (String.ofList s)).orMalformed v rest hv
  · obtain ⟨more', rfl, rfl⟩ := h.of_visible hb (by decide)
    exact ((string?_follows hb ('\'' :: more')).map
      fun s => Value.str (String.ofList s)).orMalformed v rest hv
  · obtain ⟨more', rfl, htrims⟩ :=
      Trims.of_append ['t', 'r', 'u', 'e'] (notMem_of_visible hb (by decide)) h
    cases hv
    exact ⟨more', rfl, htrims⟩
  · obtain ⟨more', rfl, htrims⟩ :=
      Trims.of_append ['f', 'a', 'l', 's', 'e'] (notMem_of_visible hb (by decide)) h
    cases hv
    exact ⟨more', rfl, htrims⟩
  · obtain ⟨more', rfl, rfl⟩ := h.of_visible hb (by decide)
    exact ih.itemsAfterLines hb (fun items => Value.arr items) more' hfuel v rest hv
  · obtain ⟨more', rfl, rfl⟩ := h.of_visible hb (by decide)
    exact ih.inlineTable hb more' hfuel v rest hleft
  · next hdouble hsingle htrue hfalse harray htable =>
    cases h with
    | done => cases hv
    | blank =>
      have hscalar : readValue (fuel' + 1) cs' = readScalar cs' := by
        unfold readValue
        split
        · exact absurd rfl (hdouble _)
        · exact absurd rfl (hsingle _)
        · exact absurd rfl (htrue _)
        · exact absurd rfl (hfalse _)
        · exact absurd rfl (harray _)
        · exact absurd rfl (htable _)
        · rfl
      rw [hscalar]
      exact readScalar_follows hb cs' v rest hv

private theorem ValuesFollow.items_succ (ih : ValuesFollow b fuel) (h : Trims b cs cs')
    (hfuel : 2 * cs'.length + 1 ≤ fuel') :
    ReadFollows b (readItems (fuel + 1) cs) (readItems (fuel' + 1) cs') := by
  intro vs rest hvs
  unfold readItems at hvs
  split at hvs
  · obtain ⟨more', rfl, rfl⟩ := h.of_visible hb (by decide)
    cases hvs
    exact ⟨more', rfl, .blank more'⟩
  · next hne =>
    obtain ⟨⟨v, r₁⟩, hv, hvs⟩ := bind_eq_ok_iff.mp hvs
    obtain ⟨r₂, hlines, hvs⟩ := bind_eq_ok_iff.mp hvs
    obtain ⟨r₁', hv', htrims⟩ := ih.value h hfuel v r₁ hv
    obtain ⟨r₂', hlines', htrims'⟩ := skipLines?_trims hb htrims (Nat.le_refl _) (Nat.le_refl _)
      (orMalformed_eq_ok_iff.mp hlines)
    have hlength := ((valuesPass _).value hv').length_le
    have hlength' := (passes_skipLines? hlines').length_le
    unfold readItems
    split
    · next more' => exact absurd rfl (h.ne_cons hne more')
    simp only [hv', hlines', orMalformed, bind, Except.bind]
    split at hvs
    · obtain ⟨more', rfl, rfl⟩ := htrims'.of_visible hb (by decide)
      cases hvs
      exact ⟨more', rfl, .blank more'⟩
    · obtain ⟨more', rfl, rfl⟩ := htrims'.of_visible hb (by decide)
      rw [List.length_cons] at hlength'
      exact ih.itemsAfterLines hb (fun vs => v :: vs) more' (by omega) vs rest hvs
    · cases hvs

private theorem ValuesFollow.pairs_succ (ih : ValuesFollow b fuel) {fields : Fields}
    {frozen : List Key} (h : Trims b cs cs') (hfuel : 2 * cs'.length + 1 ≤ fuel') :
    ReadFollows b (readPairs (fuel + 1) fields frozen cs)
      (readPairs (fuel' + 1) fields frozen cs') := by
  unfold readPairs
  refine (keyOfPair?_follows hb h).orMalformed.bind fun key r₁ r₁' hkey htrims => ?_
  have hlength := (passes_keyOfPair? (orMalformed_eq_ok_iff.mp hkey)).length_le
  refine (ih.value htrims (by omega : 2 * r₁'.length + 1 ≤ fuel')).bind
    fun v r₂ r₂' hv htrims' => ?_
  have hlength' := ((valuesPass _).value hv).length_le
  have hspace := htrims'.skipSpace
  have hlength'' := (passes_skipSpace r₂').length_le
  dsimp only
  split
  · exact ReadFollows.malformed
  intro fields' rest hpairs
  obtain ⟨fields₁, hupdate, hpairs⟩ := bind_eq_ok_iff.mp hpairs
  rw [hupdate]
  split at hpairs
  · next hend =>
    rw [hend] at hspace
    obtain ⟨rest', hend', rfl⟩ := hspace.of_visible hb (by decide)
    cases hpairs
    rw [hend']
    exact ⟨rest', rfl, .blank rest'⟩
  · next r₃ hcomma =>
    rw [hcomma] at hspace
    obtain ⟨r₃', hcomma', rfl⟩ := hspace.of_visible hb (by decide)
    rw [hcomma', List.length_cons] at hlength''
    have hlength₃ := (passes_skipSpace r₃').length_le
    rw [hcomma']
    exact ih.pairs (Trims.blank r₃').skipSpace (by omega) fields' rest hpairs
  · cases hpairs

private theorem valuesFollow (fuel : Nat) : ValuesFollow b fuel := by
  induction fuel with
  | zero => exact ⟨fun _ _ => .malformed, fun _ _ => .malformed, fun _ _ => .malformed⟩
  | succ fuel ih =>
    constructor
    · intro cs cs' fuel' h hfuel
      obtain ⟨fuel', rfl⟩ : ∃ n, fuel' = n + 1 := Nat.exists_eq_add_one.mpr (by omega)
      exact ih.value_succ hb h (by omega)
    · intro cs cs' fuel' h hfuel
      obtain ⟨fuel', rfl⟩ : ∃ n, fuel' = n + 1 := Nat.exists_eq_add_one.mpr (by omega)
      exact ih.items_succ hb h (by omega)
    · intro fields frozen cs cs' fuel' h hfuel
      obtain ⟨fuel', rfl⟩ : ∃ n, fuel' = n + 1 := Nat.exists_eq_add_one.mpr (by omega)
      exact ih.pairs_succ hb h (by omega)

end Values

/-! ## Statements -/

section Statements

variable {cs cs' : List Char} {d : Document}

include hb

private theorem headerKey_follows (cs : List Char) :
    Follows b (key? ((cs ++ [b]).length + 1) (skipSpace (cs ++ [b])))
      (key? (cs.length + 1) (skipSpace cs)) :=
  key?_follows hb (Trims.blank cs).skipSpace (Nat.lt_succ_of_le (passes_skipSpace cs).length_le)

private theorem readStatement_item_follows (d : Document) (cs : List Char) :
    ReadFollows b (readStatement d ('[' :: '[' :: (cs ++ [b])))
      (readStatement d ('[' :: '[' :: cs)) := by
  rw [readStatement, readStatement]
  refine (headerKey_follows hb cs).orMalformed.bind fun key r r' _ htrims => ?_
  dsimp only
  cases d.openItem? key with
  | none => exact ReadFollows.malformed
  | some d₁ =>
    intro d' rest h
    simp only [orMalformed, bind, Except.bind] at h ⊢
    split at h
    · cases h
      obtain ⟨rest', rfl, hrest⟩ :=
        Trims.of_append [']', ']'] (notMem_of_visible hb (by decide)) htrims
      exact ⟨rest', rfl, hrest⟩
    · cases h

omit hb in
private theorem readStatement_table {more : List Char}
    (hne : ∀ rest, more ≠ '[' :: rest) (d : Document) : readStatement d ('[' :: more) =
      orMalformed (key? (more.length + 1) (skipSpace more)) >>= fun x =>
        orMalformed (d.openTable? x.1) >>= fun d => match x.2 with
          | ']' :: rest => .ok (d, rest)
          | _ => .error .malformed := by
  rw [readStatement]
  · rfl
  · exact hne

private theorem readStatement_table_follows (d : Document) {cs : List Char}
    (hne : ∀ rest, cs ≠ '[' :: rest) :
    ReadFollows b (readStatement d ('[' :: (cs ++ [b]))) (readStatement d ('[' :: cs)) := by
  have hne' : ∀ rest, cs ++ [b] ≠ '[' :: rest :=
    Trims.concat_ne_cons (Visible.ne_of_isBlank (by decide) hb) hne
  rw [readStatement_table hne', readStatement_table hne]
  refine (headerKey_follows hb cs).orMalformed.bind fun key r r' _ htrims => ?_
  dsimp only
  cases d.openTable? key with
  | none => exact ReadFollows.malformed
  | some d₁ =>
    intro d' rest h
    simp only [orMalformed, bind, Except.bind] at h ⊢
    split at h
    · cases h
      obtain ⟨rest', rfl, rfl⟩ := htrims.of_visible hb (by decide)
      exact ⟨rest', rfl, .blank rest'⟩
    · cases h

omit hb in
theorem readStatement_pair (htable : ∀ more, cs ≠ '[' :: more)
    (hcomment : ∀ more, cs ≠ '#' :: more) (d : Document) : readStatement d cs =
      orMalformed (keyOfPair? cs) >>= fun x => readValue (2 * x.2.length + 2) x.2 >>= fun y =>
        orMalformed (d.assign? x.1 y.1) >>= fun d => .ok (d, y.2) := by
  rw [readStatement]
  · rfl
  · exact fun more => htable ('[' :: more)
  · exact htable
  · exact hcomment

private theorem readStatement_follows (d : Document) (h : Trims b cs cs') :
    ReadFollows b (readStatement d cs) (readStatement d cs') := by
  cases h with
  | done => exact ReadFollows.malformed
  | blank =>
    by_cases hitem : ∃ more, cs' = '[' :: '[' :: more
    · obtain ⟨more, rfl⟩ := hitem
      exact readStatement_item_follows hb d more
    by_cases htable : ∃ more, cs' = '[' :: more
    · obtain ⟨more, rfl⟩ := htable
      exact readStatement_table_follows hb d fun rest heq => hitem ⟨rest, by rw [heq]⟩
    by_cases hcomment : ∃ more, cs' = '#' :: more
    · obtain ⟨more, rfl⟩ := hcomment
      exact ReadFollows.of_ok (.blank ('#' :: more))
    have htable (more : List Char) : cs' ≠ '[' :: more := fun heq => htable ⟨more, heq⟩
    have hcomment (more : List Char) : cs' ≠ '#' :: more := fun heq => hcomment ⟨more, heq⟩
    rw [readStatement_pair htable hcomment,
      readStatement_pair (Trims.concat_ne_cons (Visible.ne_of_isBlank (by decide) hb) htable)
        (Trims.concat_ne_cons (Visible.ne_of_isBlank (by decide) hb) hcomment)]
    refine (keyOfPair?_follows hb (.blank cs')).orMalformed.bind fun key r r' _ htrims => ?_
    refine ((valuesFollow hb _).value htrims (Nat.le_succ _)).bind fun v r₁ r₁' _ htrims' => ?_
    dsimp only
    cases d.assign? key v with
    | none => exact ReadFollows.malformed
    | some d₁ => exact ReadFollows.of_ok htrims'

theorem readLines_trims {d' : Document} {fuel fuel' : Nat} (h : Trims b cs cs')
    (hfuel : cs'.length < fuel') (hlines : readLines d fuel cs = .ok d') :
    readLines d fuel' cs' = .ok d' := by
  induction fuel generalizing cs cs' d fuel' with
  | zero => cases hlines
  | succ fuel ih =>
    obtain ⟨fuel', rfl⟩ : ∃ n, fuel' = n + 1 := Nat.exists_eq_add_one.mpr (by omega)
    have hspace := h.skipSpace
    have hlength := (passes_skipSpace cs').length_le
    -- Either text is at the end of a line, or the blank was the line end.
    have hnext {d : Document} {more r' : List Char} (hr : Trims b ('\n' :: more) r')
        (hle : r'.length ≤ cs'.length) (hmore : readLines d fuel more = .ok d') :
        (∃ more', r' = '\n' :: more' ∧ readLines d fuel' more' = .ok d') ∨ r' = [] ∧ d = d' := by
      rcases hr.uncons with ⟨more', rfl, rfl⟩ | ⟨-, rfl, rfl⟩
      · rw [List.length_cons] at hle
        exact .inl ⟨more', rfl, ih (.blank more') (by omega) hmore⟩
      · cases fuel with
        | zero => cases hmore
        | succ fuel => exact .inr ⟨rfl, Except.ok.inj hmore⟩
    unfold readLines at hlines ⊢
    split at hlines
    · next hend =>
      rw [hend] at hspace
      rw [hspace.eq_nil]
      exact hlines
    · next more hfeed =>
      rw [hfeed] at hspace
      rcases hnext hspace hlength hlines with ⟨more', heq, hmore⟩ | ⟨heq, rfl⟩
      · rw [heq]
        exact hmore
      · rw [heq]
    · next hend hfeed =>
      obtain ⟨⟨d₁, r₁⟩, hstatement, hlines⟩ := bind_eq_ok_iff.mp hlines
      obtain ⟨r₂, hcomment, hlines⟩ := bind_eq_ok_iff.mp hlines
      obtain ⟨r₁', hstatement', htrims⟩ := readStatement_follows hb d hspace d₁ r₁ hstatement
      obtain ⟨r₂', hcomment', htrims'⟩ :=
        skipComment?_trims hb htrims.skipSpace (orMalformed_eq_ok_iff.mp hcomment)
      have hlength' := ((passes_readStatement hstatement').trans ((passes_skipSpace r₁').trans
        (passes_skipComment? hcomment'))).length_le
      split
      · next hend' =>
        -- A statement does not consist of the blank.
        rw [hend'] at hstatement'
        cases hstatement'
      · next more' hfeed' => exact absurd hfeed' (hspace.ne_cons hfeed more')
      simp only [hstatement', hcomment', orMalformed, bind, Except.bind]
      split at hlines
      · rw [htrims'.eq_nil]
        exact hlines
      · rcases hnext htrims' (by omega) hlines with ⟨more', rfl, hmore⟩ | ⟨rfl, rfl⟩
        · exact hmore
        · rfl
      · cases hlines

end Statements

end ClauseAudit.Toml
