import ClauseAudit.Proofs.Toml.Reader

/-!
# Reading beside a blank at the end

A text and the text with a blank more at its end are read side by side. As long as the end is not
reached, the rest of the one is the rest of the other and the blank behind it, and only spaces, line
ends and comments may pass the end.
-/

namespace ClauseAudit.Toml

/-- What is left of a text with a blank at its end, beside what is left of the text without it. -/
inductive Trims (b : Char) : List Char → List Char → Prop
  | blank (cs : List Char) : Trims b (cs ++ [b]) cs
  | done : Trims b [] []

namespace Trims

variable {b c : Char} {cs cs' rest : List Char}

theorem eq_nil (h : Trims b [] cs') : cs' = [] := by
  generalize hcs : ([] : List Char) = cs at h
  cases h with
  | blank => simp at hcs
  | done => rfl

theorem uncons (h : Trims b (c :: rest) cs') :
    (∃ rest', cs' = c :: rest' ∧ rest = rest' ++ [b]) ∨ c = b ∧ rest = [] ∧ cs' = [] := by
  generalize hcs : c :: rest = cs at h
  cases h with
  | blank =>
    cases cs' with
    | nil =>
      obtain ⟨rfl, rfl⟩ := List.cons.inj hcs
      exact .inr ⟨rfl, rfl, rfl⟩
    | cons d rest' =>
      obtain ⟨rfl, rfl⟩ := List.cons.inj hcs
      exact .inl ⟨rest', rfl, rfl⟩
  | done => cases hcs

theorem of_cons (h : Trims b (c :: rest) cs') (hc : b ≠ c) :
    ∃ rest', cs' = c :: rest' ∧ rest = rest' ++ [b] :=
  h.uncons.resolve_right fun hend => hc hend.1.symm

theorem of_visible (h : Trims b (c :: rest) cs') (hb : Text.isBlank b = true) (hc : Visible c) :
    ∃ rest', cs' = c :: rest' ∧ rest = rest' ++ [b] :=
  h.of_cons (hc.ne_of_isBlank hb)

theorem ne_cons (h : Trims b cs cs') (hne : ∀ rest, cs ≠ c :: rest) (rest' : List Char) :
    cs' ≠ c :: rest' := by
  rintro rfl
  cases h
  exact hne _ rfl

theorem concat_ne_cons (hc : b ≠ c) (hne : ∀ more, cs ≠ c :: more) (more : List Char) :
    cs ++ [b] ≠ c :: more := by
  intro heq
  have hcons : Trims b (c :: more) cs := heq ▸ .blank cs
  obtain ⟨more', hmore, _⟩ := hcons.of_cons hc
  exact hne more' hmore

/-- No pair of quotes comes about by the blank. -/
theorem concat_ne_pair {quote : Char} (hquote : b ≠ quote)
    (hne : ∀ more, cs ≠ quote :: quote :: more) (more : List Char) :
    cs ++ [b] ≠ quote :: quote :: more := by
  intro heq
  have hone : Trims b (quote :: quote :: more) cs := heq ▸ .blank cs
  obtain ⟨rest, rfl, hrest⟩ := hone.of_cons hquote
  have htwo : Trims b (quote :: more) rest := hrest ▸ .blank rest
  obtain ⟨rest', rfl, _⟩ := htwo.of_cons hquote
  exact hne rest' rfl

private theorem dropWhile (h : Trims b cs cs') (p : Char → Bool) :
    Trims b (cs.dropWhile p) (cs'.dropWhile p) := by
  cases h with
  | blank =>
    rw [List.dropWhile_append]
    split
    · next hnil =>
      rw [List.isEmpty_iff.mp hnil, List.dropWhile_cons]
      split
      · exact .done
      · exact .blank []
    · exact .blank _
  | done => exact .done

theorem skipSpace (h : Trims b cs cs') : Trims b (skipSpace cs) (skipSpace cs') := h.dropWhile _

private theorem dropLineEnd (h : Trims b cs cs') : Trims b (dropLineEnd cs) (dropLineEnd cs') := by
  cases h with
  | blank =>
    cases cs' with
    | nil =>
      by_cases hb : b = '\n'
      · rw [hb]
        exact .done
      · have hsame : Toml.dropLineEnd [b] = [b] := by simp [Toml.dropLineEnd, hb]
        rw [List.nil_append, hsame]
        exact .blank []
    | cons c rest =>
      by_cases hc : c = '\n'
      · rw [hc]
        exact .blank rest
      · have hsame (rest : List Char) : Toml.dropLineEnd (c :: rest) = c :: rest := by
          simp [Toml.dropLineEnd, hc]
        rw [List.cons_append, hsame, hsame]
        exact .blank (c :: rest)
  | done => exact .done

end Trims

/-- What is found with the blank is found without it. -/
def Follows {α : Type} (b : Char) (found found' : Option (α × List Char)) : Prop :=
  ∀ a rest, found = some (a, rest) → ∃ rest', found' = some (a, rest') ∧ Trims b rest rest'

namespace Follows

variable {α β : Type} {b : Char} {found found' : Option (α × List Char)}

theorem of_eq (h : found = found'.map (behind b)) : Follows b found found' := by
  intro a rest hfound
  rw [h] at hfound
  obtain ⟨⟨a', rest'⟩, hfound', heq⟩ := Option.map_eq_some_iff.mp hfound
  cases heq
  exact ⟨rest', hfound', .blank rest'⟩

theorem of_none (h : found = none) : Follows b found found' := by
  intro a rest hfound
  rw [h] at hfound
  cases hfound

theorem of_some {a : α} {rest rest' : List Char} (h : Trims b rest rest') :
    Follows b (some (a, rest)) (some (a, rest')) := by
  intro a' rest'' hfound
  cases hfound
  exact ⟨rest', rfl, h⟩

theorem map (h : Follows b found found') (f : α → β) :
    Follows b (found.map fun x => (f x.1, x.2)) (found'.map fun x => (f x.1, x.2)) := by
  intro v rest hfound
  obtain ⟨⟨a, r⟩, hleft, heq⟩ := Option.map_eq_some_iff.mp hfound
  cases heq
  obtain ⟨rest', hright, htrims⟩ := h a r hleft
  exact ⟨rest', by rw [hright]; rfl, htrims⟩

theorem bind {f f' : α × List Char → Option (β × List Char)} (h : Follows b found found')
    (hf : ∀ a rest rest', found' = some (a, rest') → Trims b rest rest' →
      Follows b (f (a, rest)) (f' (a, rest'))) : Follows b (found.bind f) (found'.bind f') := by
  intro v rest hfound
  obtain ⟨⟨a, r⟩, hleft, hmore⟩ := Option.bind_eq_some_iff.mp hfound
  obtain ⟨r', hright, htrims⟩ := h a r hleft
  rw [hright]
  exact hf a r r' hright htrims v rest hmore

theorem bind_some (h : Follows b found found') (f : α → β) :
    Follows b (found.bind fun x => some (f x.1, x.2)) (found'.bind fun x => some (f x.1, x.2)) :=
  h.bind fun _ _ _ _ htrims => of_some htrims

end Follows

variable {b : Char} (hb : Text.isBlank b = true)

/-! ## Space and comments -/

section Lines

variable {cs cs' rest : List Char}

theorem takeWhile_subset_append (p : Char → Bool) (cs ds : List Char) :
    cs.takeWhile p ⊆ (cs ++ ds).takeWhile p := by
  rw [List.takeWhile_append]
  split
  · exact fun c hc => List.mem_append_left _ (List.takeWhile_subset p hc)
  · exact fun c hc => hc

include hb

theorem skipComment?_trims (h : Trims b cs cs') (hcomment : skipComment? cs = some rest) :
    ∃ rest', skipComment? cs' = some rest' ∧ Trims b rest rest' := by
  unfold skipComment? at hcomment
  split at hcomment
  · next more =>
    obtain ⟨more', rfl, rfl⟩ := h.of_visible hb (by decide)
    dsimp only at hcomment
    split at hcomment
    · cases hcomment
    · next hbody =>
      cases hcomment
      have hbody' : ¬(more'.takeWhile (· != '\n')).any isControl = true := by
        intro hcontrol
        obtain ⟨c, hc, hcontrol⟩ := List.any_eq_true.mp hcontrol
        exact hbody (List.any_eq_true.mpr ⟨c, takeWhile_subset_append _ _ _ hc, hcontrol⟩)
      refine ⟨more'.dropWhile (· != '\n'), ?_, ?_⟩
      · rw [skipComment?, if_neg hbody', drop_length_takeWhile]
      · rw [drop_length_takeWhile]
        exact (Trims.blank more').dropWhile _
  · next hne =>
    cases hcomment
    refine ⟨cs', ?_, h⟩
    unfold skipComment?
    split
    · next rest' => exact absurd rfl (h.ne_cons hne rest')
    · rfl

omit hb in
private theorem skipLines?_of_ne {fuel : Nat} (hfuel : cs.length ≤ fuel)
    (hne : ∀ rest, cs.dropWhile isLayout ≠ '#' :: rest) :
    skipLines? fuel cs = some (cs.dropWhile isLayout) := by
  cases fuel with
  | zero =>
    rw [List.length_eq_zero_iff.mp (Nat.le_zero.mp hfuel)]
    rfl
  | succ fuel =>
    unfold skipLines?
    split
    · next more hcomment => exact absurd hcomment (hne more)
    · rfl

theorem skipLines?_trims {fuel fuel' : Nat} (h : Trims b cs cs') (hfuel : cs.length ≤ fuel)
    (hfuel' : cs'.length ≤ fuel') (hlines : skipLines? fuel cs = some rest) :
    ∃ rest', skipLines? fuel' cs' = some rest' ∧ Trims b rest rest' := by
  induction fuel generalizing cs cs' fuel' with
  | zero =>
    cases List.length_eq_zero_iff.mp (Nat.le_zero.mp hfuel)
    cases hlines
    cases h.eq_nil
    exact ⟨[], skipLines?_of_ne hfuel' (by simp), .done⟩
  | succ fuel ih =>
    have hdrop := h.dropWhile isLayout
    unfold skipLines? at hlines
    split at hlines
    · next more hcomment =>
      have hlength := (List.dropWhile_sublist (l := cs) isLayout).length_le
      have hlength' := (List.dropWhile_sublist (l := cs') isLayout).length_le
      rw [hcomment] at hdrop hlength
      obtain ⟨more', hcomment', rfl⟩ := hdrop.of_visible hb (by decide)
      rw [hcomment'] at hlength'
      rw [List.length_cons] at hlength hlength'
      obtain ⟨r, hskip, hlines⟩ := Option.bind_eq_some_iff.mp hlines
      obtain ⟨r', hskip', htrims⟩ := skipComment?_trims hb (.blank ('#' :: more')) hskip
      have hrest := (passes_comment hskip).length_le
      have hrest' := (passes_comment hskip').length_le
      obtain ⟨fuel', rfl⟩ : ∃ n, fuel' = n + 1 := Nat.exists_eq_add_one.mpr (by omega)
      obtain ⟨rest', hlines', hrests⟩ :=
        ih htrims (by omega) (by omega : r'.length ≤ fuel') hlines
      refine ⟨rest', ?_, hrests⟩
      unfold skipLines?
      rw [hcomment']
      exact Option.bind_eq_some_iff.mpr ⟨r', hskip', hlines'⟩
    · next hne =>
      cases hlines
      exact ⟨_, skipLines?_of_ne hfuel' (hdrop.ne_cons hne), hdrop⟩

end Lines

/-! ## Texts -/

section Texts

variable {cs cs' : List Char}

include hb

theorem codeEscape?_concat (width : Nat) (cs : List Char) :
    codeEscape? width (cs ++ [b]) = (codeEscape? width cs).map (behind b) := by
  have hok (ds : List Char) (h : (decide (ds.length = width) &&
      ds.all (fun c => (Text.hexValue? c).isSome) && (decide (inBase 16 ds < 0xD800) ||
        (decide (0xDFFF < inBase 16 ds) && decide (inBase 16 ds < 0x110000)))) = true) :
      ds.length = width ∧ ds.all (fun c => (Text.hexValue? c).isSome) = true := by
    simp only [Bool.and_eq_true, decide_eq_true_eq] at h
    exact h.1
  exact fixed_concat (IsDigits.hexadecimal.blank hb) hok (fun ds => Char.ofNat (inBase 16 ds)) cs

omit hb in
theorem escape?_cons {c : Char} (hu : c ≠ 'u') (hU : c ≠ 'U') (multiline : Bool)
    (rest : List Char) : escape? multiline (c :: rest) =
      if multiline && isLayout c then
        match if c == '\n' then '\n' :: rest else skipSpace rest with
        | [] => some ([], [])
        | '\n' :: rest => some ([], rest.dropWhile isLayout)
        | _ => none
      else (simpleEscape? c).map fun d => ([d], rest) := by
  conv_lhs => unfold escape?
  split
  · next heq => exact absurd (List.cons.inj heq).1 hu
  · next heq => exact absurd (List.cons.inj heq).1 hU
  · next heq =>
    cases heq
    rfl
  · next heq => cases heq

private theorem escape?_follows (multiline : Bool) (c : Char) (cs : List Char) :
    Follows b (escape? multiline (c :: (cs ++ [b]))) (escape? multiline (c :: cs)) := by
  by_cases hu : c = 'u'
  · subst hu
    exact (Follows.of_eq (codeEscape?_concat hb 4 cs)).map fun c => [c]
  by_cases hU : c = 'U'
  · subst hU
    exact (Follows.of_eq (codeEscape?_concat hb 8 cs)).map fun c => [c]
  rw [escape?_cons hu hU, escape?_cons hu hU]
  split
  · have hfront : Trims b (if c == '\n' then '\n' :: (cs ++ [b]) else skipSpace (cs ++ [b]))
        (if c == '\n' then '\n' :: cs else skipSpace cs) := by
      split
      · exact .blank ('\n' :: cs)
      · exact (Trims.blank cs).skipSpace
    intro part rest h
    split at h
    · next hend =>
      cases h
      rw [hend] at hfront
      rw [hfront.eq_nil]
      exact ⟨[], rfl, .done⟩
    · next more hfeed =>
      cases h
      rw [hfeed] at hfront
      rcases hfront.uncons with ⟨more', heq, rfl⟩ | ⟨-, rfl, heq⟩
      · rw [heq]
        exact ⟨_, rfl, (Trims.blank more').dropWhile _⟩
      · rw [heq]
        exact ⟨[], rfl, .done⟩
    · cases h
  · cases simpleEscape? c with
    | none => exact Follows.of_none rfl
    | some d => exact Follows.of_some (.blank cs)

omit hb in
private theorem escape?_singleton {multiline : Bool} {c : Char} {part rest : List Char}
    (h : escape? multiline [c] = some (part, rest)) : rest = [] := by
  by_cases hu : c = 'u'
  · subst hu
    cases h
  by_cases hU : c = 'U'
  · subst hU
    cases h
  rw [escape?_cons hu hU] at h
  split at h
  · by_cases hfeed : c = '\n'
    · subst hfeed
      cases h
      rfl
    · simp only [beq_eq_false_iff_ne.mpr hfeed] at h
      cases h
      rfl
  · obtain ⟨d, _, heq⟩ := Option.map_eq_some_iff.mp h
    cases heq
    rfl

omit hb in
theorem basicString?_nil (multiline : Bool) (fuel : Nat) :
    basicString? multiline fuel [] = none := by
  cases fuel with
  | zero => rfl
  | succ fuel => rfl

private theorem basicString?_blank (multiline : Bool) (fuel : Nat) :
    basicString? multiline fuel [b] = none := by
  have hquote : (b == '"') = false := beq_eq_false_iff_ne.mpr (Visible.ne_of_isBlank (by decide) hb)
  have hescape : (b == '\\') = false :=
    beq_eq_false_iff_ne.mpr (Visible.ne_of_isBlank (by decide) hb)
  cases fuel with
  | zero => rfl
  | succ fuel =>
    unfold basicString?
    simp only [hquote, hescape, basicString?_nil, Bool.false_eq_true, if_false, Option.map_none,
      ite_self]

omit hb in
private theorem basicString?_quote {rest : List Char} (hne : ∀ more, rest ≠ '"' :: '"' :: more)
    (fuel : Nat) :
    basicString? true (fuel + 1) ('"' :: rest) =
      (basicString? true fuel rest).map fun x => ('"' :: x.1, x.2) := by
  rw [basicString?]
  · rfl
  · exact hne

theorem basicString?_follows {multiline : Bool} {fuel fuel' : Nat} (h : Trims b cs cs')
    (hfuel : cs'.length < fuel') :
    Follows b (basicString? multiline fuel cs) (basicString? multiline fuel' cs') := by
  induction fuel generalizing cs cs' fuel' with
  | zero => exact Follows.of_none rfl
  | succ fuel ih =>
    obtain ⟨fuel', rfl⟩ : ∃ n, fuel' = n + 1 := Nat.exists_eq_add_one.mpr (by omega)
    cases h with
    | done => exact Follows.of_none (basicString?_nil _ _)
    | blank =>
      cases cs' with
      | nil => exact Follows.of_none (basicString?_blank hb _ _)
      | cons c rest =>
        rw [List.length_cons] at hfuel
        have hmore : Follows b (basicString? multiline fuel (rest ++ [b]))
            (basicString? multiline fuel' rest) := ih (.blank rest) (by omega)
        by_cases hquote : c = '"'
        · subst hquote
          cases multiline with
          | false => exact Follows.of_some (.blank rest)
          | true =>
            by_cases hclose : ∃ more, rest = '"' :: '"' :: more
            · obtain ⟨more, rfl⟩ := hclose
              exact Follows.of_some (.blank more)
            · have hne (more : List Char) : rest ≠ '"' :: '"' :: more :=
                fun heq => hclose ⟨more, heq⟩
              have hne' (more : List Char) : rest ++ [b] ≠ '"' :: '"' :: more :=
                Trims.concat_ne_pair (Visible.ne_of_isBlank (by decide) hb) hne more
              rw [List.cons_append, basicString?_quote hne', basicString?_quote hne]
              exact hmore.map _
        unfold basicString?
        simp only [List.cons_append, beq_eq_false_iff_ne.mpr hquote, Bool.false_eq_true, if_false]
        split
        · -- An escape that the blank alone is left for is not followed by the closing quotes.
          cases rest with
          | nil =>
            intro s rest hs
            obtain ⟨⟨part, r⟩, hpart, hs⟩ := Option.bind_eq_some_iff.mp hs
            cases escape?_singleton hpart
            rw [basicString?_nil] at hs
            cases hs
          | cons c rest =>
            refine (escape?_follows hb multiline c rest).bind fun part r r' hpart htrims => ?_
            have hlength := (passes_escape? hpart).length_le
            simp only [List.length_cons] at hfuel hlength
            have hbody : Follows b (basicString? multiline fuel r)
                (basicString? multiline fuel' r') := ih htrims (by omega)
            exact hbody.bind_some fun s => part ++ s
        split
        · exact Follows.of_none rfl
        · exact hmore.map _

theorem literalString?_concat (cs : List Char) :
    literalString? (cs ++ [b]) = (literalString? cs).map (behind b) := by
  have hquote : (b != '\'') = true := bne_iff_ne.mpr (Visible.ne_of_isBlank (by decide) hb)
  unfold literalString?
  simp only [drop_length_takeWhile]
  cases hdrop : cs.dropWhile (· != '\'') with
  | nil =>
    rw [List.dropWhile_append, hdrop]
    simp [hquote]
  | cons quote rest =>
    have hne : (cs.takeWhile (· != '\'')).length ≠ cs.length := by
      intro hlength
      have hsplit :=
        congrArg List.length (List.takeWhile_append_dropWhile (p := (· != '\'')) (l := cs))
      rw [hdrop, List.length_append, List.length_cons] at hsplit
      omega
    rw [List.dropWhile_append, hdrop, List.takeWhile_append, if_neg hne]
    simp only [List.isEmpty_cons, Bool.false_eq_true, if_false, List.cons_append]
    split
    · rfl
    · rfl

omit hb in
theorem literalLines?_cons {c : Char} {rest : List Char}
    (hne : ∀ more, c = '\'' → rest ≠ '\'' :: '\'' :: more) :
    literalLines? (c :: rest) = if isControl c && c != '\n' then none
      else (literalLines? rest).map fun x => (c :: x.1, x.2) := by
  rw [literalLines?]
  exact hne

theorem literalLines?_concat (cs : List Char) :
    literalLines? (cs ++ [b]) = (literalLines? cs).map (behind b) := by
  have hquote : b ≠ '\'' := Visible.ne_of_isBlank (by decide) hb
  have hne' {c : Char} {rest : List Char}
      (hne : ∀ more, c = '\'' → rest = '\'' :: '\'' :: more → False) (more : List Char)
      (hc : c = '\'') : rest ++ [b] ≠ '\'' :: '\'' :: more :=
    Trims.concat_ne_pair hquote (fun more => hne more hc) more
  fun_induction literalLines? cs with
  | case1 =>
    rw [List.nil_append, literalLines?_cons fun _ hb => absurd hb hquote]
    simp [literalLines?]
  | case2 rest => rfl
  | case3 c rest hne hcontrol =>
    rw [List.cons_append, literalLines?_cons (hne' hne), if_pos hcontrol]
    rfl
  | case4 c rest hne hcontrol ih =>
    rw [List.cons_append, literalLines?_cons (hne' hne), if_neg hcontrol, ih, Option.map_map,
      Option.map_map]
    rfl

private theorem literalLines?_follows (h : Trims b cs cs') :
    Follows b (literalLines? cs) (literalLines? cs') := by
  cases h with
  | blank => exact Follows.of_eq (literalLines?_concat hb cs')
  | done => exact Follows.of_none rfl

theorem moreQuotes_concat {quote : Char} (hquote : Visible quote) (s cs : List Char) :
    moreQuotes quote s (cs ++ [b]) = behind b (moreQuotes quote s cs) := by
  have hb' : (b == quote) = false := beq_eq_false_iff_ne.mpr (hquote.ne_of_isBlank hb)
  rcases cs with _ | ⟨c, _ | ⟨d, rest⟩⟩
  · simp [moreQuotes, hb', behind]
  · cases hc : c == quote <;> simp [moreQuotes, hb', hc, behind]
  · simp only [moreQuotes, List.cons_append]
    split
    · rfl
    · split
      · rfl
      · rfl

private theorem moreQuotes_follows {quote : Char} (hquote : Visible quote) (s : List Char)
    (h : Trims b cs cs') :
    Follows b (some (moreQuotes quote s cs)) (some (moreQuotes quote s cs')) := by
  cases h with
  | blank =>
    rw [moreQuotes_concat hb hquote]
    exact Follows.of_some (.blank _)
  | done => exact Follows.of_some .done

omit hb in
private theorem string?_basic {rest : List Char} (hne : ∀ more, rest ≠ '"' :: '"' :: more) :
    string? ('"' :: rest) = basicString? false (rest.length + 1) rest := by
  rw [string?]
  exact hne

omit hb in
private theorem string?_literal {rest : List Char} (hne : ∀ more, rest ≠ '\'' :: '\'' :: more) :
    string? ('\'' :: rest) = literalString? rest := by
  rw [string?]
  exact hne

theorem string?_follows (cs : List Char) : Follows b (string? (cs ++ [b])) (string? cs) := by
  have hdouble : b ≠ '"' := Visible.ne_of_isBlank (by decide) hb
  have hsingle : b ≠ '\'' := Visible.ne_of_isBlank (by decide) hb
  cases cs with
  | nil => exact Follows.of_none (by simp [string?, hdouble, hsingle])
  | cons c rest =>
    by_cases hc : c = '"'
    · subst hc
      by_cases hlines : ∃ more, rest = '"' :: '"' :: more
      · obtain ⟨more, rfl⟩ := hlines
        have hfuel := (passes_dropLineEnd more).length_le
        have hbody : Follows b
            (basicString? true ((more ++ [b]).length + 1) (dropLineEnd (more ++ [b])))
            (basicString? true (more.length + 1) (dropLineEnd more)) :=
          basicString?_follows hb (Trims.blank more).dropLineEnd (by omega)
        simp only [List.cons_append, string?, Option.map_eq_bind]
        exact hbody.bind fun s _ _ _ htrims => moreQuotes_follows hb (by decide) s htrims
      · have hne (more : List Char) : rest ≠ '"' :: '"' :: more := fun heq => hlines ⟨more, heq⟩
        rw [List.cons_append, string?_basic hne, string?_basic (Trims.concat_ne_pair hdouble hne)]
        exact basicString?_follows hb (.blank rest) (by omega)
    by_cases hc' : c = '\''
    · subst hc'
      by_cases hlines : ∃ more, rest = '\'' :: '\'' :: more
      · obtain ⟨more, rfl⟩ := hlines
        have hbody : Follows b (literalLines? (dropLineEnd (more ++ [b])))
            (literalLines? (dropLineEnd more)) :=
          literalLines?_follows hb (Trims.blank more).dropLineEnd
        simp only [List.cons_append, string?, Option.map_eq_bind]
        exact hbody.bind fun s _ _ _ htrims => moreQuotes_follows hb (by decide) s htrims
      · have hne (more : List Char) : rest ≠ '\'' :: '\'' :: more := fun heq => hlines ⟨more, heq⟩
        rw [List.cons_append, string?_literal hne,
          string?_literal (Trims.concat_ne_pair hsingle hne)]
        exact Follows.of_eq (literalString?_concat hb rest)
    · exact Follows.of_none (by simp [string?, hc, hc'])

end Texts

end ClauseAudit.Toml
