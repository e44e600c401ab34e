import ClauseAudit.Proofs.Outcome
import ClauseAudit.Proofs.Toml.Scalar

/-!
# Reading documents

What is passed of a document holds no carriage return, so that a document has none.
-/

namespace ClauseAudit.Toml

variable {cs rest : List Char}

/-! ## Space and comments -/

theorem passes_skipSpace (cs : List Char) : Passes cs (skipSpace cs) :=
  Passes.dropWhile (by decide) cs

private theorem return_notMem_of_controls {cs : List Char} (h : cs.any isControl = false) :
    '\r' ∉ cs := by
  intro hmem
  have hcontrol := List.any_eq_false.mp h _ hmem
  exact hcontrol (by decide)

theorem passes_comment {more : List Char} (h : skipComment? ('#' :: more) = some rest) :
    Passes more rest := by
  rw [skipComment?] at h
  split at h
  · cases h
  · next hbody =>
    cases h
    exact Passes.drop_takeWhile (return_notMem_of_controls (Bool.not_eq_true _ ▸ hbody))

theorem passes_skipComment? (h : skipComment? cs = some rest) : Passes cs rest := by
  by_cases hcomment : ∃ more, cs = '#' :: more
  · obtain ⟨more, rfl⟩ := hcomment
    exact (passes_comment h).cons (by decide)
  · unfold skipComment? at h
    split at h
    · next more => exact absurd ⟨more, rfl⟩ hcomment
    · cases h
      exact Passes.refl _

theorem passes_skipLines? {fuel : Nat} (h : skipLines? fuel cs = some rest) : Passes cs rest := by
  induction fuel generalizing cs with
  | zero =>
    cases h
    exact Passes.refl _
  | succ fuel ih =>
    refine (Passes.dropWhile (p := isLayout) (by decide) cs).trans ?_
    rw [skipLines?] at h
    split at h
    · next hdrop =>
      obtain ⟨r₁, hcomment, h⟩ := Option.bind_eq_some_iff.mp h
      rw [hdrop]
      exact (passes_skipComment? hcomment).trans (ih h)
    · cases h
      exact Passes.refl _

/-! ## Texts -/

section Texts

variable {s : List Char}

private theorem passes_codeEscape? {width : Nat} {c : Char}
    (h : codeEscape? width cs = some (c, rest)) : Passes cs rest := by
  unfold codeEscape? at h
  dsimp only at h
  split at h
  · next hcode =>
    cases h
    simp only [Bool.and_eq_true] at hcode
    exact Passes.drop (IsDigits.hexadecimal.return_notMem hcode.1.2)
  · cases h

theorem passes_escape? {multiline : Bool} (h : escape? multiline cs = some (s, rest)) :
    Passes cs rest := by
  unfold escape? at h
  split at h
  · obtain ⟨⟨c, r₁⟩, hcode, heq⟩ := Option.map_eq_some_iff.mp h
    cases heq
    exact (passes_codeEscape? hcode).cons (by decide)
  · obtain ⟨⟨c, r₁⟩, hcode, heq⟩ := Option.map_eq_some_iff.mp h
    cases heq
    exact (passes_codeEscape? hcode).cons (by decide)
  · next c more _ _ =>
    split at h
    · next hspace =>
      have hc : c ≠ '\r' := by
        rintro rfl
        rw [Bool.and_eq_true] at hspace
        cases hspace.2
      have hfront : Passes (c :: more) (if c == '\n' then '\n' :: more else skipSpace more) := by
        split
        · next hfeed =>
          rw [eq_of_beq hfeed]
        · exact (passes_skipSpace more).cons hc
      refine hfront.trans ?_
      split at h
      · next hend =>
        cases h
        rw [hend]
      · next r₁ hfeed =>
        cases h
        rw [hfeed]
        exact (Passes.dropWhile (by decide) r₁).cons (by decide)
      · cases h
    · obtain ⟨d, hsimple, heq⟩ := Option.map_eq_some_iff.mp h
      cases heq
      refine (Passes.refl _).cons ?_
      rintro rfl
      cases hsimple
  · cases h

private theorem passes_basicString? {multiline : Bool} {fuel : Nat}
    (h : basicString? multiline fuel cs = some (s, rest)) : Passes cs rest := by
  induction fuel generalizing cs s with
  | zero => cases h
  | succ fuel ih =>
    cases cs with
    | nil => cases h
    | cons c cs =>
      unfold basicString? at h
      split at h
      · next hquote =>
        have hc : c ≠ '\r' := by
          rintro rfl
          cases hquote
        refine Passes.cons hc ?_
        split at h
        · cases h
          exact Passes.refl _
        split at h
        · cases h
          exact ((Passes.refl _).cons (by decide)).cons (by decide)
        · obtain ⟨⟨more, r₁⟩, hmore, heq⟩ := Option.map_eq_some_iff.mp h
          cases heq
          exact ih hmore
      split at h
      · next hescape =>
        have hc : c ≠ '\r' := by
          rintro rfl
          cases hescape
        obtain ⟨⟨part, r₁⟩, hpart, h⟩ := Option.bind_eq_some_iff.mp h
        obtain ⟨⟨more, r₂⟩, hmore, h⟩ := Option.bind_eq_some_iff.mp h
        cases h
        exact ((passes_escape? hpart).trans (ih hmore)).cons hc
      split at h
      · cases h
      · next hcontrol =>
        have hc : c ≠ '\r' := by
          rintro rfl
          cases multiline <;> exact hcontrol (by decide)
        obtain ⟨⟨more, r₁⟩, hmore, heq⟩ := Option.map_eq_some_iff.mp h
        cases heq
        exact (ih hmore).cons hc

private theorem passes_literalString? (h : literalString? cs = some (s, rest)) :
    Passes cs rest := by
  unfold literalString? at h
  dsimp only at h
  split at h
  · next quote more hdrop =>
    split at h
    · cases h
    · next hbody =>
      cases h
      have hread := return_notMem_of_controls (Bool.not_eq_true _ ▸ hbody)
      have hquote : quote ≠ '\r' := by
        have hhead := List.head?_dropWhile_not (· != '\'') cs
        rw [← drop_length_takeWhile, hdrop] at hhead
        rintro rfl
        cases hhead
      refine (Passes.drop_takeWhile hread).trans ?_
      rw [hdrop]
      exact (Passes.refl _).cons hquote
  · cases h

private theorem passes_literalLines? (h : literalLines? cs = some (s, rest)) : Passes cs rest := by
  fun_induction literalLines? cs generalizing s with
  | case1 => cases h
  | case2 more =>
    cases h
    exact (((Passes.refl _).cons (by decide)).cons (by decide)).cons (by decide)
  | case3 => cases h
  | case4 c cs hne hcontrol ih =>
    obtain ⟨⟨more, r₁⟩, hmore, heq⟩ := Option.map_eq_some_iff.mp h
    cases heq
    refine (ih hmore).cons ?_
    rintro rfl
    exact hcontrol (by decide)

private theorem passes_moreQuotes {quote : Char} (hquote : quote ≠ '\r') (s cs : List Char) :
    Passes cs (moreQuotes quote s cs).2 := by
  have hc {c : Char} (h : (c == quote) = true) : c ≠ '\r' := by
    rw [eq_of_beq h]
    exact hquote
  unfold moreQuotes
  split
  · split
    · next hboth =>
      rw [Bool.and_eq_true] at hboth
      exact ((Passes.refl _).cons (hc hboth.2)).cons (hc hboth.1)
    · split
      · next hone => exact (Passes.refl _).cons (hc hone)
      · exact Passes.refl _
  · split
    · next hone => exact (Passes.refl _).cons (hc hone)
    · exact Passes.refl _
  · exact Passes.refl _

theorem passes_dropLineEnd (cs : List Char) : Passes cs (dropLineEnd cs) := by
  unfold dropLineEnd
  split
  · exact (Passes.refl _).cons (by decide)
  · exact Passes.refl _

private theorem passes_string? (h : string? cs = some (s, rest)) : Passes cs rest := by
  unfold string? at h
  split at h
  · obtain ⟨⟨body, r₁⟩, hbody, heq⟩ := Option.map_eq_some_iff.mp h
    change moreQuotes '"' body r₁ = (s, rest) at heq
    have hmore := passes_moreQuotes (by decide : '"' ≠ '\r') body r₁
    rw [heq] at hmore
    have hread := (passes_dropLineEnd _).trans ((passes_basicString? hbody).trans hmore)
    exact ((hread.cons (by decide)).cons (by decide)).cons (by decide)
  · exact (passes_basicString? h).cons (by decide)
  · obtain ⟨⟨body, r₁⟩, hbody, heq⟩ := Option.map_eq_some_iff.mp h
    change moreQuotes '\'' body r₁ = (s, rest) at heq
    have hmore := passes_moreQuotes (by decide : '\'' ≠ '\r') body r₁
    rw [heq] at hmore
    have hread := (passes_dropLineEnd _).trans ((passes_literalLines? hbody).trans hmore)
    exact ((hread.cons (by decide)).cons (by decide)).cons (by decide)
  · exact (passes_literalString? h).cons (by decide)
  · cases h

end Texts

/-! ## Keys -/

theorem passes_keyPart? {part : String} (h : keyPart? cs = some (part, rest)) : Passes cs rest := by
  unfold keyPart? at h
  split at h
  · obtain ⟨⟨s, r₁⟩, hs, heq⟩ := Option.map_eq_some_iff.mp h
    cases heq
    exact (passes_literalString? hs).cons (by decide)
  · obtain ⟨⟨s, r₁⟩, hs, heq⟩ := Option.map_eq_some_iff.mp h
    cases heq
    exact (passes_basicString? hs).cons (by decide)
  · dsimp only at h
    split at h
    · cases h
    · cases h
      refine Passes.drop_takeWhile ?_
      intro hmem
      exact (visible_of_isBareKey (List.mem_takeWhile_imp hmem)).ne_return rfl

private theorem passes_key? {fuel : Nat} {key : Key} (h : key? fuel cs = some (key, rest)) :
    Passes cs rest := by
  induction fuel generalizing cs key with
  | zero => cases h
  | succ fuel ih =>
    obtain ⟨⟨part, r₁⟩, hpart, h⟩ := Option.bind_eq_some_iff.mp h
    refine (passes_keyPart? hpart).trans ((passes_skipSpace r₁).trans ?_)
    dsimp only at h
    split at h
    · next r₂ hdot =>
      obtain ⟨⟨more, r₃⟩, hmore, h⟩ := Option.bind_eq_some_iff.mp h
      cases h
      rw [hdot]
      exact ((passes_skipSpace r₂).trans (ih hmore)).cons (by decide)
    · cases h
      exact Passes.refl _

theorem passes_keyOfPair? {key : Key} (h : keyOfPair? cs = some (key, rest)) : Passes cs rest := by
  obtain ⟨⟨key', r₁⟩, hkey, h⟩ := Option.bind_eq_some_iff.mp h
  refine (passes_key? hkey).trans ?_
  dsimp only at h
  split at h
  · cases h
    exact (passes_skipSpace _).cons (by decide)
  · cases h

/-! ## Values -/

theorem orMalformed_eq_ok_iff {α : Type} {found : Option α} {a : α} :
    orMalformed found = .ok a ↔ found = some a := by
  cases found <;> simp [orMalformed]

theorem readScalar_eq_ok_iff {v : Value} :
    readScalar cs = .ok (v, rest) ↔ scalar? cs = some (v, rest) ∧ excess? cs v = none := by
  rw [readScalar, bind_eq_ok_iff]
  constructor
  · rintro ⟨⟨v', rest'⟩, hscalar, h⟩
    dsimp only at h
    split at h
    · cases h
    · next hexcess =>
      cases h
      exact ⟨orMalformed_eq_ok_iff.mp hscalar, hexcess⟩
  · rintro ⟨hscalar, hexcess⟩
    refine ⟨(v, rest), orMalformed_eq_ok_iff.mpr hscalar, ?_⟩
    simp only [hexcess]
    rfl

/-- What is passed by the readers of values with so much fuel. -/
structure ValuesPass (fuel : Nat) : Prop where
  value : ∀ {cs v rest}, readValue fuel cs = .ok (v, rest) → Passes cs rest
  items : ∀ {cs vs rest}, readItems fuel cs = .ok (vs, rest) → Passes cs rest
  pairs : ∀ {fields frozen cs fields' rest},
    readPairs fuel fields frozen cs = .ok (fields', rest) → Passes cs rest

private theorem ValuesPass.value_succ {fuel : Nat} (ih : ValuesPass fuel) {v : Value}
    (h : readValue (fuel + 1) cs = .ok (v, rest)) : Passes cs rest := by
  unfold readValue at h
  split at h
  · obtain ⟨⟨s, r₁⟩, hs, heq⟩ := Option.map_eq_some_iff.mp (orMalformed_eq_ok_iff.mp h)
    cases heq
    exact passes_string? hs
  · obtain ⟨⟨s, r₁⟩, hs, heq⟩ := Option.map_eq_some_iff.mp (orMalformed_eq_ok_iff.mp h)
    cases heq
    exact passes_string? hs
  · cases h
    exact ((((Passes.refl _).cons (by decide)).cons (by decide)).cons (by decide)).cons (by decide)
  · cases h
    exact (((((Passes.refl _).cons (by decide)).cons (by decide)).cons (by decide)).cons
      (by decide)).cons (by decide)
  · obtain ⟨r₁, hlines, h⟩ := bind_eq_ok_iff.mp h
    obtain ⟨⟨items, r₂⟩, hitems, h⟩ := bind_eq_ok_iff.mp h
    cases h
    exact ((passes_skipLines? (orMalformed_eq_ok_iff.mp hlines)).trans (ih.items hitems)).cons
      (by decide)
  · next more =>
    refine Passes.cons (by decide) ((passes_skipSpace more).trans ?_)
    split at h
    · next hend =>
      cases h
      rw [hend]
      exact (Passes.refl _).cons (by decide)
    · obtain ⟨⟨fields, r₁⟩, hpairs, h⟩ := bind_eq_ok_iff.mp h
      cases h
      exact ih.pairs hpairs
  · exact passes_scalar? (readScalar_eq_ok_iff.mp h).1

private theorem ValuesPass.items_succ {fuel : Nat} (ih : ValuesPass fuel) {vs : List Value}
    (h : readItems (fuel + 1) cs = .ok (vs, rest)) : Passes cs rest := by
  unfold readItems at h
  split at h
  · cases h
    exact (Passes.refl _).cons (by decide)
  · obtain ⟨⟨v, r₁⟩, hv, h⟩ := bind_eq_ok_iff.mp h
    obtain ⟨r₂, hlines, h⟩ := bind_eq_ok_iff.mp h
    refine (ih.value hv).trans ((passes_skipLines? (orMalformed_eq_ok_iff.mp hlines)).trans ?_)
    split at h
    · cases h
      exact (Passes.refl _).cons (by decide)
    · obtain ⟨r₃, hlines', h⟩ := bind_eq_ok_iff.mp h
      obtain ⟨⟨more, r₄⟩, hmore, h⟩ := bind_eq_ok_iff.mp h
      cases h
      exact ((passes_skipLines? (orMalformed_eq_ok_iff.mp hlines')).trans (ih.items hmore)).cons
        (by decide)
    · cases h

private theorem ValuesPass.pairs_succ {fuel : Nat} (ih : ValuesPass fuel) {fields fields' : Fields}
    {frozen : List Key} (h : readPairs (fuel + 1) fields frozen cs = .ok (fields', rest)) :
    Passes cs rest := by
  unfold readPairs at h
  obtain ⟨⟨key, r₁⟩, hkey, h⟩ := bind_eq_ok_iff.mp h
  obtain ⟨⟨v, r₂⟩, hv, h⟩ := bind_eq_ok_iff.mp h
  refine (passes_keyOfPair? (orMalformed_eq_ok_iff.mp hkey)).trans
    ((ih.value hv).trans ((passes_skipSpace r₂).trans ?_))
  obtain ⟨_, h⟩ := refused_eq_ok_iff.mp h
  obtain ⟨fields₁, _, h⟩ := bind_eq_ok_iff.mp h
  split at h
  · next hend =>
    cases h
    rw [hend]
    exact (Passes.refl _).cons (by decide)
  · next r₃ hcomma =>
    rw [hcomma]
    exact ((passes_skipSpace r₃).trans (ih.pairs h)).cons (by decide)
  · cases h

theorem valuesPass (fuel : Nat) : ValuesPass fuel := by
  induction fuel with
  | zero =>
    constructor
    · intro cs v rest h
      cases h
    · intro cs vs rest h
      cases h
    · intro fields frozen cs fields' rest h
      cases h
  | succ fuel ih => exact ⟨ih.value_succ, ih.items_succ, ih.pairs_succ⟩

/-! ## Statements -/

theorem passes_readStatement {d d' : Document} (h : readStatement d cs = .ok (d', rest)) :
    Passes cs rest := by
  unfold readStatement at h
  split at h
  · next more =>
    obtain ⟨⟨key, r₁⟩, hkey, h⟩ := bind_eq_ok_iff.mp h
    obtain ⟨d₁, _, h⟩ := bind_eq_ok_iff.mp h
    have hread := (passes_skipSpace more).trans (passes_key? (orMalformed_eq_ok_iff.mp hkey))
    refine ((hread.trans ?_).cons (by decide)).cons (by decide)
    split at h
    · cases h
      exact ((Passes.refl _).cons (by decide)).cons (by decide)
    · cases h
  · next more _ =>
    obtain ⟨⟨key, r₁⟩, hkey, h⟩ := bind_eq_ok_iff.mp h
    obtain ⟨d₁, _, h⟩ := bind_eq_ok_iff.mp h
    have hread := (passes_skipSpace more).trans (passes_key? (orMalformed_eq_ok_iff.mp hkey))
    refine (hread.trans ?_).cons (by decide)
    split at h
    · cases h
      exact (Passes.refl _).cons (by decide)
    · cases h
  · cases h
    exact Passes.refl _
  · obtain ⟨⟨key, r₁⟩, hkey, h⟩ := bind_eq_ok_iff.mp h
    obtain ⟨⟨v, r₂⟩, hv, h⟩ := bind_eq_ok_iff.mp h
    obtain ⟨d₁, _, h⟩ := bind_eq_ok_iff.mp h
    cases h
    exact (passes_keyOfPair? (orMalformed_eq_ok_iff.mp hkey)).trans ((valuesPass _).value hv)

/-- A document is passed as a whole. -/
theorem passes_readLines {d d' : Document} {fuel : Nat} (h : readLines d fuel cs = .ok d') :
    Passes cs [] := by
  induction fuel generalizing cs d with
  | zero => cases h
  | succ fuel ih =>
    refine (passes_skipSpace cs).trans ?_
    unfold readLines at h
    split at h
    · next hend => rw [hend]
    · next more hfeed =>
      rw [hfeed]
      exact (ih h).cons (by decide)
    · obtain ⟨⟨d₁, r₁⟩, hstatement, h⟩ := bind_eq_ok_iff.mp h
      obtain ⟨r₂, hcomment, h⟩ := bind_eq_ok_iff.mp h
      refine (passes_readStatement hstatement).trans ((passes_skipSpace r₁).trans
        ((passes_skipComment? (orMalformed_eq_ok_iff.mp hcomment)).trans ?_))
      split at h
      · exact Passes.refl _
      · exact (ih h).cons (by decide)
      · cases h

theorem return_notMem_of_readLines {d d' : Document} {fuel : Nat}
    (h : readLines d fuel cs = .ok d') : '\r' ∉ cs := by
  obtain ⟨read, hread, rfl⟩ := passes_readLines h
  rwa [List.append_nil]

end ClauseAudit.Toml
