import ClauseAudit.Proofs.Rule.Literal

/-!
# Flag letters as a set

Letters are read one by one, each against those before it. What comes out depends only on which
letters there are: it is the set of them, written as the union of their bits. What goes wrong is
decided by the first letter that cannot be read.
-/

namespace ClauseAudit.Flags

def Readable (cs : List Char) : Prop := cs.Nodup ∧ ∀ c ∈ cs, c ∈ letters

def turnOn (f : Flags) (cs : List Char) : Flags where
  ignoreCase := f.ignoreCase || cs.contains 'i'
  multiline := f.multiline || cs.contains 'm'
  dotAll := f.dotAll || cs.contains 's'
  unicode := f.unicode || cs.contains 'u'

def letterBit : Char → Nat
  | 'i' => 2
  | 'm' => 8
  | 's' => 16
  | 'u' => 32
  | _ => 0

def unionBits (cs : List Char) : Nat := (cs.map letterBit).foldr (· ||| ·) 0

/-- What is wrong with a letter after others. -/
def fault? (seen : List Char) (c : Char) : Option FlagFault :=
  if c ∈ seen then some (.repeated c)
  else if c ∈ foreignLetters then some (.unsupported c)
  else if c ∈ letters then none
  else some (.unknown c)

section Reading

variable {f g : Flags} {seen cs : List Char} {c : Char}

private theorem add?_eq_some_iff : f.add? c = some g ↔ c ∈ letters ∧ g = f.turnOn [c] := by
  constructor
  · intro h
    refine ⟨exists_add?_iff.mp ⟨g, h⟩, ?_⟩
    unfold add? at h
    split at h <;> cases h <;> simp [turnOn]
  · rintro ⟨hc, rfl⟩
    simp only [letters, List.mem_cons, List.not_mem_nil, or_false] at hc
    rcases hc with rfl | rfl | rfl | rfl <;> simp [add?, turnOn]

theorem turnOn_cons : f.turnOn (c :: cs) = (f.turnOn [c]).turnOn cs := by
  simp [turnOn, Bool.or_assoc]

private theorem fault?_eq_none_iff : fault? seen c = none ↔ c ∈ letters ∧ c ∉ seen := by
  rw [fault?]
  split
  · next hseen => simp [hseen]
  · next hseen =>
    split
    · next hforeign =>
      have hletter : c ∉ letters := fun h => not_mem_foreignLetters h hforeign
      simp [hletter]
    · split
      · next hletter => simp [hletter, hseen]
      · next hletter => simp [hletter]

theorem readFrom_cons : readFrom f seen (c :: cs) =
    match fault? seen c with
    | some e => .error e
    | none => readFrom (f.turnOn [c]) (c :: seen) cs := by
  rw [readFrom, fault?]
  by_cases hseen : c ∈ seen
  · simp [hseen]
  by_cases hforeign : c ∈ foreignLetters
  · simp [hseen, hforeign]
  by_cases hletter : c ∈ letters
  · have hadd := add?_eq_some_iff (f := f).mpr ⟨hletter, rfl⟩
    simp [hseen, hforeign, hletter, hadd]
  · have hadd : f.add? c = none := by
      rw [Option.eq_none_iff_forall_not_mem]
      exact fun g hg => hletter (add?_eq_some_iff.mp hg).1
    simp [hseen, hforeign, hletter, hadd]

/-- Reading turns on the flags of the letters, in whatever order they stand. -/
theorem readFrom_eq_turnOn (h : readFrom f seen cs = .ok g) : g = f.turnOn cs := by
  induction cs generalizing f seen with
  | nil =>
    rw [readFrom] at h
    rw [← Except.ok.inj h]
    simp [turnOn]
  | cons c cs ih =>
    rw [readFrom_cons] at h
    split at h
    · cases h
    · rw [turnOn_cons]
      exact ih h

/-- Reading stops at the first letter at fault: those before it can be read. -/
theorem readFrom_eq_error_iff {e : FlagFault} : readFrom f seen cs = .error e ↔
    ∃ before c after, cs = before ++ c :: after ∧ (before.Nodup ∧ ∀ d ∈ before, d ∈ letters ∧
      d ∉ seen) ∧ fault? (before.reverse ++ seen) c = some e := by
  induction cs generalizing f seen with
  | nil => simp [readFrom]
  | cons c cs ih =>
    rw [readFrom_cons]
    cases hfault : fault? seen c with
    | some e' =>
      constructor
      · intro h
        exact ⟨[], c, cs, rfl, by simp, by rw [← Except.error.inj h]; exact hfault⟩
      · rintro ⟨before, d, after, hcs, ⟨_, hbefore⟩, hd⟩
        cases before with
        | nil =>
          obtain ⟨rfl, rfl⟩ := List.cons.inj hcs
          rw [List.reverse_nil, List.nil_append, hfault] at hd
          exact congrArg Except.error (Option.some.inj hd)
        | cons b before =>
          -- The letters before the one at fault can be read, so this one is not among them.
          obtain ⟨rfl, _⟩ := List.cons.inj hcs
          have hnone := fault?_eq_none_iff.mpr (hbefore c List.mem_cons_self)
          rw [hfault] at hnone
          cases hnone
    | none =>
      obtain ⟨hletter, hseen⟩ := fault?_eq_none_iff.mp hfault
      dsimp only
      rw [ih]
      constructor
      · rintro ⟨before, d, after, rfl, ⟨hnodup, hbefore⟩, hd⟩
        refine ⟨c :: before, d, after, rfl, ⟨?_, ?_⟩, by simpa using hd⟩
        · exact List.nodup_cons.mpr
            ⟨fun hc => (hbefore c hc).2 List.mem_cons_self, hnodup⟩
        · exact List.forall_mem_cons.mpr ⟨⟨hletter, hseen⟩, fun b hb =>
            ⟨(hbefore b hb).1, fun hmem => (hbefore b hb).2 (List.mem_cons_of_mem _ hmem)⟩⟩
      · rintro ⟨before, d, after, hcs, ⟨hnodup, hbefore⟩, hd⟩
        cases before with
        | nil =>
          obtain ⟨rfl, rfl⟩ := List.cons.inj hcs
          rw [List.reverse_nil, List.nil_append, hfault] at hd
          cases hd
        | cons b before =>
          obtain ⟨rfl, rfl⟩ := List.cons.inj hcs
          obtain ⟨hc, hnodup⟩ := List.nodup_cons.mp hnodup
          refine ⟨before, d, after, rfl, ⟨hnodup, fun b hb => ?_⟩, by simpa using hd⟩
          have hb' := hbefore b (List.mem_cons_of_mem _ hb)
          refine ⟨hb'.1, fun hmem => ?_⟩
          rcases List.mem_cons.mp hmem with rfl | hmem
          · exact hc hb
          · exact hb'.2 hmem

end Reading

private theorem read_eq_ok_iff {text : String} {f : Flags} :
    read text = .ok f ↔ Readable text.toList ∧ f = turnOn {} text.toList := by
  constructor
  · exact fun h => ⟨exists_read_iff.mp ⟨f, h⟩, readFrom_eq_turnOn h⟩
  · rintro ⟨hreadable, rfl⟩
    obtain ⟨g, hg⟩ := exists_read_iff.mpr hreadable
    rw [hg, readFrom_eq_turnOn hg]

theorem turnOn_perm {cs ds : List Char} (h : cs.Perm ds) (f : Flags) :
    f.turnOn cs = f.turnOn ds := by
  have hcontains (c : Char) : cs.contains c = ds.contains c := by
    rw [Bool.eq_iff_iff, List.contains_iff_mem, List.contains_iff_mem, h.mem_iff]
  simp only [turnOn, hcontains]

theorem mem_iff_of_turnOn_eq {cs ds : List Char} (h : turnOn {} cs = turnOn {} ds) {c : Char}
    (hc : c ∈ letters) : c ∈ cs ↔ c ∈ ds := by
  obtain ⟨hi, hm, hs, hu⟩ := Flags.mk.inj h
  simp only [letters, List.mem_cons, List.not_mem_nil, or_false] at hc
  rw [← List.contains_iff_mem, ← List.contains_iff_mem, ← Bool.eq_iff_iff]
  rcases hc with rfl | rfl | rfl | rfl
  · exact hi
  · exact hm
  · exact hs
  · exact hu

private theorem perm_of_turnOn_eq {cs ds : List Char} (hcs : Readable cs) (hds : Readable ds)
    (h : turnOn {} cs = turnOn {} ds) : cs.Perm ds := by
  rw [List.perm_ext_iff_of_nodup hcs.1 hds.1]
  intro c
  constructor
  · exact fun hc => (mem_iff_of_turnOn_eq h (hcs.2 c hc)).mp hc
  · exact fun hc => (mem_iff_of_turnOn_eq h (hds.2 c hc)).mpr hc

theorem bits_inj {f g : Flags} (h : f.bits = g.bits) : f = g := by
  obtain ⟨i, m, s, u⟩ := f
  obtain ⟨i', m', s', u'⟩ := g
  revert i m s u i' m' s' u'
  decide

private theorem bits_turnOn_letter {c : Char} (hc : c ∈ letters) (f : Flags) :
    (f.turnOn [c]).bits = f.bits ||| letterBit c := by
  obtain ⟨i, m, s, u⟩ := f
  simp only [letters, List.mem_cons, List.not_mem_nil, or_false] at hc
  rcases hc with rfl | rfl | rfl | rfl <;> revert i m s u <;> decide

/-- The number of the flags is the union of the bits of the letters. -/
theorem bits_turnOn {cs : List Char} (hcs : ∀ c ∈ cs, c ∈ letters) (f : Flags) :
    (f.turnOn cs).bits = f.bits ||| unionBits cs := by
  induction cs generalizing f with
  | nil => simp [turnOn, unionBits]
  | cons c cs ih =>
    obtain ⟨hc, hcs⟩ := List.forall_mem_cons.mp hcs
    calc (f.turnOn (c :: cs)).bits
        = (f.turnOn [c]).bits ||| unionBits cs := by rw [turnOn_cons, ih hcs]
      _ = f.bits ||| letterBit c ||| unionBits cs := by rw [bits_turnOn_letter hc]
      _ = f.bits ||| unionBits (c :: cs) := by
        rw [Nat.or_assoc, unionBits, unionBits, List.map_cons, List.foldr_cons]

/-- Flag texts denote sets of letters. A text is read exactly when its letters are distinct and
have a meaning; it stands for the union of their bits, whatever their order, and for no other set.
Otherwise the first letter that cannot be read after those before it is at fault: as a repeated
one, as one of another notation, or as an unknown one. -/
theorem read_denotes_set (text : String) :
    ((∃ f, read text = .ok f) ↔ Readable text.toList) ∧
    (∀ f, read text = .ok f →
      f.bits = unionBits text.toList ∧
      (∀ other : String, other.toList.Perm text.toList → read other = .ok f) ∧
      ∀ other g, read other = .ok g → (g.bits = f.bits ↔ other.toList.Perm text.toList)) ∧
    ∀ e, read text = .error e ↔ ∃ before c after, text.toList = before ++ c :: after ∧
      Readable before ∧ (c ∉ letters ∨ c ∈ before) ∧
      e = if c ∈ before then .repeated c
        else if c ∈ foreignLetters then .unsupported c else .unknown c := by
  refine ⟨exists_read_iff, ?_, ?_⟩
  · intro f hf
    obtain ⟨hreadable, rfl⟩ := read_eq_ok_iff.mp hf
    refine ⟨?_, fun other hperm => ?_, fun other g hg => ?_⟩
    · rw [bits_turnOn hreadable.2, show bits {} = 0 from rfl, Nat.zero_or]
    · have hother : Readable other.toList :=
        ⟨hperm.nodup_iff.mpr hreadable.1, fun c hc => hreadable.2 c (hperm.mem_iff.mp hc)⟩
      exact read_eq_ok_iff.mpr ⟨hother, (turnOn_perm hperm {}).symm⟩
    · obtain ⟨hother, rfl⟩ := read_eq_ok_iff.mp hg
      constructor
      · exact fun hbits => perm_of_turnOn_eq hother hreadable (bits_inj hbits)
      · exact fun hperm => congrArg bits (turnOn_perm hperm {})
  · intro e
    have hfault (before : List Char) (c : Char) :
        fault? (before.reverse ++ []) c = some e ↔ (c ∉ letters ∨ c ∈ before) ∧
          e = if c ∈ before then .repeated c
            else if c ∈ foreignLetters then .unsupported c else .unknown c := by
      rw [List.append_nil, fault?]
      by_cases hbefore : c ∈ before
      · simp [hbefore, eq_comm]
      by_cases hforeign : c ∈ foreignLetters
      · have hletter : c ∉ letters := fun h => not_mem_foreignLetters h hforeign
        simp [hbefore, hforeign, hletter, eq_comm]
      · by_cases hletter : c ∈ letters <;> simp [hbefore, hforeign, hletter, eq_comm]
    rw [read, readFrom_eq_error_iff]
    simp only [hfault, List.not_mem_nil, not_false_eq_true, and_true]
    rfl

/-- Case and dots: read in either order as the same set. -/
theorem read_denotes_set_is : ∃ f, read "is" = .ok f ∧ f.bits = 18 ∧ read "si" = .ok f := by
  obtain ⟨f, hf⟩ := (read_denotes_set "is").1.mpr ⟨by decide, by simp [letters]⟩
  obtain ⟨hbits, hperm, _⟩ := (read_denotes_set "is").2.1 f hf
  exact ⟨f, hf, hbits.trans (by decide), hperm "si" (List.Perm.swap _ _ _)⟩

end ClauseAudit.Flags
