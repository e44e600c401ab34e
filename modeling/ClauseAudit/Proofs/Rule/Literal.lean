import ClauseAudit.Rule.Literal
import Mathlib.Data.List.DropRight

/-!
# Pattern literals are read back

A literal is split at its last slash. Flags hold no slash, so splitting what was formatted gives
the same pattern and flags again, whatever slashes the pattern holds.
-/

namespace ClauseAudit

namespace Flags

def letters : List Char := ['i', 'm', 's', 'u']

theorem exists_add?_iff {f : Flags} {c : Char} : (∃ g, f.add? c = some g) ↔ c ∈ letters := by
  unfold add?
  split <;> simp_all [letters]

theorem not_mem_foreignLetters {c : Char} (h : c ∈ letters) : c ∉ foreignLetters := by
  simp only [letters, List.mem_cons, List.not_mem_nil, or_false] at h
  rcases h with rfl | rfl | rfl | rfl <;> decide

private theorem exists_readFrom_iff {f : Flags} {seen cs : List Char} :
    (∃ g, readFrom f seen cs = .ok g) ↔ cs.Nodup ∧ ∀ c ∈ cs, c ∈ letters ∧ c ∉ seen := by
  induction cs generalizing f seen with
  | nil => simp [readFrom]
  | cons c cs ih =>
    rw [readFrom, List.nodup_cons, List.forall_mem_cons]
    by_cases hseen : c ∈ seen
    · simp [hseen]
    by_cases hletter : c ∈ letters
    · obtain ⟨g, hg⟩ := (exists_add?_iff (f := f)).mpr hletter
      have hforeign : foreignLetters.contains c = false := by
        simpa using not_mem_foreignLetters hletter
      have hcontains : seen.contains c = false := by simpa using hseen
      simp only [hcontains, hforeign, hg, Bool.false_eq_true, if_false, ih, List.mem_cons, not_or]
      constructor
      · rintro ⟨hnodup, hall⟩
        exact ⟨⟨fun hc => (hall c hc).2.1 rfl, hnodup⟩, ⟨hletter, hseen⟩,
          fun d hd => ⟨(hall d hd).1, (hall d hd).2.2⟩⟩
      · rintro ⟨⟨hc, hnodup⟩, _, hall⟩
        refine ⟨hnodup, fun d hd => ⟨(hall d hd).1, ?_, (hall d hd).2⟩⟩
        rintro rfl
        exact hc hd
    · -- A letter without a meaning is refused, by its name or as an unknown one.
      have hadd : f.add? c = none := by
        rw [Option.eq_none_iff_forall_not_mem]
        exact fun g hg => hletter (exists_add?_iff.mp ⟨g, hg⟩)
      constructor
      · rintro ⟨g, hg⟩
        simp only [hadd] at hg
        split at hg
        · cases hg
        · split at hg <;> cases hg
      · exact fun h => absurd h.2.1.1 hletter

theorem exists_read_iff {text : String} :
    (∃ f, read text = .ok f) ↔ text.toList.Nodup ∧ ∀ c ∈ text.toList, c ∈ letters := by
  rw [read, exists_readFrom_iff]
  simp

end Flags

namespace Literal

private theorem isFlagLetter_of_mem_letters {c : Char} (h : c ∈ Flags.letters) :
    isFlagLetter c = true := by
  simp only [Flags.letters, List.mem_cons, List.not_mem_nil, or_false] at h
  rcases h with rfl | rfl | rfl | rfl <;> decide

theorem isFlagLetter_iff {c : Char} : isFlagLetter c = true ↔
    Text.isAsciiLetter c = true ∨ c.toNat ∈ [0x130, 0x131, 0x17F, 0x212A] := by
  rw [isFlagLetter, Bool.or_eq_true, List.contains_iff_mem]

private theorem not_isFlagLetter_slash : isFlagLetter '/' = false := by decide

private theorem not_isFlagLetter_newline : isFlagLetter '\n' = false := by decide

theorem exists_read_of_compile {pattern flags : String} {p : Regex.Pattern}
    (h : compile pattern flags = .ok p) : ∃ f, Flags.read flags = .ok f := by
  rw [compile] at h
  split at h
  · cases h
  · next f hread => exact ⟨f, hread⟩

theorem isFlagLetter_of_compile {pattern flags : String} {p : Regex.Pattern}
    (h : compile pattern flags = .ok p) : ∀ c ∈ flags.toList, isFlagLetter c = true := by
  obtain ⟨_, hletters⟩ := Flags.exists_read_iff.mp (exists_read_of_compile h)
  exact fun c hc => isFlagLetter_of_mem_letters (hletters c hc)

private theorem take_before_slash (p f : List Char) :
    (p ++ '/' :: f).take ((p ++ '/' :: f).length - f.length - 1) = p := by
  have hlength : (p ++ '/' :: f).length - f.length - 1 = p.length := by
    simp only [List.length_append, List.length_cons]
    omega
  rw [hlength, List.take_left']
  rfl

private theorem rtakeWhile_after_slash {p f : List Char} (hf : '/' ∉ f) :
    (p ++ '/' :: f).rtakeWhile (· != '/') = f := by
  have hall : ∀ c ∈ f.reverse, (c != '/') = true := by
    intro c hc
    rw [bne_iff_ne]
    rintro rfl
    exact hf (List.mem_reverse.mp hc)
  rw [List.rtakeWhile, List.reverse_append, List.reverse_cons, List.append_assoc,
    List.takeWhile_append_of_pos hall]
  simp

private theorem splitLast?_eq_some_iff (cs p f : List Char) :
    splitLast? cs = some (p, f) ↔ cs = p ++ '/' :: f ∧ '/' ∉ f := by
  have hafter : (cs.reverse.takeWhile (· != '/')).reverse = cs.rtakeWhile (· != '/') := rfl
  rw [splitLast?, hafter]
  constructor
  · intro h
    split at h
    · next hlength =>
      have hsplit := List.rdropWhile_append_rtakeWhile (p := (· != '/')) (l := cs)
      have hne : cs.rdropWhile (· != '/') ≠ [] := by
        intro hnil
        rw [hnil, List.nil_append] at hsplit
        rw [hsplit] at hlength
        exact Nat.lt_irrefl _ hlength
      have hslash : (cs.rdropWhile (· != '/')).getLast hne = '/' := by
        simpa using List.rdropWhile_last_not (· != '/') cs hne
      rw [← List.dropLast_append_getLast hne, hslash, List.append_assoc,
        List.singleton_append] at hsplit
      obtain ⟨hp, hf⟩ := Prod.mk.inj (Option.some.inj h)
      have hnot : '/' ∉ f := by
        intro hmem
        rw [← hf] at hmem
        simpa using List.mem_rtakeWhile_imp hmem
      rw [hf] at hp hsplit
      rw [← hsplit, take_before_slash] at hp
      rw [hp] at hsplit
      exact ⟨hsplit.symm, hnot⟩
    · cases h
  · rintro ⟨rfl, hf⟩
    have hlonger : f.length < (p ++ '/' :: f).length := by
      simp only [List.length_append, List.length_cons]
      omega
    rw [rtakeWhile_after_slash hf, if_pos hlonger, take_before_slash]

private theorem dropFinalNewline_eq_iff {cs ds : List Char} (hds : ds.getLast? ≠ some '\n') :
    dropFinalNewline cs = ds ↔ cs = ds ∨ cs = ds ++ ['\n'] := by
  rw [dropFinalNewline]
  constructor
  · intro h
    split at h
    · next hlast =>
      obtain ⟨before, rfl⟩ := List.getLast?_eq_some_iff.mp (beq_iff_eq.mp hlast)
      rw [List.dropLast_concat] at h
      exact .inr (congrArg (· ++ ['\n']) h)
    · exact .inl h
  · rintro (rfl | rfl)
    · rw [if_neg]
      simpa using hds
    · simp

private theorem getLast?_flags {p f : List Char} (hf : ∀ c ∈ f, isFlagLetter c = true) :
    (p ++ '/' :: f).getLast? ≠ some '\n' := by
  intro hlast
  rw [List.getLast?_append_of_ne_nil _ (by simp)] at hlast
  rcases List.mem_cons.mp (List.mem_of_getLast? hlast) with hslash | hmem
  · cases hslash
  · have := hf _ hmem
    rw [not_isFlagLetter_newline] at this
    cases this

theorem splitChars?_eq_some_iff (cs p f : List Char) :
    splitChars? cs = some (p, f) ↔ p ≠ [] ∧ (∀ c ∈ f, isFlagLetter c = true) ∧
      (cs = '/' :: (p ++ '/' :: f) ∨ cs = '/' :: (p ++ '/' :: f) ++ ['\n']) := by
  constructor
  · intro h
    unfold splitChars? at h
    split at h
    · next rest =>
      split at h
      · next q g hsplit =>
        split at h
        · next hshape =>
          obtain ⟨rfl, rfl⟩ := Prod.mk.inj (Option.some.inj h)
          simp only [Bool.and_eq_true, Bool.not_eq_true', List.isEmpty_eq_false_iff,
            List.all_eq_true] at hshape
          obtain ⟨hrest, _⟩ := (splitLast?_eq_some_iff _ _ _).mp hsplit
          refine ⟨hshape.1, hshape.2, ?_⟩
          rcases (dropFinalNewline_eq_iff (getLast?_flags hshape.2)).mp hrest with rfl | rfl
          · exact .inl rfl
          · exact .inr rfl
        · cases h
      · cases h
    · cases h
  · rintro ⟨hp, hf, hcs⟩
    have hslash : '/' ∉ f := by
      intro hmem
      have := hf _ hmem
      rw [not_isFlagLetter_slash] at this
      cases this
    have hrest : ∃ rest, cs = '/' :: rest ∧ dropFinalNewline rest = p ++ '/' :: f := by
      rcases hcs with rfl | rfl
      · exact ⟨_, rfl, (dropFinalNewline_eq_iff (getLast?_flags hf)).mpr (.inl rfl)⟩
      · exact ⟨_, rfl, (dropFinalNewline_eq_iff (getLast?_flags hf)).mpr (.inr rfl)⟩
    obtain ⟨rest, rfl, hdrop⟩ := hrest
    have hall : f.all isFlagLetter = true := List.all_eq_true.mpr hf
    simp [splitChars?, hdrop, (splitLast?_eq_some_iff _ _ _).mpr ⟨rfl, hslash⟩, hp, hall]

/-- A literal is a pattern between slashes with flag letters after it; one line feed may follow. -/
theorem split?_eq_some_iff (raw p f : String) :
    split? raw = some (p, f) ↔ p ≠ "" ∧ (∀ c ∈ f.toList, isFlagLetter c = true) ∧
      (raw = format p f ∨ raw = format p f ++ "\n") := by
  have hformat : (format p f).toList = '/' :: (p.toList ++ '/' :: f.toList) := by
    simp [format]
  have hparts : split? raw = some (p, f) ↔ splitChars? raw.toList = some (p.toList, f.toList) := by
    rw [split?, Option.map_eq_some_iff]
    constructor
    · rintro ⟨⟨q, g⟩, hsplit, heq⟩
      obtain ⟨rfl, rfl⟩ := Prod.mk.inj heq
      rw [hsplit, String.toList_ofList, String.toList_ofList]
    · intro hsplit
      exact ⟨_, hsplit, by rw [String.ofList_toList, String.ofList_toList]⟩
  rw [hparts, splitChars?_eq_some_iff, ← String.toList_inj, ← String.toList_inj,
    String.toList_append, hformat, ne_eq, String.toList_eq_nil_iff]
  rfl

/-- A pattern between slashes with letters after the second one, and perhaps a line feed at the
end. -/
structure Spells (raw p f : String) : Prop where
  pattern_ne : p ≠ ""
  letters : ∀ c ∈ f.toList,
    Text.isAsciiLetter c = true ∨ c.toNat ∈ [0x130, 0x131, 0x17F, 0x212A]
  written : raw = format p f ∨ raw = format p f ++ "\n"

theorem split?_eq_some_iff_spells {raw p f : String} :
    split? raw = some (p, f) ↔ Spells raw p f := by
  simp only [split?_eq_some_iff, isFlagLetter_iff]
  exact ⟨fun ⟨hp, hf, hraw⟩ => ⟨hp, hf, hraw⟩, fun ⟨hp, hf, hraw⟩ => ⟨hp, hf, hraw⟩⟩

theorem split?_ne_none_iff {raw : String} :
    split? raw ≠ none ↔ ∃! l : String × String, Spells raw l.1 l.2 := by
  rw [Option.ne_none_iff_exists']
  simp only [← split?_eq_some_iff_spells]
  constructor
  · rintro ⟨l, hl⟩
    exact ⟨l, hl, fun l' hl' => Option.some.inj (hl'.symm.trans hl)⟩
  · rintro ⟨l, hl, _⟩
    exact ⟨l, hl⟩

theorem split?_format {p f : String} (hp : p ≠ "")
    (hf : ∀ c ∈ f.toList, isFlagLetter c = true) : split? (format p f) = some (p, f) :=
  (split?_eq_some_iff _ p f).mpr ⟨hp, hf, .inl rfl⟩

end Literal

end ClauseAudit
