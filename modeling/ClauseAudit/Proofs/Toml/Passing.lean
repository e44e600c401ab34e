import ClauseAudit.Proofs.Text.Blank
import ClauseAudit.Toml.Reader

/-!
# Passing a part of a text

A reader of TOML passes a part of the text that holds no carriage return. What may follow a word or
a number decides where it ends; digits are visible characters, so that neither a blank nor a
carriage return is taken for one.
-/

namespace ClauseAudit.Toml

/-- The text up to the rest holds no carriage return. -/
def Passes (cs rest : List Char) : Prop := ∃ read, '\r' ∉ read ∧ cs = read ++ rest

theorem drop_length_takeWhile (p : Char → Bool) (cs : List Char) :
    cs.drop (cs.takeWhile p).length = cs.dropWhile p := by
  have hdrop : (cs.takeWhile p ++ cs.dropWhile p).drop (cs.takeWhile p).length = cs.dropWhile p :=
    List.drop_left
  rwa [List.takeWhile_append_dropWhile] at hdrop

theorem exists_fuel {c : Char} {cs : List Char} {fuel : Nat} (h : (c :: cs).length ≤ fuel) :
    ∃ n, fuel = n + 1 ∧ cs.length ≤ n := by
  obtain ⟨n, rfl⟩ : ∃ n, fuel = n + 1 :=
    Nat.exists_eq_add_one.mpr (Nat.lt_of_lt_of_le (Nat.zero_lt_succ _) h)
  exact ⟨n, rfl, Nat.le_of_succ_le_succ h⟩

namespace Passes

variable {cs ds rest : List Char} {c : Char}

@[refl] theorem refl (cs : List Char) : Passes cs cs := ⟨[], List.not_mem_nil, rfl⟩

theorem trans (h : Passes cs ds) (h' : Passes ds rest) : Passes cs rest := by
  obtain ⟨read, hread, rfl⟩ := h
  obtain ⟨read', hread', rfl⟩ := h'
  refine ⟨read ++ read', ?_, (List.append_assoc ..).symm⟩
  rw [List.mem_append]
  exact not_or.mpr ⟨hread, hread'⟩

theorem cons (hc : c ≠ '\r') (h : Passes cs rest) : Passes (c :: cs) rest := by
  obtain ⟨read, hread, rfl⟩ := h
  refine ⟨c :: read, ?_, rfl⟩
  rw [List.mem_cons]
  exact not_or.mpr ⟨hc.symm, hread⟩

theorem length_le (h : Passes cs rest) : rest.length ≤ cs.length := by
  obtain ⟨read, _, rfl⟩ := h
  rw [List.length_append]
  exact Nat.le_add_left ..

theorem dropWhile {p : Char → Bool} (hp : p '\r' = false) (cs : List Char) :
    Passes cs (cs.dropWhile p) := by
  refine ⟨cs.takeWhile p, ?_, List.takeWhile_append_dropWhile.symm⟩
  intro hmem
  rw [List.mem_takeWhile_imp hmem] at hp
  cases hp

theorem drop_takeWhile {p : Char → Bool} (h : '\r' ∉ cs.takeWhile p) :
    Passes cs (cs.drop (cs.takeWhile p).length) :=
  ⟨cs.takeWhile p, h, by rw [drop_length_takeWhile, List.takeWhile_append_dropWhile]⟩

theorem drop {n : Nat} (h : '\r' ∉ cs.take n) : Passes cs (cs.drop n) :=
  ⟨cs.take n, h, (List.take_append_drop n cs).symm⟩

end Passes

/-! ## Visible characters -/

def Visible (c : Char) : Prop := 0x20 < c.toNat ∧ c.toNat < 0x7F

instance (c : Char) : Decidable (Visible c) := inferInstanceAs (Decidable (_ ∧ _))

theorem Visible.isBlank_eq {c : Char} (h : Visible c) : Text.isBlank c = false := by
  obtain ⟨hlo, hhi⟩ := h
  simp only [Text.isBlank, Text.Ranges.contains, Text.blankRanges, List.any_cons, List.any_nil,
    Bool.or_false, Bool.or_eq_false_iff, Bool.and_eq_false_iff, decide_eq_false_iff_not]
  omega

theorem Visible.ne_of_isBlank {b c : Char} (h : Visible c) (hb : Text.isBlank b = true) :
    b ≠ c := by
  rintro rfl
  rw [h.isBlank_eq] at hb
  cases hb

theorem Visible.ne_return {c : Char} (h : Visible c) : c ≠ '\r' :=
  (h.ne_of_isBlank (by decide)).symm

private theorem visible_of_le {lo hi c : Char} (h : (lo ≤ c && c ≤ hi) = true) (hlo : Visible lo)
    (hhi : Visible hi) : Visible c := by
  simp only [Bool.and_eq_true, decide_eq_true_eq, Char.le_def, UInt32.le_iff_toNat_le] at h
  exact ⟨Nat.lt_of_lt_of_le hlo.1 h.1, Nat.lt_of_le_of_lt h.2 hhi.2⟩

theorem visible_of_isAsciiDigit {c : Char} (h : Text.isAsciiDigit c = true) : Visible c :=
  visible_of_le h (by decide) (by decide)

private theorem visible_of_hexValue? {c : Char} (h : (Text.hexValue? c).isSome = true) :
    Visible c := by
  unfold Text.hexValue? at h
  split at h
  · next hc => exact visible_of_le hc (by decide) (by decide)
  split at h
  · next hc => exact visible_of_le hc (by decide) (by decide)
  split at h
  · next hc => exact visible_of_le hc (by decide) (by decide)
  · cases h

theorem visible_of_isBareKey {c : Char} (h : isBareKey c = true) : Visible c := by
  simp only [isBareKey, Text.isAsciiLetter, Bool.or_eq_true, beq_iff_eq] at h
  rcases h with (((h | h) | h) | rfl) | rfl
  · exact visible_of_le h (by decide) (by decide)
  · exact visible_of_le h (by decide) (by decide)
  · exact visible_of_isAsciiDigit h
  · decide
  · decide

/-- A class of digits is not to be mixed up with what may stand between or behind digits. -/
structure IsDigits (isDigit : Char → Bool) : Prop where
  visible : ∀ c, isDigit c = true → Visible c
  underscore : isDigit '_' = false

namespace IsDigits

theorem ascii : IsDigits Text.isAsciiDigit := ⟨fun _ h => visible_of_isAsciiDigit h, by decide⟩

theorem hexadecimal : IsDigits fun c => (Text.hexValue? c).isSome :=
  ⟨fun _ h => visible_of_hexValue? h, by decide⟩

theorem octal : IsDigits fun c => '0' ≤ c && c ≤ '7' :=
  ⟨fun _ h => visible_of_le h (by decide) (by decide), by decide⟩

theorem binary : IsDigits fun c => c == '0' || c == '1' := by
  refine ⟨fun c h => ?_, by decide⟩
  simp only [Bool.or_eq_true, beq_iff_eq] at h
  rcases h with rfl | rfl
  · decide
  · decide

variable {isDigit : Char → Bool}

theorem return_notMem (hd : IsDigits isDigit) {cs : List Char} (h : cs.all isDigit = true) :
    '\r' ∉ cs := by
  intro hmem
  exact (hd.visible _ (List.all_eq_true.mp h _ hmem)).ne_return rfl

end IsDigits

end ClauseAudit.Toml
