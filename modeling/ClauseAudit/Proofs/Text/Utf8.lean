import ClauseAudit.Proofs.Outcome
import ClauseAudit.Text.Utf8

/-!
# Text in UTF-8

The bytes of a text are read as this text. The reader takes one sequence of bytes at a time, so it
is enough to compare it with the writer for one character, whose sequence has one to four bytes.
-/

namespace ClauseAudit.Text

theorem toList_loop (bytes : ByteArray) (i : Nat) (before : List UInt8) :
    ByteArray.toList.loop bytes i before = before.reverse ++ bytes.data.toList.drop i := by
  fun_induction ByteArray.toList.loop bytes i before with
  | case1 i before h ih =>
    have hi : i < bytes.data.toList.length := h
    have hget : bytes.get! i = bytes.data.toList[i] := getElem!_pos bytes.data i h
    rw [ih, List.reverse_cons, List.append_assoc, List.drop_eq_getElem_cons hi, hget]
    rfl
  | case2 i before h =>
    have hi : bytes.data.toList.length ≤ i := Nat.le_of_not_lt h
    rw [List.drop_eq_nil_of_le hi, List.append_nil]

theorem toList_toUTF8 (s : String) : s.toUTF8.toList = s.toList.flatMap String.utf8EncodeChar := by
  have hbytes : s.toUTF8 = (s.toList.flatMap String.utf8EncodeChar).toByteArray :=
    (congrArg String.toByteArray String.ofList_toList.symm).trans String.toByteArray_ofList
  rw [hbytes, ByteArray.toList, toList_loop, List.toList_data_toByteArray]
  rfl

theorem utf8Continue_cons {lo hi value read left n : Nat} {rest : List UInt8} (hlo : lo ≤ n)
    (hhi : n ≤ hi) (hbyte : n < 256) :
    utf8Continue lo hi value read (left + 1) (UInt8.ofNat n :: rest) =
      utf8Continue 0x80 0xBF (value * 64 + n % 64) (read + 1) left rest := by
  rw [utf8Continue, UInt8.toNat_ofNat_of_lt' hbyte, if_pos (by simp [hlo, hhi])]

private theorem utf8Step_of_lead {n count lo hi : Nat} (h : utf8Lead? n = some (count, lo, hi))
    (hlo : 0x80 ≤ n) (hbyte : n < 256) (rest : List UInt8) :
    utf8Step (UInt8.ofNat n) rest = utf8Continue lo hi (utf8LeadBits count n) 1 count rest := by
  rw [utf8Step, UInt8.toNat_ofNat_of_lt' hbyte, if_neg (by omega), h]

section Sequences

variable {v : Nat} (rest : List UInt8)

private theorem utf8Step_one (h : v ≤ 0x7F) : utf8Step (UInt8.ofNat v) rest = .char
    (Char.ofNat v) 1 := by
  have hbyte : v < UInt8.size := Nat.lt_of_le_of_lt h (by decide)
  rw [utf8Step, UInt8.toNat_ofNat_of_lt' hbyte, if_pos (by omega)]

private theorem utf8Step_two (hlo : 0x80 ≤ v) (hhi : v ≤ 0x7FF) :
    utf8Step (UInt8.ofNat (v / 64 % 32 + 192)) (UInt8.ofNat (v % 64 + 128) :: rest) =
      .char (Char.ofNat v) 2 := by
  have hlead : utf8Lead? (v / 64 % 32 + 192) = some (1, 0x80, 0xBF) := by
    rw [utf8Lead?, if_pos]
    simp only [Bool.and_eq_true, decide_eq_true_eq]
    omega
  have hvalue : utf8LeadBits 1 (v / 64 % 32 + 192) * 64 + (v % 64 + 128) % 64 = v := by
    change (v / 64 % 32 + 192) % 32 * 64 + (v % 64 + 128) % 64 = v
    omega
  rw [utf8Step_of_lead hlead (by omega) (by omega),
    utf8Continue_cons (by omega) (by omega) (by omega), hvalue, utf8Continue]

/-- The second byte of three is limited so that there is one sequence for every character. -/
theorem utf8Step_three (hlo : 0x800 ≤ v) (hhi : v ≤ 0xFFFF) (hvalid : v < 0xD800 ∨ 0xDFFF < v) :
    utf8Step (UInt8.ofNat (v / 4096 % 16 + 224))
      (UInt8.ofNat (v / 64 % 64 + 128) :: UInt8.ofNat (v % 64 + 128) :: rest) =
        .char (Char.ofNat v) 3 := by
  -- Two first bytes leave less than the full range to the second: no overlong forms, no surrogates.
  obtain ⟨lo, hi, hlead, hsecond⟩ : ∃ lo hi, utf8Lead? (v / 4096 % 16 + 224) = some (2, lo, hi) ∧
      lo ≤ v / 64 % 64 + 128 ∧ v / 64 % 64 + 128 ≤ hi := by
    by_cases hfirst : v / 4096 % 16 = 0
    · exact ⟨0xA0, 0xBF, by rw [hfirst]; rfl, by omega, by omega⟩
    by_cases hsurrogate : v / 4096 % 16 = 13
    · exact ⟨0x80, 0x9F, by rw [hsurrogate]; rfl, by omega, by omega⟩
    refine ⟨0x80, 0xBF, ?_, by omega, by omega⟩
    have hall : ∀ n : Fin 16, n.val ≠ 0 → n.val ≠ 13 →
        utf8Lead? (n.val + 224) = some (2, 0x80, 0xBF) := by decide
    exact hall ⟨v / 4096 % 16, by omega⟩ hfirst hsurrogate
  have hvalue : (utf8LeadBits 2 (v / 4096 % 16 + 224) * 64 + (v / 64 % 64 + 128) % 64) * 64 +
      (v % 64 + 128) % 64 = v := by
    change ((v / 4096 % 16 + 224) % 16 * 64 + (v / 64 % 64 + 128) % 64) * 64 +
      (v % 64 + 128) % 64 = v
    omega
  rw [utf8Step_of_lead hlead (by omega) (by omega),
    utf8Continue_cons hsecond.1 hsecond.2 (by omega),
    utf8Continue_cons (by omega) (by omega) (by omega), hvalue, utf8Continue]

private theorem utf8Step_four (hlo : 0x10000 ≤ v) (hhi : v < 0x110000) :
    utf8Step (UInt8.ofNat (v / 262144 % 8 + 240)) (UInt8.ofNat (v / 4096 % 64 + 128) ::
      UInt8.ofNat (v / 64 % 64 + 128) :: UInt8.ofNat (v % 64 + 128) :: rest) =
        .char (Char.ofNat v) 4 := by
  obtain ⟨lo, hi, hlead, hsecond⟩ : ∃ lo hi, utf8Lead? (v / 262144 % 8 + 240) = some (3, lo, hi) ∧
      lo ≤ v / 4096 % 64 + 128 ∧ v / 4096 % 64 + 128 ≤ hi := by
    by_cases hfirst : v / 262144 % 8 = 0
    · exact ⟨0x90, 0xBF, by rw [hfirst]; rfl, by omega, by omega⟩
    by_cases hlast : v / 262144 % 8 = 4
    · exact ⟨0x80, 0x8F, by rw [hlast]; rfl, by omega, by omega⟩
    refine ⟨0x80, 0xBF, ?_, by omega, by omega⟩
    have hall : ∀ n : Fin 4, n.val ≠ 0 → utf8Lead? (n.val + 240) = some (3, 0x80, 0xBF) := by
      decide
    exact hall ⟨v / 262144 % 8, by omega⟩ hfirst
  have hvalue : ((utf8LeadBits 3 (v / 262144 % 8 + 240) * 64 + (v / 4096 % 64 + 128) % 64) * 64 +
      (v / 64 % 64 + 128) % 64) * 64 + (v % 64 + 128) % 64 = v := by
    change (((v / 262144 % 8 + 240) % 8 * 64 + (v / 4096 % 64 + 128) % 64) * 64 +
      (v / 64 % 64 + 128) % 64) * 64 + (v % 64 + 128) % 64 = v
    omega
  rw [utf8Step_of_lead hlead (by omega) (by omega),
    utf8Continue_cons hsecond.1 hsecond.2 (by omega),
    utf8Continue_cons (by omega) (by omega) (by omega),
    utf8Continue_cons (by omega) (by omega) (by omega), hvalue, utf8Continue]

end Sequences

theorem utf8Step_encodeChar (c : Char) (rest : List UInt8) : ∃ b more,
    String.utf8EncodeChar c = b :: more ∧
      utf8Step b (more ++ rest) = .char c (more.length + 1) := by
  have hvalid : c.toNat < 0xD800 ∨ 0xDFFF < c.toNat ∧ c.toNat < 0x110000 := c.valid
  have hchar : Char.ofNat c.toNat = c := Char.ofNat_toNat c
  unfold String.utf8EncodeChar
  change ∃ b more, (if c.toNat ≤ 127 then _ else if c.toNat ≤ 2047 then _
    else if c.toNat ≤ 65535 then _ else _) = b :: more ∧ _
  by_cases hone : c.toNat ≤ 127
  · rw [if_pos hone]
    exact ⟨_, _, rfl, (utf8Step_one rest hone).trans (by rw [hchar]; rfl)⟩
  rw [if_neg hone]
  by_cases htwo : c.toNat ≤ 2047
  · rw [if_pos htwo]
    exact ⟨_, _, rfl, (utf8Step_two rest (by omega) htwo).trans (by rw [hchar]; rfl)⟩
  rw [if_neg htwo]
  by_cases hthree : c.toNat ≤ 65535
  · rw [if_pos hthree]
    exact ⟨_, _, rfl, (utf8Step_three rest (by omega) hthree (by omega)).trans (by rw [hchar]; rfl)⟩
  · rw [if_neg hthree]
    exact ⟨_, _, rfl,
      (utf8Step_four (v := c.toNat) rest (by omega) (by omega)).trans (by rw [hchar]; rfl)⟩

private theorem readUtf8From_flatMap {cs : List Char} {position fuel : Nat} (h : cs.length ≤ fuel) :
    readUtf8From position fuel (cs.flatMap String.utf8EncodeChar) = .ok cs := by
  induction cs generalizing position fuel with
  | nil => cases fuel <;> rfl
  | cons c cs ih =>
    obtain ⟨fuel, rfl⟩ : ∃ n, fuel = n + 1 := Nat.exists_eq_add_one.mpr
      (Nat.lt_of_lt_of_le (Nat.zero_lt_succ _) h)
    obtain ⟨b, more, hbytes, hstep⟩ := utf8Step_encodeChar c (cs.flatMap String.utf8EncodeChar)
    rw [List.flatMap_cons, hbytes, List.cons_append, readUtf8From, hstep]
    simp only [Nat.add_sub_cancel, List.drop_left, ih (Nat.le_of_succ_le_succ h)]
    rfl

theorem length_le_flatMap_encodeChar (cs : List Char) :
    cs.length ≤ (cs.flatMap String.utf8EncodeChar).length := by
  induction cs with
  | nil => exact Nat.le_refl 0
  | cons c cs ih =>
    obtain ⟨b, more, hbytes, _⟩ := utf8Step_encodeChar c []
    rw [List.flatMap_cons, hbytes, List.length_append, List.length_cons, List.length_cons]
    omega

/-- The bytes of a text are read as this text. -/
theorem readUtf8_toUTF8 (s : String) : readUtf8 s.toUTF8.toList = .ok s := by
  rw [readUtf8, toList_toUTF8, readUtf8From_flatMap (length_le_flatMap_encodeChar s.toList)]
  exact congrArg Except.ok String.ofList_toList

private theorem repairUtf8From_of_readUtf8From {position fuel : Nat} {bytes : List UInt8}
    {cs : List Char}
    (h : readUtf8From position fuel bytes = .ok cs) : repairUtf8From fuel bytes = cs := by
  fun_induction readUtf8From position fuel bytes generalizing cs with
  | case1 => exact Except.ok.inj h
  | case2 fuel => cases fuel <;> exact Except.ok.inj h
  | case3 position fuel b rest c length hstep ih =>
    obtain ⟨cs, hrest, rfl⟩ := map_eq_ok_iff.mp h
    rw [repairUtf8From, hstep]
    exact congrArg (c :: ·) (ih hrest)
  | case4 => cases h

theorem repairUtf8_of_readUtf8 {bytes : List UInt8} {s : String} (h : readUtf8 bytes = .ok s) :
    repairUtf8 bytes = s := by
  obtain ⟨cs, hcs, rfl⟩ := map_eq_ok_iff.mp h
  exact congrArg String.ofList (repairUtf8From_of_readUtf8From hcs)

end ClauseAudit.Text
