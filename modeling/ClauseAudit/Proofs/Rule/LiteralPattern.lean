import ClauseAudit.Proofs.Regex.Attempt
import ClauseAudit.Proofs.Rule.Literal
import ClauseAudit.Proofs.Text.LowerCase

/-!
# The pattern of literals

The notation of literals is itself a pattern: any text between slashes, then letters up to the end,
without regard to case. Its two repetitions are greedy and give back characters one by one, so the
matcher may try many slashes. There is at most one way to succeed, the one at the last slash, and
the order of the attempts does not matter.
-/

namespace ClauseAudit.Literal

open Regex (Captures CharTest Outcome Passes Pattern)

/-! ## The letters -/

def letterTest : CharTest := .set .full false false [.range 0x61 0x7A]

theorem parse_letter : Pattern.parse "[a-z]" { ignoreCase := true } = .ok (.one letterTest) := by
  rfl

def letterCodes : List Nat :=
  List.range' 0x41 26 ++ List.range' 0x61 26 ++ [0x130, 0x131, 0x17F, 0x212A]

private theorem isFlagLetter_iff_mem {c : Char} : isFlagLetter c = true ↔
    c.toNat ∈ letterCodes := by
  have hascii : Text.isAsciiLetter c = true ↔
      97 ≤ c.toNat ∧ c.toNat ≤ 122 ∨ 65 ≤ c.toNat ∧ c.toNat ≤ 90 := by
    rw [Text.isAsciiLetter]
    simp only [Bool.or_eq_true, Bool.and_eq_true, decide_eq_true_eq]
    exact Iff.rfl
  rw [isFlagLetter_iff, hascii, letterCodes, List.mem_append, List.mem_append, List.mem_range'_1,
    List.mem_range'_1]
  apply or_congr_left
  omega

private theorem lowerTables_not_small :
    ((Text.lowerRuns.all fun r =>
        Nat.blt (r.first + (r.last - r.first)) 97 || Nat.blt 122 r.first) &&
      Text.lowerExpansions.all fun e => Nat.blt 122 e.1) = true := by
  decide +kernel

private theorem eq_of_mem_lowerPreimages {i k : Nat} (h : i ∈ Text.lowerPreimages k)
    (hfirst : 97 ≤ i) (hlast : i ≤ 122) : i = k := by
  have htables := lowerTables_not_small
  simp only [Bool.and_eq_true, List.all_eq_true, Bool.or_eq_true, Nat.blt_eq] at htables
  rw [Text.lowerPreimages, List.mem_append, List.mem_append, List.mem_filterMap, List.mem_map] at h
  rcases h with (hself | ⟨r, hr, hi⟩) | ⟨e, he, rfl⟩
  · split at hself
    · exact List.mem_singleton.mp hself
    · cases hself
  · rw [Text.CaseRun.preimage?] at hi
    split at hi
    · have hrun := htables.1 r hr
      have hi := Option.some.inj hi
      omega
    · cases hi
  · have hexpansion := htables.2 e (List.mem_filter.mp he).1
    omega

/-- Small letters outside ASCII that share the upper case of one inside. -/
theorem sharedUpper_small : ∀ e ∈ Text.sharedUpper, ∀ k ∈ e.2, 97 ≤ k → k ≤ 122 →
    e.1 ∈ [0x131, 0x17F] := by
  decide

def smallCodes : List Nat := List.range' 0x61 26 ++ [0x131, 0x17F]

theorem mem_smallCodes {n k : Nat} (h : k = n ∨ k ∈ Regex.Fold.full.siblings n) (hfirst : 97 ≤ k)
    (hlast : k ≤ 122) : n ∈ smallCodes := by
  rcases h with rfl | hk
  · refine List.mem_append_left _ (List.mem_range'_1.mpr ?_)
    omega
  · apply List.mem_append_right
    rw [Regex.Fold.siblings] at hk
    cases hlookup : Text.sharedUpper.lookup n with
    | none => simp [hlookup] at hk
    | some others =>
      rw [hlookup] at hk
      exact sharedUpper_small _ (Text.mem_of_lookup_eq_some hlookup) k hk hfirst hlast

private theorem smallCodes_preimages : (smallCodes.all fun n =>
    (Text.lowerPreimages n).all fun x => letterCodes.contains x) = true := by
  decide +kernel

private theorem letterCodes_accepted :
    (letterCodes.all fun x => letterTest.accepts (Char.ofNat x)) = true := by
  decide +kernel

/-- The flag letters are those that the test of a letter accepts. -/
theorem letterTest_accepts_iff {c : Char} :
    letterTest.accepts c = true ↔ isFlagLetter c = true := by
  rw [isFlagLetter_iff_mem]
  constructor
  · intro h
    have hfolded : Regex.SetItem.holdsFolded .full false (Text.lowerCode c.toNat)
        (.range 0x61 0x7A) = true := by
      simpa [letterTest, CharTest.accepts, Regex.Fold.lower] using h
    have hplane : decide (Regex.SetItem.planeSize ≤ 122) = false := by decide
    simp only [Regex.SetItem.holdsFolded, hplane, Bool.false_and, Bool.or_false, List.any_eq_true,
      List.mem_cons, Bool.and_eq_true, decide_eq_true_eq] at hfolded
    obtain ⟨k, hk, i, hi, ⟨_, hfirst⟩, hlast⟩ := hfolded
    obtain rfl := eq_of_mem_lowerPreimages hi hfirst hlast
    have hall := List.all_eq_true.mp smallCodes_preimages _ (mem_smallCodes hk hfirst hlast)
    exact List.contains_iff_mem.mp (List.all_eq_true.mp hall _ (Text.mem_lowerPreimages c))
  · intro h
    have haccepted := List.all_eq_true.mp letterCodes_accepted _ h
    rwa [Char.ofNat_toNat] at haccepted

/-! ## The pattern -/

def slashTest : CharTest := .char .exact false 0x2F

/-- The notation of literals: a text between slashes in the first group, letters in the second. -/
def shape : Pattern :=
  .seq (.anchor .textStart) (.seq (.one slashTest) (.seq (.capture 1 (.loop .greedy 1 none
    (.one .any))) (.seq (.one slashTest) (.seq (.capture 2 (.loop .greedy 0 none
      (.one letterTest))) (.anchor .lastLineEnd)))))

theorem parse_shape :
    Pattern.parse "^/(.+)/([a-z]*)$" { ignoreCase := true, dotAll := true } = .ok shape := by rfl

def group? (cs : List Char) (c : Captures) (n : Nat) : Option (List Char) :=
  (c.span? n).map fun span => (cs.take span.2).drop span.1

def groups? (p : Pattern) (cs : List Char) : Option (List Char × List Char) :=
  match p.run cs.toArray false 0 .none .matched with
  | .matched _ c => do return (← group? cs c 1, ← group? cs c 2)
  | .failed _ => none

/-- The notation matches with so many characters in its groups. -/
structure Fits (text : Array Char) (n m : Nat) : Prop where
  opening : Passes text slashTest 0 1
  pattern_pos : 1 ≤ n
  pattern : Passes text .any 1 n
  closing : Passes text slashTest (1 + n) 1
  flags : Passes text letterTest (1 + n + 1) m
  atEnd : Regex.Anchor.lastLineEnd.holds text (1 + n + 1 + m) = true

def places (n m : Nat) : List (Option Nat) :=
  [some 1, some (1 + n), some (1 + n + 1), some (1 + n + 1 + m)]

private theorem finds_shape (text : Array Char) : (shape.run text false 0 .none .matched).Finds []
    (fun shown => ∃ n m, Fits text n m ∧ shown = places n m) := by
  have hfind : (shape.run text false 0 .none .matched).Finds [] (fun shown =>
      Regex.Anchor.textStart.holds text 0 = true ∧ Passes text slashTest 0 1 ∧
        ∃ n, 1 ≤ n ∧ Passes text .any 1 n ∧ Passes text slashTest (1 + n) 1 ∧
          ∃ m, 0 ≤ m ∧ Passes text letterTest (1 + n + 1) m ∧
            Regex.Anchor.lastLineEnd.holds text (1 + n + 1 + m) = true ∧ shown = places n m) := by
    unfold shape
    refine Pattern.finds_seq (Pattern.finds_anchor (fun _ => ?_) Captures.shows_none)
    refine Pattern.finds_seq (Pattern.finds_one (fun _ => ?_) Captures.shows_none)
    refine Pattern.finds_seq (Pattern.finds_capture rfl (Pattern.finds_greedy
      (fun n _ _ c hc => ?_) (Captures.shows_none.set 1)))
    -- the first group is closed; its places are kept while the rest is tried
    have hc := hc.set (1 + n)
    refine (Pattern.finds_seq (Pattern.finds_one (fun _ => ?_) hc)).of_append
    refine Pattern.finds_seq (Pattern.finds_capture rfl (Pattern.finds_greedy
      (fun m _ _ c hc => ?_) (hc.set (1 + n + 1))))
    have hc := hc.set (1 + n + 1 + m)
    exact (Pattern.finds_anchor (fun _ => .matched hc _) hc).of_append
  refine hfind.congr fun shown => ?_
  constructor
  · rintro ⟨_, hopening, n, hn, hpattern, hclosing, m, _, hflags, hend, rfl⟩
    exact ⟨n, m, ⟨hopening, hn, hpattern, hclosing, hflags, hend⟩, rfl⟩
  · rintro ⟨n, m, h, rfl⟩
    exact ⟨rfl, h.opening, n, h.pattern_pos, h.pattern, h.closing, m, Nat.zero_le m, h.flags,
      h.atEnd, rfl⟩

private theorem slashTest_accepts_iff {c : Char} : slashTest.accepts c = true ↔ c = '/' := by
  rw [← Char.toNat_inj]
  simp [slashTest, CharTest.accepts]

private theorem passes_slash_iff {text : Array Char} {i : Nat} :
    Passes text slashTest i 1 ↔ text.toList.drop i = '/' :: text.toList.drop (i + 1) := by
  rw [Regex.passes_iff_exists]
  constructor
  · rintro ⟨u, hlength, hu, hdrop⟩
    obtain ⟨c, rfl⟩ := List.length_eq_one_iff.mp hlength
    rw [slashTest_accepts_iff.mp (hu c List.mem_cons_self)] at hdrop
    exact hdrop
  · intro h
    refine ⟨['/'], rfl, ?_, h⟩
    simp [slashTest_accepts_iff]

private theorem lastLineEnd_holds_iff {cs : List Char} {i : Nat} (h : i ≤ cs.length) :
    Regex.Anchor.lastLineEnd.holds cs.toArray i = true ↔ cs.drop i = [] ∨ cs.drop i = ['\n'] := by
  have hbreak : cs.drop i = ['\n'] ↔ i + 1 = cs.length ∧ cs[i]? = some '\n' := by
    constructor
    · intro hdrop
      have hlength := congrArg List.length hdrop
      rw [List.length_drop, List.length_singleton] at hlength
      refine ⟨by omega, ?_⟩
      rw [← List.head?_drop, hdrop]
      rfl
    · rintro ⟨hlength, hchar⟩
      obtain ⟨hlt, hchar⟩ := List.getElem?_eq_some_iff.mp hchar
      rw [List.drop_eq_getElem_cons hlt, hchar, List.drop_of_length_le (Nat.le_of_eq hlength.symm)]
  rw [hbreak, List.drop_eq_nil_iff]
  simp only [Regex.Anchor.holds, Bool.or_eq_true, Bool.and_eq_true, beq_iff_eq, List.size_toArray,
    List.getElem?_toArray]
  apply or_congr_left
  omega

section Split

variable {cs p f tail : List Char}

private theorem drop_closing (h : cs = '/' :: (p ++ '/' :: (f ++ tail))) :
    cs.drop (1 + p.length) = '/' :: (f ++ tail) := by
  rw [h, ← List.drop_drop, List.drop_one, List.tail_cons, List.drop_left]

private theorem drop_flags (h : cs = '/' :: (p ++ '/' :: (f ++ tail))) :
    cs.drop (1 + p.length + 1) = f ++ tail := by
  rw [← List.drop_drop, drop_closing h, List.drop_one, List.tail_cons]

private theorem drop_tail (h : cs = '/' :: (p ++ '/' :: (f ++ tail))) :
    cs.drop (1 + p.length + 1 + f.length) = tail := by
  rw [← List.drop_drop, drop_flags h, List.drop_left]

private theorem take_groups (h : cs = '/' :: (p ++ '/' :: (f ++ tail))) :
    (cs.take (1 + p.length)).drop 1 = p ∧
      (cs.take (1 + p.length + 1 + f.length)).drop (1 + p.length + 1) = f := by
  rw [List.drop_take, List.drop_take, drop_flags h, Nat.add_sub_cancel_left,
    Nat.add_sub_cancel_left, List.take_left, h, List.drop_one, List.tail_cons, List.take_left]
  exact ⟨rfl, rfl⟩

private theorem fits_iff_exists {n m : Nat} : Fits cs.toArray n m ↔
    ∃ p f tail, p.length = n ∧ f.length = m ∧ p ≠ [] ∧ (∀ c ∈ f, isFlagLetter c = true) ∧
      (tail = [] ∨ tail = ['\n']) ∧ cs = '/' :: (p ++ '/' :: (f ++ tail)) := by
  constructor
  · rintro ⟨hopening, hn, hpattern, hclosing, hflags, hend⟩
    obtain ⟨p, rfl, _, hp⟩ := Regex.passes_iff_exists.mp hpattern
    obtain ⟨f, rfl, hf, hdrop⟩ := Regex.passes_iff_exists.mp hflags
    rw [passes_slash_iff] at hopening hclosing
    dsimp only at hopening hp hclosing hdrop
    rw [List.drop_zero] at hopening
    have hcs : cs = '/' :: (p ++ '/' :: (f ++ cs.drop (1 + p.length + 1 + f.length))) := by
      rw [← hdrop, ← hclosing, ← hp]
      exact hopening
    have hlength : 1 + p.length + 1 + f.length ≤ cs.length := by
      rw [hcs]
      simp only [List.length_cons, List.length_append]
      omega
    refine ⟨p, f, _, rfl, rfl, List.ne_nil_of_length_pos hn, ?_,
      (lastLineEnd_holds_iff hlength).mp hend, hcs⟩
    exact fun c hc => letterTest_accepts_iff.mp (hf c hc)
  · rintro ⟨p, f, tail, rfl, rfl, hp, hf, htail, hcs⟩
    have hlength : 1 + p.length + 1 + f.length ≤ cs.length := by
      rw [hcs]
      simp only [List.length_cons, List.length_append]
      omega
    refine ⟨?_, List.length_pos_of_ne_nil hp, ?_, ?_, ?_, ?_⟩
    · rw [passes_slash_iff, List.toList_toArray, hcs]
      rfl
    · refine Regex.passes_iff_exists.mpr ⟨p, rfl, fun _ _ => rfl, ?_⟩
      rw [List.toList_toArray, drop_closing hcs, hcs]
      rfl
    · rw [passes_slash_iff, List.toList_toArray, drop_closing hcs, drop_flags hcs]
    · refine Regex.passes_iff_exists.mpr ⟨f, rfl,
        fun c hc => letterTest_accepts_iff.mpr (hf c hc), ?_⟩
      rw [List.toList_toArray, drop_flags hcs, drop_tail hcs]
    · rw [lastLineEnd_holds_iff hlength, drop_tail hcs]
      exact htail

end Split

private theorem groups?_shape (cs : List Char) : groups? shape cs = splitChars? cs := by
  have hfind := finds_shape cs.toArray
  rw [groups?]
  cases hrun : shape.run cs.toArray false 0 .none .matched with
  | matched position c =>
    rw [hrun] at hfind
    obtain ⟨_, hshows, _, _, hfits, rfl⟩ := hfind
    obtain ⟨p, f, tail, rfl, rfl, hp, hf, htail, hcs⟩ := fits_iff_exists.mp hfits
    have hsplit : splitChars? cs = some (p, f) := by
      refine (splitChars?_eq_some_iff _ _ _).mpr ⟨hp, hf, ?_⟩
      rcases htail with rfl | rfl
      · exact .inl (by simpa using hcs)
      · exact .inr (by simpa using hcs)
    have hfirst : c.span? 1 = some (1, 1 + p.length) :=
      hshows.span? rfl rfl (by omega) Nat.one_pos
    have hsecond : c.span? 2 = some (1 + p.length + 1, 1 + p.length + 1 + f.length) :=
      hshows.span? rfl rfl (by omega) Nat.two_pos
    obtain ⟨htext, hflags⟩ := take_groups hcs
    simp [hsplit, group?, hfirst, hsecond, htext, hflags]
  | failed c =>
    -- a way to split the text would have been found
    rw [hrun] at hfind
    symm
    rw [Option.eq_none_iff_forall_not_mem]
    rintro ⟨p, f⟩ hsplit
    obtain ⟨hp, hf, hcs⟩ := (splitChars?_eq_some_iff _ _ _).mp hsplit
    refine hfind.2 _ ⟨p.length, f.length, fits_iff_exists.mpr ?_, rfl⟩
    rcases hcs with rfl | rfl
    · exact ⟨p, f, [], rfl, rfl, hp, hf, .inl rfl, by simp⟩
    · exact ⟨p, f, ['\n'], rfl, rfl, hp, hf, .inr rfl, by simp⟩

/-- Splitting a text is matching it with the notation and taking the groups. -/
theorem split?_eq_groups (raw : String) : split? raw =
    (groups? shape raw.toList).map fun l => (String.ofList l.1, String.ofList l.2) := by
  rw [groups?_shape]
  rfl

end ClauseAudit.Literal
