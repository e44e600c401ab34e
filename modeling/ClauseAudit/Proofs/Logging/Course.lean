import ClauseAudit.Proofs.Logging.Setups

/-!
# Calls in a row

What a logger does with a message is told by the first set-ups alone: its level is the nearest one
that is set along its name, and the nearest logger that was set up writes the message. For this the
links and the remembered answers have to agree with the names after every call, and they do for
each logger whose names were given in good order.
-/

namespace ClauseAudit.Logging

theorem ne_empty_of_mem_lineage {name n : String} (hne : name ≠ "") (h : n ∈ lineage name) :
    n ≠ "" := by
  simp only [lineage, List.cons_append, List.mem_cons, List.mem_append, List.mem_filter,
    List.not_mem_nil, or_false, List.mem_map] at h
  rcases h with rfl | ⟨⟨u, hu, rfl⟩, _⟩ | rfl
  · exact hne
  · rw [ne_eq, ← String.toList_eq_nil_iff, String.toList_ofList]
    exact (mem_beforeDots_iff.mp hu).1
  · decide

theorem findSome?_congr {α β : Type} {f g : α → Option β} {as : List α}
    (h : ∀ a ∈ as, f a = g a) : as.findSome? f = as.findSome? g := by
  induction as with
  | nil => rfl
  | cons a as ih =>
    obtain ⟨ha, has⟩ := List.forall_mem_cons.mp h
    rw [List.findSome?_cons, List.findSome?_cons, ha, ih has]

private theorem findSome?_filter_eq {β : Type} {f : String → Option β} {p q : String → Bool}
    {as : List String} (hpq : ∀ a, p a = true → q a = true)
    (hf : ∀ a ∈ as, q a = true → p a = false → f a = none) :
    (as.filter p).findSome? f = (as.filter q).findSome? f := by
  induction as with
  | nil => rfl
  | cons a as ih =>
    obtain ⟨ha, has⟩ := List.forall_mem_cons.mp hf
    cases hp : p a with
    | true =>
      rw [List.filter_cons_of_pos hp, List.filter_cons_of_pos (hpq a hp), List.findSome?_cons,
        List.findSome?_cons, ih has]
    | false =>
      rw [List.filter_cons_of_neg (by simp [hp]), ih has]
      cases hq : q a with
      | true => rw [List.filter_cons_of_pos hq, List.findSome?_cons, ha hq hp]
      | false => rw [List.filter_cons_of_neg (by simp [hq])]

private theorem map_find?_eq_findSome? {α β : Type} (p : α → Bool) (f : α → β) (as : List α) :
    (as.find? p).map f = as.findSome? fun a => if p a then some (f a) else none := by
  induction as with
  | nil => rfl
  | cons a as ih =>
    cases h : p a <;> simp [h, ih]

private theorem eq_of_lookup_singleton {k level : Int} {a b : Bool}
    (h : [(k, a)].lookup level = some b) : level = k ∧ a = b := by
  by_cases heq : level = k
  · simpa [List.lookup_cons, heq] using h
  · simp [List.lookup_cons, beq_eq_false_iff_ne.mpr heq] at h

namespace Registry

section Nearest

variable (s : String → Option Setup) (name : String)

/-- The level that a logger is set to; zero sets none. -/
def setLevel? : Option Int :=
  let level := ((s name).map (·.level)).getD (firstLevel name)
  if level ≠ 0 then some level else none

def nearestLevel : Int := ((lineage name).findSome? (setLevel? s)).getD 0

def nearestSetup? : Option Setup := (lineage name).findSome? s

/-- Records of a level are not dropped: the level is positive and not below the nearest one. -/
def enables (level : Int) : Bool := 0 < level && nearestLevel s name ≤ level

end Nearest

def SameLinks (r r' : Registry) : Prop :=
  r.waiting = r'.waiting ∧
    ∀ n, (r.loggers.lookup n).map (·.above) = (r'.loggers.lookup n).map (·.above)

private theorem SameLinks.isKnown_eq {r r' : Registry} (h : r.SameLinks r') : r.isKnown =
    r'.isKnown := by
  funext n
  have hn := congrArg Option.isSome (h.2 n)
  rwa [Option.isSome_map, Option.isSome_map] at hn

private theorem Linked.of_sameLinks {r r' : Registry} {names : List String} (h : r'.Linked names)
    (hsame : r.SameLinks r') : r.Linked names := by
  have hknown := hsame.isKnown_eq
  obtain ⟨hwaiting, hlookup⟩ := hsame
  refine ⟨fun n => ?_, fun n l hl htimely => ?_, fun n => ?_, fun u n => ?_⟩
  · rw [hknown]
    exact h.known n
  · have hn := hlookup n
    rw [hl, Option.map_some] at hn
    obtain ⟨l', hl', habove⟩ := Option.map_eq_some_iff.mp hn.symm
    rw [hknown, ← habove]
    exact h.above n l' hl' htimely
  · rw [hknown, hwaiting]
    exact h.waits n
  · rw [hknown, hwaiting]
    exact h.waiting u n

private theorem sameLinks_modify (r : Registry) (name : String) {f : Logger → Logger}
    (hf : ∀ l, (f l).above = l.above) : (r.modify name f).SameLinks r := by
  constructor
  · rw [modify]
    split <;> rfl
  · intro n
    rw [lookup_modify, Option.map_map]
    congr 1
    funext l
    rw [Function.comp_apply]
    split
    · exact hf l
    · rfl

private theorem sameLinks_forget (r : Registry) : r.forget.SameLinks r := by
  refine ⟨rfl, fun n => ?_⟩
  rw [forget, lookup_map fun _ l => Logger.forget l, Option.map_map]
  rfl

theorem SameLinks.trans {r r' r'' : Registry} (h : r.SameLinks r') (h' : r'.SameLinks r'') :
    r.SameLinks r'' :=
  ⟨h.1.trans h'.1, fun n => (h.2 n).trans (h'.2 n)⟩

private theorem sameLinks_after (r : Registry) (c : Call) : (r.after c).SameLinks
    (r.enter c.name) := by
  have henter (name : String) : r.enter (canonicalName name) = r.enter name := by
    simp only [enter, canonicalName_canonicalName]
  have hrefl (r : Registry) : r.SameLinks r := ⟨rfl, fun _ => rfl⟩
  cases c with
  | log e =>
    rw [after, Call.name, henter]
    refine sameLinks_modify _ _ fun l => ?_
    rw [Logger.remember]
    split <;> rfl
  | setUp name settings =>
    rw [Call.name, henter]
    rcases after_setUp_cases r name settings with ⟨hset, hafter⟩ | ⟨_, _, hafter⟩ | ⟨_, _, hafter⟩
    · have hself : r.enter name = r := by
        refine enter_eq_self ?_
        by_contra hnot
        obtain ⟨hroot, hunknown⟩ := not_or.mp hnot
        rw [Bool.not_eq_true, isKnown_eq_false_iff] at hunknown
        rw [logger, if_neg hroot, hunknown] at hset
        exact hset rfl
      rw [hafter, hself]
      exact hrefl r
    · rw [hafter]
      exact hrefl _
    · rw [hafter]
      have hset : (r.configure name ⟨namedLevel settings.level, settings.structured⟩).SameLinks
          (r.enter name).forget := sameLinks_modify _ name fun _ => rfl
      exact hset.trans (sameLinks_forget _)

private theorem canonicalName_name (c : Call) : canonicalName c.name = c.name := by
  cases c <;> exact canonicalName_canonicalName _

theorem linked_run (calls : List Call) : (run calls).Linked (calls.map Call.name) := by
  induction calls using List.reverseRecOn with
  | nil => exact linked_empty
  | append_singleton calls c ih =>
    have hentered := ih.enter c.name
    rw [canonicalName_name] at hentered
    rw [run_append, List.map_append, List.map_singleton]
    exact hentered.of_sameLinks (sameLinks_after _ c)

/-- Loggers are as the set-ups say. -/
structure Shown (r : Registry) (s : String → Option Setup) : Prop where
  shows : ∀ n, (r.logger n).Shows (firstLevel (canonicalName n)) (s (canonicalName n))
  named : ∀ n, r.isKnown n = true → n ≠ "" ∧ n ≠ rootName

/-- The answers that loggers remember are the right ones for the set-ups. -/
def Honest (r : Registry) (s : String → Option Setup) (names : List String) : Prop :=
  ∀ n level b, Orderly names (canonicalName n) →
    (r.logger n).answers.lookup level = some b → b = enables s (canonicalName n) level

section Settled

variable {r : Registry} {s : String → Option Setup} {names : List String} {name : String}

private theorem named_enter (h : ∀ n, r.isKnown n = true → n ≠ "" ∧ n ≠ rootName) (name : String) :
    ∀ n, (r.enter name).isKnown n = true → n ≠ "" ∧ n ≠ rootName := by
  intro n hn
  rcases (isKnown_enter r name n).mp hn with hold | ⟨rfl, hroot⟩
  · exact h n hold
  · exact ⟨canonicalName_ne_empty name, hroot⟩

theorem Shown.enter (h : r.Shown s) (name : String) : (r.enter name).Shown s :=
  ⟨fun n => shows_enter (h.shows n) name, named_enter h.named name⟩

theorem Honest.enter (h : r.Honest s names) (name k : String) :
    (r.enter name).Honest s (names ++ [k]) := by
  intro n level b horderly hb
  obtain ⟨above, habove⟩ := exists_logger_enter r name n
  rw [habove] at hb
  exact h n level b horderly.init hb

theorem shown_run (calls : List Call) : (run calls).Shown (firstSetup? calls) := by
  refine ⟨shows_run calls, ?_⟩
  induction calls using List.reverseRecOn with
  | nil =>
    intro n hn
    cases hn
  | append_singleton calls c ih =>
    rw [run_append, (sameLinks_after (run calls) c).isKnown_eq]
    exact named_enter ih c.name

theorem Shown.shows_of_mem_chain (h : r.Shown s) {l : Logger} (hl : l ∈ r.chain name) :
    ∃ unset t, l.Shows unset t := by
  have hroot : ∃ unset t, r.root.Shows unset t := ⟨_, _, h.shows rootName⟩
  have hchain (fuel : Nat) (n : String) (hl : l ∈ r.chainFrom fuel n) :
      ∃ unset t, l.Shows unset t := by
    induction fuel generalizing n with
    | zero => rwa [List.mem_singleton.mp hl]
    | succ fuel ih =>
      rw [chainFrom] at hl
      cases hn : r.loggers.lookup n with
      | none =>
        rw [hn] at hl
        rwa [List.mem_singleton.mp hl]
      | some l' =>
        rw [hn] at hl
        rcases List.mem_cons.mp hl with rfl | hl
        · obtain ⟨hne, hother⟩ := h.named n (by rw [isKnown, hn]; rfl)
          have hshows := h.shows n
          rw [logger, canonicalName_eq_self hne, if_neg hother, hn, Option.getD_some] at hshows
          exact ⟨_, _, hshows⟩
        · cases habove : l'.above with
          | none =>
            rw [habove] at hl
            rwa [List.mem_singleton.mp hl]
          | some above =>
            rw [habove] at hl
            exact ih above hl
  exact hchain _ _ hl

private theorem logger_of_ne {n : String} (hne : n ≠ "") (hroot : n ≠ rootName) :
    r.logger n = (r.loggers.lookup n).getD {} := by
  rw [logger, canonicalName_eq_self hne]
  exact if_neg hroot

private theorem ne_empty_of_mem {n : String}
    (h : n ∈ canonicalName name :: namesAbove (canonicalName name)) : n ≠ "" := by
  rcases List.mem_cons.mp h with rfl | habove
  · exact canonicalName_ne_empty name
  · exact (isAbove_of_mem_namesAbove habove).1

private theorem Linked.chain_of_root (h : r.Linked names) (hroot : canonicalName name = rootName) :
    r.chain name = [r.root] := by
  have hunknown : r.loggers.lookup rootName = none := by
    refine isKnown_eq_false_iff.mp (Bool.eq_false_iff.mpr fun hknown => ?_)
    exact ((h.known rootName).mp hknown).2 rfl
  rw [chain, hroot]
  cases name.length with
  | zero => rfl
  | succ n => rw [chainFrom, hunknown]

private theorem Linked.chain_of_known (h : r.Linked names)
    (horderly : Orderly names (canonicalName name))
    (hroot : canonicalName name ≠ rootName) (hknown : r.isKnown (canonicalName name) = true) :
    r.chain name = ((canonicalName name :: namesAbove (canonicalName name)).filter r.isKnown).map
      r.logger ++ [r.root] := by
  have hlength : (canonicalName name).length ≤ name.length := by
    rw [canonicalName]
    split
    · next hempty => exact absurd (by rw [canonicalName, if_pos hempty]) hroot
    · exact Nat.le_refl _
  rw [chain, h.chainFrom_eq horderly (canonicalName_ne_empty name) hknown hlength]
  congr 1
  refine List.map_congr_left fun n hn => ?_
  obtain ⟨hmem, hn'⟩ := List.mem_filter.mp hn
  exact (logger_of_ne (ne_empty_of_mem hmem) ((h.known n).mp hn').2).symm

/-- What is found first on the way up from a logger is found first along its name. -/
theorem Linked.findSome?_chain (h : r.Linked names) (horderly : Orderly names (canonicalName name))
    (hgiven : canonicalName name ∈ names) {β : Type} {g : Logger → Option β} (hg : g {} = none) :
    (r.chain name).findSome? g =
      (lineage (canonicalName name)).findSome? fun n => g (r.logger n) := by
  have hrootLogger : r.logger rootName = r.root := rfl
  by_cases hroot : canonicalName name = rootName
  · have hlineage : lineage rootName = [rootName, rootName] := by decide
    rw [h.chain_of_root hroot, hroot, hlineage]
    simp only [List.findSome?_cons, List.findSome?_nil, hrootLogger]
    cases g r.root <;> rfl
  · have hknown : r.isKnown (canonicalName name) = true := (h.known _).mpr ⟨hgiven, hroot⟩
    have hunset (n : String) (hn : n ∈ canonicalName name :: namesAbove (canonicalName name))
        (hother : decide (n ≠ rootName) = true) (hnot : r.isKnown n = false) :
        g (r.logger n) = none := by
      rw [logger_of_ne (ne_empty_of_mem hn) (of_decide_eq_true hother),
        isKnown_eq_false_iff.mp hnot]
      exact hg
    rw [h.chain_of_known horderly hroot hknown, List.findSome?_append, List.findSome?_map,
      Function.comp_def,
      findSome?_filter_eq (q := fun n => decide (n ≠ rootName))
        (fun n hn => decide_eq_true ((h.known n).mp hn).2) hunset,
      List.filter_cons_of_pos (by simpa using hroot), horderly.spaced.namesAbove_eq, lineage,
      List.findSome?_append]
    rfl

private theorem Shown.threshold_eq (h : r.Shown s) (hlinked : r.Linked names)
    (horderly : Orderly names (canonicalName name)) (hgiven : canonicalName name ∈ names) :
    r.threshold name = nearestLevel s (canonicalName name) := by
  rw [threshold, map_find?_eq_findSome?, nearestLevel, hlinked.findSome?_chain horderly hgiven rfl]
  congr 1
  refine findSome?_congr fun n hn => ?_
  have hlevel := (h.shows n).level
  rw [canonicalName_eq_self (ne_empty_of_mem_lineage (canonicalName_ne_empty name) hn)] at hlevel
  rw [setLevel?, hlevel]
  simp [bne_iff_ne]

theorem Shown.isEnabled_eq (h : r.Shown s) (hhonest : r.Honest s names) (hlinked : r.Linked names)
    (horderly : Orderly names (canonicalName name)) (hgiven : canonicalName name ∈ names)
    (level : Int) :
    r.isEnabled name level = enables s (canonicalName name) level := by
  rw [isEnabled, h.threshold_eq hlinked horderly hgiven]
  cases hanswer : (r.logger name).answers.lookup level with
  | none => rfl
  | some b => exact hhonest name level b horderly hanswer

end Settled

private theorem answers_configure (r : Registry) (name n : String) (t : Setup) :
    ((r.configure name t).logger n).answers = [] := by
  have hknown : canonicalName name = rootName ∨
      (r.enter name).forget.isKnown (canonicalName name) = true := by
    rw [(sameLinks_forget (r.enter name)).isKnown_eq]
    exact known_enter r name
  rw [configure, logger_modify _ _ _ hknown, logger_forget]
  split <;> rfl

private theorem firstSetup?_append_log (calls : List Call) (e : Entry) :
    firstSetup? (calls ++ [.log e]) = firstSetup? calls := by
  funext n
  rw [firstSetup?_append, Call.setup?, Option.or_none]

private theorem firstSetup?_append_setUp {calls : List Call} {name : String}
    {settings : LogSettings}
    (h : firstSetup? calls (canonicalName name) ≠ none ∨ Text.upper settings.level ∈ otherNames) :
    firstSetup? (calls ++ [.setUp name settings]) = firstSetup? calls := by
  funext n
  rw [firstSetup?_append, Call.setup?]
  split
  · next hand =>
    obtain ⟨t, ht⟩ := Option.ne_none_iff_exists'.mp (h.resolve_right hand.2)
    rw [← hand.1, ht]
    rfl
  · rw [Option.or_none]

/-- Answers stay right: a set-up drops all of them, and no other call changes what is right. -/
theorem honest_run (calls : List Call) :
    (run calls).Honest (firstSetup? calls) (calls.map Call.name) := by
  induction calls using List.reverseRecOn with
  | nil =>
    intro n level b _ hb
    have hnone : (({} : Registry).logger n).answers = [] := by
      rw [logger]
      split <;> rfl
    rw [run, List.foldl_nil, hnone] at hb
    cases hb
  | append_singleton calls c ih =>
    rw [run_append, List.map_append, List.map_singleton]
    cases c with
    | log e =>
      rw [firstSetup?_append_log]
      have hentered := ih.enter e.logger (canonicalName e.logger)
      intro n level b horderly hb
      rw [after, logger_modify _ _ _ (known_enter _ e.logger)] at hb
      split at hb
      · next heq =>
        rw [Logger.remember] at hb
        split at hb
        · exact hentered n level b horderly hb
        · rw [List.lookup_append, Option.or_eq_some_iff] at hb
          rcases hb with hb | ⟨_, hb⟩
          · exact hentered n level b horderly hb
          · obtain ⟨rfl, rfl⟩ := eq_of_lookup_singleton hb
            rw [heq] at horderly ⊢
            exact ((shown_run calls).enter e.logger).isEnabled_eq hentered
              ((linked_run calls).enter e.logger) horderly
              (List.mem_append_right _ List.mem_cons_self) _
      · exact hentered n level b horderly hb
    | setUp name settings =>
      have hunset := (shows_run calls name).handlers_eq_nil_iff
      intro n level b horderly hb
      rcases after_setUp_cases (run calls) name settings with ⟨hset, hafter⟩ | ⟨_, hother, hafter⟩ |
        ⟨_, _, hafter⟩
      · rw [firstSetup?_append_setUp (.inl fun hnone => hset (hunset.mpr hnone))]
        rw [hafter] at hb
        exact ih n level b horderly.init hb
      · rw [firstSetup?_append_setUp (.inr hother)]
        rw [hafter] at hb
        exact ih.enter name _ n level b horderly hb
      · rw [hafter, answers_configure] at hb
        cases hb

end Registry

end ClauseAudit.Logging
