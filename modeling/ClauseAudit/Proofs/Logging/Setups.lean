import ClauseAudit.Proofs.Logging.Links

/-!
# Set-ups of loggers

The first set-up of a logger counts: after any calls each logger has the level and the handler of
its first set-up, or none, and hands records on exactly if it has no handler. Making a logger known
changes links only, and logging a message only what is remembered about levels.
-/

namespace ClauseAudit.Logging

/-- Texts that name other things than levels. -/
def otherNames : List String := ["BASIC_FORMAT", "_STYLES"]

/-- The level that a text names; a text that names nothing stands for the usual one. -/
def namedLevel (text : String) : Int := (levelsByName.lookup (Text.upper text)).getD 20

private theorem levelOf_eq_ok_iff {text : String} {level : Int} :
    levelOf text = .ok level ↔ Text.upper text ∉ otherNames ∧ level = namedLevel text := by
  unfold levelOf
  split
  · next h => simp [h, otherNames]
  · next h => simp [h, otherNames]
  · next hlayout hstyles =>
    have hother : Text.upper text ∉ otherNames := by
      simp only [otherNames, List.mem_cons, List.not_mem_nil, or_false, not_or]
      exact ⟨hlayout, hstyles⟩
    rw [namedLevel, Except.ok.injEq, eq_comm]
    exact (and_iff_right hother).symm

namespace Registry

def Call.name : Call → String
  | .setUp name _ => canonicalName name
  | .log e => canonicalName e.logger

def Call.setup? (c : Call) (name : String) : Option Setup :=
  match c with
  | .setUp n settings =>
    if canonicalName n = name ∧ Text.upper settings.level ∉ otherNames then
      some ⟨namedLevel settings.level, settings.structured⟩
    else none
  | .log _ => none

/-- The registry after calls, of which the first finds nothing set up. -/
def run (calls : List Call) : Registry := calls.foldl after {}

def firstSetup? (calls : List Call) (name : String) : Option Setup :=
  calls.findSome? fun c => c.setup? name

/-- The level of loggers that were not set up. Only the root has one. -/
def firstLevel (name : String) : Int := if name = rootName then rootLevel else 0

theorem run_append (calls : List Call) (c : Call) : run (calls ++ [c]) = (run calls).after c := by
  rw [run, run, List.foldl_append, List.foldl_cons, List.foldl_nil]

theorem firstSetup?_append (calls : List Call) (c : Call) (name : String) :
    firstSetup? (calls ++ [c]) name = (firstSetup? calls name).or (c.setup? name) := by
  rw [firstSetup?, firstSetup?, List.findSome?_append, List.findSome?_singleton]

end Registry

/-- A logger has the level and handler of a set-up, or without one nothing of its own. -/
structure Logger.Shows (l : Logger) (unset : Int) (s : Option Setup) : Prop where
  level : l.level = (s.map (·.level)).getD unset
  handlers : l.handlers = (s.map (·.structured)).toList
  propagates : l.propagates = s.isNone

private theorem Logger.Shows.of_eq {l l' : Logger} {unset : Int} {s : Option Setup}
    (h : l.Shows unset s) (hlevel : l'.level = l.level) (hhandlers : l'.handlers = l.handlers)
    (hpropagates : l'.propagates = l.propagates) : l'.Shows unset s :=
  ⟨hlevel.trans h.level, hhandlers.trans h.handlers, hpropagates.trans h.propagates⟩

private theorem Logger.Shows.setUp {l : Logger} {unset : Int} (h : l.Shows unset none) (s : Setup) :
    (l.setUp s).Shows unset (some s) where
  level := rfl
  handlers := by rw [Logger.setUp, h.handlers]; rfl
  propagates := rfl

theorem Logger.Shows.handlers_eq_nil_iff {l : Logger} {unset : Int} {s : Option Setup}
    (h : l.Shows unset s) : l.handlers = [] ↔ s = none := by
  rw [h.handlers, Option.toList_eq_nil_iff, Option.map_eq_none_iff]

namespace Registry

variable {r : Registry}

section Changes

variable (r : Registry) (name n : String)

theorem exists_logger_enter : ∃ above, (r.enter name).logger n = { r.logger n with above } := by
  by_cases hroot : canonicalName name = rootName
  · exact ⟨_, by rw [enter_eq_self (.inl hroot)]⟩
  cases hnew : r.isKnown (canonicalName name) with
  | true => exact ⟨_, by rw [enter_eq_self (.inr hnew)]⟩
  | false =>
    by_cases hn : canonicalName n = rootName
    · refine ⟨(r.logger n).above, ?_⟩
      rw [logger, logger, if_pos hn, if_pos hn, enter_new hroot hnew]
    · simp only [logger, if_neg hn, lookup_enter hroot hnew]
      cases hlookup : r.loggers.lookup (canonicalName n) with
      | some l =>
        simp only [Option.map_some, Option.some_or, Option.getD_some, relink]
        split
        · exact ⟨_, rfl⟩
        · exact ⟨l.above, rfl⟩
      | none =>
        simp only [Option.map_none, Option.none_or, Option.getD_none]
        split
        · exact ⟨_, rfl⟩
        · exact ⟨none, rfl⟩

theorem logger_forget : r.forget.logger n = (r.logger n).forget := by
  rw [logger, logger, forget]
  split
  · rfl
  · rw [lookup_map fun _ l => Logger.forget l]
    cases r.loggers.lookup (canonicalName n) <;> rfl

theorem lookup_modify {f : Logger → Logger} : (r.modify name f).loggers.lookup n =
    (r.loggers.lookup n).map fun l =>
      if canonicalName name ≠ rootName ∧ n = canonicalName name then f l else l := by
  by_cases hroot : canonicalName name = rootName
  · simp [modify, hroot]
  · have hmap : (r.modify name f).loggers = r.loggers.map fun e =>
        (e.1, if e.1 = canonicalName name then f e.2 else e.2) := by
      rw [modify, if_neg hroot]
      refine List.map_congr_left fun e _ => ?_
      split <;> rfl
    rw [hmap, lookup_map fun k l => if k = canonicalName name then f l else l]
    simp [hroot]

theorem logger_modify {f : Logger → Logger}
    (hknown : canonicalName name = rootName ∨ r.isKnown (canonicalName name) = true) :
    (r.modify name f).logger n =
      if canonicalName n = canonicalName name then f (r.logger n) else r.logger n := by
  rw [logger, logger]
  by_cases hn : canonicalName n = rootName
  · rw [if_pos hn, if_pos hn, modify, hn]
    by_cases hroot : canonicalName name = rootName
    · simp [hroot]
    · simp [hroot, Ne.symm hroot]
  · rw [if_neg hn, if_neg hn, lookup_modify]
    by_cases heq : canonicalName n = canonicalName name
    · have hroot : canonicalName name ≠ rootName := heq ▸ hn
      obtain ⟨l, hl⟩ := Option.isSome_iff_exists.mp (hknown.resolve_left hroot)
      rw [heq, hl]
      simp [hroot]
    · simp [heq]

theorem known_enter : canonicalName name = rootName ∨
    (r.enter name).isKnown (canonicalName name) = true := by
  by_cases hroot : canonicalName name = rootName
  · exact .inl hroot
  · exact .inr ((isKnown_enter r name _).mpr (.inr ⟨rfl, hroot⟩))

end Changes

theorem shows_enter {n : String} {unset : Int} {s : Option Setup}
    (h : (r.logger n).Shows unset s) (name : String) :
    ((r.enter name).logger n).Shows unset s := by
  obtain ⟨above, habove⟩ := exists_logger_enter r name n
  exact h.of_eq (by rw [habove]) (by rw [habove]) (by rw [habove])

private theorem shows_configure {name n : String} {unset : Int} {s : Option Setup} {t : Setup}
    (h : (r.logger n).Shows unset s) (hnone : canonicalName n = canonicalName name → s = none) :
    ((r.configure name t).logger n).Shows unset
      (if canonicalName n = canonicalName name then some t else s) := by
  have hknown : canonicalName name = rootName ∨
      (r.enter name).forget.isKnown (canonicalName name) = true := by
    refine (known_enter r name).imp_right fun hknown => ?_
    rwa [isKnown, forget, lookup_map fun _ l => Logger.forget l, Option.isSome_map]
  have hforget : ((r.enter name).logger n).forget.Shows unset s :=
    (shows_enter h name).of_eq rfl rfl rfl
  rw [configure, logger_modify _ _ _ hknown, logger_forget]
  by_cases heq : canonicalName n = canonicalName name
  · rw [if_pos heq, if_pos heq]
    rw [hnone heq] at hforget
    exact hforget.setUp t
  · rw [if_neg heq, if_neg heq]
    exact hforget

/-- All that a set-up does: nothing where there is a handler, or the logger is made known, and set
up if the text names no other thing than a level. -/
theorem after_setUp_cases (r : Registry) (name : String) (settings : LogSettings) :
    ((r.logger name).handlers ≠ [] ∧ r.after (.setUp name settings) = r) ∨
    ((r.logger name).handlers = [] ∧ Text.upper settings.level ∈ otherNames ∧
      r.after (.setUp name settings) = r.enter name) ∨
    ((r.logger name).handlers = [] ∧ Text.upper settings.level ∉ otherNames ∧
      r.after (.setUp name settings) =
        r.configure name ⟨namedLevel settings.level, settings.structured⟩) := by
  rw [after, setUp]
  by_cases hhandlers : (r.logger name).handlers = []
  · rw [hhandlers]
    cases hlevel : levelOf settings.level with
    | error e =>
      refine .inr (.inl ⟨rfl, ?_, rfl⟩)
      by_contra hother
      rw [levelOf_eq_ok_iff.mpr ⟨hother, rfl⟩] at hlevel
      cases hlevel
    | ok level =>
      obtain ⟨hother, rfl⟩ := levelOf_eq_ok_iff.mp hlevel
      exact .inr (.inr ⟨rfl, hother, rfl⟩)
  · exact .inl ⟨hhandlers, by simp [hhandlers]⟩

private theorem shows_after {s : String → Option Setup}
    (h : ∀ n, (r.logger n).Shows (firstLevel (canonicalName n)) (s (canonicalName n))) (c : Call)
    (n : String) : ((r.after c).logger n).Shows (firstLevel (canonicalName n))
      ((s (canonicalName n)).or (c.setup? (canonicalName n))) := by
  cases c with
  | log e =>
    have hentered := shows_enter (h n) e.logger
    rw [Call.setup?, Option.or_none, after, logger_modify _ _ _ (known_enter r e.logger)]
    split
    · refine hentered.of_eq ?_ ?_ ?_ <;> rw [Logger.remember] <;> split <;> rfl
    · exact hentered
  | setUp name settings =>
    rcases after_setUp_cases r name settings with ⟨hset, hafter⟩ | ⟨_, hother, hafter⟩ |
      ⟨hunset, hother, hafter⟩
    · rw [hafter, Call.setup?]
      by_cases heq : canonicalName name = canonicalName n
      · obtain ⟨t, ht⟩ := Option.ne_none_iff_exists'.mp
          fun hnone => hset ((h name).handlers_eq_nil_iff.mpr hnone)
        have hshows := h n
        rw [← heq, ht] at hshows ⊢
        exact hshows
      · rw [if_neg fun hand => heq hand.1, Option.or_none]
        exact h n
    · rw [hafter, Call.setup?, if_neg fun hand => hand.2 hother, Option.or_none]
      exact shows_enter (h n) name
    · have hnone : canonicalName n = canonicalName name → s (canonicalName n) = none :=
        fun heq => heq ▸ (h name).handlers_eq_nil_iff.mp hunset
      have hshows := shows_configure (t := ⟨namedLevel settings.level, settings.structured⟩)
        (h n) hnone
      rw [hafter, Call.setup?]
      by_cases heq : canonicalName n = canonicalName name
      · rw [if_pos heq] at hshows
        rw [hnone heq, Option.none_or, if_pos ⟨heq.symm, hother⟩]
        exact hshows
      · rw [if_neg heq] at hshows
        rw [if_neg fun hand => heq hand.1.symm, Option.or_none]
        exact hshows

/-- After any calls every logger is as its first set-up left it. -/
theorem shows_run (calls : List Call) (n : String) : ((run calls).logger n).Shows
    (firstLevel (canonicalName n)) (firstSetup? calls (canonicalName n)) := by
  induction calls using List.reverseRecOn generalizing n with
  | nil =>
    have hlogger : ({} : Registry).logger n =
        if canonicalName n = rootName then { level := rootLevel } else {} := rfl
    rw [run, List.foldl_nil, hlogger, firstLevel]
    split <;> exact ⟨rfl, rfl, rfl⟩
  | append_singleton calls c ih =>
    rw [run_append, firstSetup?_append]
    exact shows_after ih c n

end Registry

end ClauseAudit.Logging
