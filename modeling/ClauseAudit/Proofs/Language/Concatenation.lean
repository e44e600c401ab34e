import ClauseAudit.Proofs.Language.Completion
import ClauseAudit.Proofs.Language.Location
import ClauseAudit.Proofs.Language.RoundTrip

/-!
# A text after another one

What the lines of a text do does not depend on the rules that are already complete, nor on a name
that was given before, as long as they give none themselves. So a text that comes after a compiled
one has the outcome that it has alone, with the rules of the first one in front of its own and with
its diagnostics at later lines. Only a text without any rule is no longer refused.
-/

namespace ClauseAudit.Language

/-! ## Later lines -/

def Failure.later (n : Nat) : Failure → Failure
  | .diagnostic d => .diagnostic ⟨n + d.line, d.reason⟩
  | .overflow fault => .overflow fault

private theorem Failure.Arises.moved_eq {line n : Nat} {limit : LiteralFault → Prop} {f : Failure}
    (h : f.Arises line limit) : f.moved (n + line) = f.later n := by
  cases h <;> rfl

namespace State

private theorem apply_later (s : State) (n line : Nat) (statement : Statement) :
    s.apply (n + line) statement = (s.apply line statement).mapError (Failure.later n) := by
  have hmoved := s.movable_apply statement line (n + line)
  cases h : s.apply line statement with
  | ok t =>
    simp only [h] at hmoved
    exact hmoved.symm
  | error f =>
    rw [apply_eq_error_at h, (s.failsAt_apply line statement f h).moved_eq]
    rfl

private theorem step_later (s : State) (n line : Nat) (raw : String) :
    s.step (n + line) raw = (s.step line raw).mapError (Failure.later n) := by
  unfold step
  split
  · rfl
  · exact s.apply_later n line _

private theorem run_later (s : State) (n line : Nat) (lines : List String) :
    s.run (n + line) lines = (s.run line lines).mapError (Failure.later n) := by
  induction lines generalizing s line with
  | nil => rfl
  | cons raw lines ih => simp only [run, mapError_bind, step_later, Nat.add_assoc, ih]

/-! ## What is already known -/

/-- The state with the name and the rules of another one before its own. -/
def onto (base s : State) : State := ⟨base.name.or s.name, s.draft, base.rules ++ s.rules⟩

private theorem onto_empty {base : State} (h : base.draft = none) : base.onto {} = base := by
  obtain ⟨name, draft, rules⟩ := base
  obtain rfl : draft = none := h
  simp [onto]

/-- Only a statement that names the policy looks at what is already known. -/
theorem apply_onto {base s : State} {statement : Statement} (line : Nat)
    (h : base.name = none ∨ policyArgument? statement = none) :
    (base.onto s).apply line statement = (s.apply line statement).map base.onto := by
  unfold apply
  cases statement with
  | policy argument =>
    obtain ⟨name, draft, rules⟩ := base
    obtain rfl : name = none := h.resolve_right (by simp [policyArgument?])
    cases hname : s.name with
    | some name =>
      simp only [onto, hname]
      rfl
    | none =>
      simp only [onto, hname]
      cases readQuoted argument line <;> rfl
  | rule argument =>
    cases hdraft : s.draft with
    | some d => simp only [onto, hdraft]; rfl
    | none =>
      simp only [onto, hdraft]
      cases argument.isEmpty <;> rfl
  | field keyword argument =>
    cases hdraft : s.draft with
    | none => simp only [onto, hdraft]; rfl
    | some d =>
      simp only [onto, hdraft]
      cases d.add keyword argument line <;> rfl
  | close =>
    cases hdraft : s.draft with
    | none => simp only [onto, hdraft]; rfl
    | some d =>
      simp only [onto, hdraft]
      cases d.finish line with
      | error f => rfl
      | ok r =>
        show Except.ok _ = Except.ok _
        rw [List.append_assoc]
        rfl
  | other text =>
    cases hdraft : s.draft <;> simp only [onto, hdraft] <;> rfl

private theorem step_onto {base s : State} {raw : String} (line : Nat)
    (h : base.name = none ∨ ∀ argument, Statement.ofRaw? raw ≠ some (.policy argument)) :
    (base.onto s).step line raw = (s.step line raw).map base.onto := by
  unfold step
  split
  · rfl
  · next statement hraw =>
    apply apply_onto
    refine h.imp_right fun hnone => ?_
    cases statement with
    | policy argument => exact absurd hraw (hnone argument)
    | _ => rfl

/-- A run goes on from a state as it begins, with what the state holds before what it adds. -/
theorem run_onto {base s : State} {lines : List String} (line : Nat)
    (h : base.name = none ∨ ∀ argument, Statement.policy argument ∉ statementsOf lines) :
    (base.onto s).run line lines = (s.run line lines).map base.onto := by
  induction lines generalizing s line with
  | nil => rfl
  | cons raw lines ih =>
    have hfirst : base.name = none ∨ ∀ argument, Statement.ofRaw? raw ≠ some (.policy argument) :=
      h.imp_right fun hnone argument hraw =>
        hnone argument (List.mem_filterMap.mpr ⟨raw, List.mem_cons_self, hraw⟩)
    have hrest : base.name = none ∨ ∀ argument, Statement.policy argument ∉ statementsOf lines := by
      refine h.imp_right fun hnone argument hmem => hnone argument ?_
      obtain ⟨raw', hraw', hsome⟩ := List.mem_filterMap.mp hmem
      exact List.mem_filterMap.mpr ⟨raw', List.mem_cons_of_mem raw hraw', hsome⟩
    rw [run, run, step_onto line hfirst, map_bind]
    cases s.step line raw with
    | error f => rfl
    | ok t => exact ih (line + 1) hrest

end State

/-! ## Two texts -/

def NamesPolicy (text : String) : Prop :=
  ∃ argument, Statement.policy argument ∈ statementsOf (Text.lines text)

/-- The name that one of two texts gives to the policy, or the default one when neither does. -/
inductive NamedBy (t u : String) : String → Prop
  | first {argument name : String}
      (statement : Statement.policy argument ∈ statementsOf (Text.lines t))
      (value : Quotes argument name) : NamedBy t u name
  | second {argument name : String}
      (statement : Statement.policy argument ∈ statementsOf (Text.lines u))
      (value : Quotes argument name) : NamedBy t u name
  | neither (first : ¬NamesPolicy t) (second : ¬NamesPolicy u) : NamedBy t u Policy.defaultName

/-- How the outcome of a text decides the outcome of this text after another one, which compiles to
the given policy. -/
inductive Follows (t : String) (p : Policy) (u : String) :
    Except Failure Policy → Except Failure Policy → Prop
  | policy {q r : Policy} (rules : r.rules = p.rules ++ q.rules) (name : NamedBy t u r.name) :
      Follows t p u (.ok q) (.ok r)
  | noRules {line : Nat} {r : Policy} (rules : r.rules = p.rules) (name : NamedBy t u r.name) :
      Follows t p u (.error (.diagnostic ⟨line, .noRules⟩)) (.ok r)
  | diagnostic {line : Nat} {reason : Reason} (h : reason ≠ .noRules) :
      Follows t p u (.error (.diagnostic ⟨line, reason⟩))
        (.error (.diagnostic ⟨(Text.lines t).length + line, reason⟩))
  | overflow (fault : LiteralFault) :
      Follows t p u (.error (.overflow fault)) (.error (.overflow fault))

private theorem name_eq_none_of_steps {statements : List Statement} {s : State}
    (h : State.Steps {} statements s)
    (hnone : ∀ argument, Statement.policy argument ∉ statements) : s.name = none := by
  have harguments : statements.filterMap policyArgument? = [] := by
    rw [List.eq_nil_iff_forall_not_mem]
    exact fun argument hmem => hnone argument (mem_policyArguments_iff.mp hmem)
  have hname := (State.steps_iff_tells.mp h).name
  rw [harguments] at hname
  exact atMostOnce_nil_iff.mp hname

private theorem namedBy_of_steps {t u : String} {s : State}
    (h : State.Steps {} (statementsOf (Text.lines (t ++ "\n" ++ u))) s) :
    NamedBy t u (s.name.getD Policy.defaultName) := by
  rw [statementsOf_append_feed] at h
  cases hs : s.name with
  | none =>
    have hname := (State.steps_iff_tells.mp h).name
    rw [hs, atMostOnce_none_iff] at hname
    have hnone : ∀ argument, Statement.policy argument ∉
        statementsOf (Text.lines t) ++ statementsOf (Text.lines u) := by
      intro argument hmem
      rw [← mem_policyArguments_iff, hname] at hmem
      cases hmem
    refine .neither ?_ ?_
    · exact fun ⟨argument, hmem⟩ => hnone argument (List.mem_append_left _ hmem)
    · exact fun ⟨argument, hmem⟩ => hnone argument (List.mem_append_right _ hmem)
  | some name =>
    have hname := (State.steps_iff_tells.mp h).name
    rw [hs] at hname
    obtain ⟨argument, harguments, hvalue⟩ := atMostOnce_some_iff.mp hname
    have hmem : Statement.policy argument ∈
        statementsOf (Text.lines t) ++ statementsOf (Text.lines u) := by
      rw [← mem_policyArguments_iff, harguments]
      exact List.mem_singleton_self argument
    rcases List.mem_append.mp hmem with hfirst | hsecond
    · exact .first hfirst hvalue
    · exact .second hsecond hvalue

/-- The lines of a text that comes after another one are taken up as they are alone, from the state
after the first text and with later numbers. -/
theorem run_append_feed {t u : String} {base : State}
    (h : State.run {} 1 (Text.lines t) = .ok base) (hclosed : base.draft = none)
    (hnames : ¬(NamesPolicy t ∧ NamesPolicy u)) :
    State.run {} 1 (Text.lines (t ++ "\n" ++ u)) =
      ((State.run {} 1 (Text.lines u)).mapError (Failure.later (Text.lines t).length)).map
        base.onto := by
  obtain ⟨ls, hlines, hstrip⟩ := Text.exists_lines_append t u
  have hlength : ls.length = (Text.lines t).length := by simpa using congrArg List.length hstrip
  rw [State.run_eq_ok_iff] at h
  have hfirst : State.run {} 1 ls = .ok base := by
    rw [State.run_eq_ok_iff, statementsOf_congr hstrip]
    exact h
  have hunnamed : base.name = none ∨
      ∀ argument, Statement.policy argument ∉ statementsOf (Text.lines u) := by
    by_cases hu : NamesPolicy u
    · refine .inl (name_eq_none_of_steps h fun argument hmem => ?_)
      exact hnames ⟨⟨argument, hmem⟩, hu⟩
    · exact .inr fun argument hmem => hu ⟨argument, hmem⟩
  rw [hlines, State.run_append, hfirst, hlength, Nat.add_comm 1]
  show base.run _ _ = _
  conv_lhs => rw [← State.onto_empty hclosed]
  rw [State.run_onto _ hunnamed, State.run_later]

private theorem compile_of_run_onto {text now : String} {base s : State}
    (h : State.run {} 1 (Text.lines text) = .ok (base.onto s)) (hclosed : s.draft = none)
    (hrules : base.rules ≠ []) : compile text now = .ok
      { name := (base.onto s).name.getD Policy.defaultName, compiledAt := now
        rules := base.rules ++ s.rules } := by
  refine compile_eq_ok_iff_steps.mpr
    ⟨base.onto s, (State.run_eq_ok_iff _ _ _).mp h, hclosed, ?_, rfl⟩
  exact List.append_ne_nil_of_left_ne_nil hrules s.rules

/-- A text that comes after a compiled one has the outcome that it has alone, after the rules of the
first text. -/
theorem outcome_append_feed {t u now : String} {p : Policy} (ht : compile t now = .ok p)
    (hnames : ¬(NamesPolicy t ∧ NamesPolicy u)) (now₁ now₂ : String) :
    Follows t p u (compile u now₁) (compile (t ++ "\n" ++ u) now₂) := by
  obtain ⟨base, hbase, hclosed, hrules, rfl⟩ := compile_eq_ok_iff_steps.mp ht
  have hconcat := run_append_feed ((State.run_eq_ok_iff _ _ 1).mpr hbase) hclosed hnames
  cases hu : State.run {} 1 (Text.lines u) with
  | error f =>
    rw [hu] at hconcat
    rw [compile_eq_error_iff.mpr (.inl hu), compile_eq_error_iff.mpr (.inl hconcat)]
    obtain ⟨before, raw, _, s, _, _, hstep⟩ := State.run_eq_error_iff.mp hu
    cases s.failsAt_step _ raw _ hstep with
    | diagnostic early =>
      refine .diagnostic ?_
      rintro rfl
      cases early
    | overflow _ => exact .overflow _
  | ok s =>
    rw [hu] at hconcat
    have hname := namedBy_of_steps ((State.run_eq_ok_iff _ _ _).mp hconcat)
    cases hdraft : s.draft with
    | some d =>
      -- the open block is open after both texts
      have hopen : (base.onto s).draft = some d := hdraft
      rw [compile_eq_error_iff.mpr (.inr ⟨s, hu, _, .unclosed hdraft, rfl⟩),
        compile_eq_error_iff.mpr (.inr ⟨_, hconcat, _, .unclosed hopen, rfl⟩),
        Text.length_lines_append]
      exact .diagnostic nofun
    | none =>
      rw [compile_of_run_onto hconcat hdraft hrules]
      by_cases hnone : s.rules = []
      · rw [compile_eq_error_iff.mpr (.inr ⟨s, hu, _, .noRules hdraft hnone, rfl⟩)]
        refine .noRules ?_ hname
        rw [hnone, List.append_nil]
      · rw [compile_eq_ok_iff_steps.mpr
          ⟨s, (State.run_eq_ok_iff _ _ _).mp hu, hdraft, hnone, rfl⟩]
        exact .policy rfl hname

/-- A short block after the six lines of a text is refused where it ends, two lines later. -/
theorem shortBlock_after_unnamedText : compile unnamedText "" = .ok unnamedPolicy ∧
    ¬(NamesPolicy unnamedText ∧ NamesPolicy "RULE b\nEND") ∧
    Follows unnamedText unnamedPolicy "RULE b\nEND" (compile "RULE b\nEND" "")
      (compile (unnamedText ++ "\n" ++ "RULE b\nEND") "") := by
  have hnames : ¬(NamesPolicy unnamedText ∧ NamesPolicy "RULE b\nEND") := by
    rintro ⟨_, argument, hmem⟩
    have hstatements : statementsOf (Text.lines "RULE b\nEND") = [.rule "b", .close] := rfl
    rw [hstatements] at hmem
    simp at hmem
  exact ⟨compile_unnamedText, hnames, outcome_append_feed compile_unnamedText hnames "" ""⟩

end ClauseAudit.Language
