import ClauseAudit.Proofs.Language.Fault
import ClauseAudit.Proofs.Text.LineEnds

/-!
# A text is refused at the first line that rules it out

Every state that lines can lead to has a completion: lines that finish the open block, or give a
rule when no block is open. So the lines before a diagnostic can always go on to a policy, and the
line of the diagnostic is the first one with which they cannot.
-/

namespace ClauseAudit.Language

theorem statementsOf_append (before after : List String) :
    statementsOf (before ++ after) = statementsOf before ++ statementsOf after :=
  List.filterMap_append

/-! ## Completions -/

private theorem State.steps_ite {needed : Prop} [Decidable needed] {raw : String} {s t : State}
    (statement : Statement) (hraw : Statement.ofRaw? raw = some statement)
    (taken : needed → s.Step statement t) (skipped : ¬needed → s = t) :
    Steps s (statementsOf (if needed then [raw] else [])) t := by
  split
  · next h =>
    rw [statementsOf, List.filterMap_cons_some hraw]
    exact .cons (taken h) .nil
  · next h =>
    rw [skipped h]
    exact .nil

namespace Draft

/-- Lines for the parts that the block still lacks, and its end. -/
def completion (d : Draft) : List String :=
  (if d.clauseType = none then ["WHEN CLAUSE TYPE X"] else [])
    ++ (if d.required = none ∧ d.forbidden = none then ["REQUIRE /x/"] else [])
    ++ (if d.severity = none then ["SEVERITY low"] else []) ++ ["END"]

/-- The required check, or one that is as good as any when the draft has none of either kind. -/
def someCheck (d : Draft) : Option Check :=
  if d.required = none ∧ d.forbidden = none then some ⟨"x", ""⟩ else d.required

def withType (d : Draft) : Draft := { d with clauseType := some (d.clauseType.getD "X") }

def withCheck (d : Draft) : Draft := { d with required := d.someCheck }

def withSeverity (d : Draft) : Draft := { d with severity := some (d.severity.getD .low) }

def completed (d : Draft) : Rule :=
  { id := d.id
    clauseType := d.clauseType.getD "X"
    required := d.someCheck
    forbidden := d.forbidden
    severity := d.severity.getD .low
    remediation := d.remediation.getD Rule.defaultRemediation }

private theorem completes_completed (d : Draft) :
    d.withType.withCheck.withSeverity.Completes d.completed where
  id := rfl
  clauseType := rfl
  required := rfl
  forbidden := rfl
  checked := by
    show d.someCheck ≠ none ∨ d.forbidden ≠ none
    rw [someCheck]
    split
    · exact .inl (Option.some_ne_none _)
    · next h => exact not_and_or.mp h
  severity := rfl
  remediation := rfl

end Draft

namespace State

/-- The completion of an open block adds what it lacks, part by part, and closes it. -/
theorem steps_completion_of_draft (name : Option String) (d : Draft) (rules : List Rule) :
    Steps ⟨name, some d, rules⟩ (statementsOf d.completion)
      ⟨name, none, rules ++ [d.completed]⟩ := by
  have htype : Steps ⟨name, some d, rules⟩
      (statementsOf (if d.clauseType = none then ["WHEN CLAUSE TYPE X"] else []))
      ⟨name, some d.withType, rules⟩ := by
    apply steps_ite (.field .clauseType "X") rfl
    · intro h
      rw [Draft.withType, h]
      exact .field rfl (.clauseType h ⟨by decide, rfl⟩)
    · intro h
      obtain ⟨clauseType, hclauseType⟩ := Option.ne_none_iff_exists'.mp h
      rw [Draft.withType, hclauseType, Option.getD_some, ← hclauseType]
  have hcheck : Steps ⟨name, some d.withType, rules⟩
      (statementsOf (if d.required = none ∧ d.forbidden = none then ["REQUIRE /x/"] else []))
      ⟨name, some d.withType.withCheck, rules⟩ := by
    apply steps_ite (.field .require "/x/") rfl
    · intro h
      have hsome : d.withType.someCheck = some ⟨"x", ""⟩ := if_pos h
      rw [Draft.withCheck, hsome]
      exact .field rfl (.require h.1 ⟨rfl, by decide, ⟨_, rfl⟩⟩)
    · intro h
      have hsome : d.withType.someCheck = d.withType.required := if_neg h
      rw [Draft.withCheck, hsome]
  have hseverity : Steps ⟨name, some d.withType.withCheck, rules⟩
      (statementsOf (if d.severity = none then ["SEVERITY low"] else []))
      ⟨name, some d.withType.withCheck.withSeverity, rules⟩ := by
    apply steps_ite (.field .severity "low") rfl
    · intro h
      have hlow : d.withType.withCheck.severity.getD .low = .low := by
        show d.severity.getD .low = .low
        rw [h]
        rfl
      rw [Draft.withSeverity, hlow]
      exact .field rfl (.severity h rfl)
    · intro h
      obtain ⟨severity, hsome⟩ := Option.ne_none_iff_exists'.mp h
      have hkept : d.withType.withCheck.severity = some severity := hsome
      rw [Draft.withSeverity, hkept, Option.getD_some, ← hkept]
  have hclose : Steps ⟨name, some d.withType.withCheck.withSeverity, rules⟩
      (statementsOf ["END"]) ⟨name, none, rules ++ [d.completed]⟩ :=
    .cons (.close rfl d.completes_completed) .nil
  rw [Draft.completion, statementsOf_append, statementsOf_append, statementsOf_append]
  exact steps_append_iff.mpr ⟨_, steps_append_iff.mpr
    ⟨_, steps_append_iff.mpr ⟨_, htype, hcheck⟩, hseverity⟩, hclose⟩

/-- Lines that lead from the state to a policy. -/
def completion (s : State) : List String :=
  match s.draft with
  | some d => d.completion
  | none => "RULE x" :: Draft.completion { id := "x" }

private theorem steps_completion (s : State) :
    ∃ t, Steps s (statementsOf s.completion) t ∧ t.draft = none ∧ t.rules ≠ [] := by
  obtain ⟨name, draft, rules⟩ := s
  cases draft with
  | some d => exact ⟨_, steps_completion_of_draft name d rules, rfl, by simp⟩
  | none =>
    have hrule : Step ⟨name, none, rules⟩ (.rule "x") ⟨name, some { id := "x" }, rules⟩ :=
      .rule rfl (by decide)
    exact ⟨_, .cons hrule (steps_completion_of_draft name { id := "x" } rules), rfl, by simp⟩

def completionLines : List String :=
  ["RULE x", "WHEN CLAUSE TYPE X", "REQUIRE /x/", "SEVERITY low", "END"]

theorem mem_completionLines {s : State} : ∀ l ∈ s.completion, l ∈ completionLines := by
  have hdraft (d : Draft) : ∀ l ∈ d.completion, l ∈ completionLines := by
    intro l hl
    simp only [Draft.completion, List.mem_append, List.mem_ite_nil_right, List.mem_singleton] at hl
    rcases hl with ((⟨_, rfl⟩ | ⟨_, rfl⟩) | ⟨_, rfl⟩) | rfl <;> decide
  intro l hl
  rw [completion] at hl
  split at hl
  · exact hdraft _ l hl
  · rcases List.mem_cons.mp hl with rfl | hrest
    · decide
    · exact hdraft _ l hrest

private theorem unbroken_of_mem_completion {s : State} :
    ∀ l ∈ s.completion, Text.Unbroken l.toList := by
  intro l hl
  have hlines : ∀ l ∈ completionLines, '\n' ∉ l.toList ∧ l.toList.getLast? ≠ some '\r' := by
    decide
  obtain ⟨noFeed, noReturn⟩ := hlines l (mem_completionLines l hl)
  exact ⟨noFeed, noReturn⟩

theorem completion_ne_nil (s : State) : s.completion ≠ [] := by
  rw [completion]
  split
  · simp [Draft.completion]
  · simp

end State

/-! ## Texts that go on -/

/-- A text whose statements are those of some lines and of a completion is a policy. -/
theorem exists_compile_eq_ok {text now : String} {before : List String} {s : State}
    (hsteps : State.Steps {} (statementsOf before) s)
    (h : statementsOf (Text.lines text) = statementsOf before ++ statementsOf s.completion) :
    ∃ p, compile text now = .ok p := by
  obtain ⟨t, hcompletion, hclosed, hrules⟩ := s.steps_completion
  refine ⟨_, compile_eq_ok_iff_steps.mpr ⟨t, ?_, hclosed, hrules, rfl⟩⟩
  rw [h]
  exact State.steps_append_iff.mpr ⟨s, hsteps, hcompletion⟩

theorem statementsOf_append_feed (text further : String) :
    statementsOf (Text.lines (text ++ "\n" ++ further)) =
      statementsOf (Text.lines text) ++ statementsOf (Text.lines further) := by
  obtain ⟨ls, hlines, hstrip⟩ := Text.exists_lines_append text further
  rw [hlines, statementsOf_append, statementsOf_congr hstrip]

/-! ## The earliest line -/

/-- Every text with the same first lines fails in the same way. -/
def SettledBy (text : String) (n : Nat) (f : Failure) : Prop :=
  ∀ text' now, (Text.lines text').take n = (Text.lines text).take n →
    compile text' now = .error f

/-- Some text that begins with the lines is a policy. -/
def Extensible (lines : List String) : Prop :=
  ∃ text, lines <+: Text.lines text ∧ ∀ now, ∃ p, compile text now = .ok p

private theorem extensible_of_steps {before : List String} {s : State}
    (hsteps : State.Steps {} (statementsOf before) s) (h : ∀ l ∈ before, '\n' ∉ l.toList) :
    Extensible before := by
  have hfeed : ∀ l ∈ before ++ s.completion, '\n' ∉ l.toList := by
    intro l hl
    rcases List.mem_append.mp hl with hbefore | hcompletion
    · exact h l hbefore
    · exact (State.unbroken_of_mem_completion l hcompletion).noFeed
  have hne : before ++ s.completion ≠ [] := by
    rw [ne_eq, List.append_eq_nil_iff, not_and]
    exact fun _ => s.completion_ne_nil
  obtain ⟨text, htext⟩ := Text.exists_lines_eq_iff.mpr ⟨hne, hfeed⟩
  refine ⟨text, htext ▸ List.prefix_append _ _, fun now => exists_compile_eq_ok hsteps ?_⟩
  rw [htext, statementsOf_append]

private theorem settledBy_of_step {text : String} {before after : List String} {raw : String}
    {s : State} {f : Failure} (hlines : Text.lines text = before ++ raw :: after)
    (hbefore : State.run {} 1 before = .ok s) (hstep : s.step (1 + before.length) raw = .error f) :
    SettledBy text (1 + before.length) f := by
  intro text' now hsame
  have htake : (Text.lines text).take (1 + before.length) = before ++ [raw] := by
    rw [hlines, List.append_cons]
    exact List.take_left' (by simp [Nat.add_comm])
  have hlines' : Text.lines text' =
      before ++ raw :: (Text.lines text').drop (1 + before.length) := by
    conv_lhs => rw [← List.take_append_drop (1 + before.length) (Text.lines text'), hsame, htake]
    rw [List.append_assoc, List.singleton_append]
  exact compile_eq_error_iff.mpr (.inl (State.run_eq_error_iff.mpr
    ⟨before, raw, _, s, hlines', hbefore, hstep⟩))

/-- A diagnostic at a line depends on the lines up to this one alone, and the lines before it can
go on to a policy. A diagnostic after the last line is reported there, and the text can go on to
a policy. -/
theorem diagnostic_at_earliest_line {text now : String} {d : Diagnostic}
    (h : compile text now = .error (.diagnostic d)) :
    (d.reason.isFinal = false → (1 ≤ d.line ∧ d.line ≤ (Text.lines text).length) ∧
      SettledBy text d.line (.diagnostic d) ∧
      Extensible ((Text.lines text).take (d.line - 1))) ∧
    (d.reason.isFinal = true → d.line = (Text.lines text).length ∧
      ∃ further, ∀ now', ∃ p, compile (text ++ "\n" ++ further) now' = .ok p) := by
  rcases compile_eq_error_iff.mp h with hrun | ⟨s, hrun, reason, hunfinished, hd⟩
  · obtain ⟨before, raw, after, s, hlines, hbefore, hstep⟩ := State.run_eq_error_iff.mp hrun
    cases s.failsAt_step _ raw _ hstep with
    | diagnostic early =>
      refine ⟨fun _ => ⟨line_of_compile h, ?_, ?_⟩, ?_⟩
      · exact settledBy_of_step hlines hbefore hstep
      · have htake : (Text.lines text).take (1 + before.length - 1) = before := by
          rw [hlines, Nat.add_sub_cancel_left]
          exact List.take_left
        have hfeed := (Text.exists_lines_eq_iff.mp ⟨text, rfl⟩).2
        rw [htake]
        apply extensible_of_steps ((State.run_eq_ok_iff _ _ _).mp hbefore)
        intro l hl
        exact hfeed l (hlines ▸ List.mem_append_left _ hl)
      · intro hfinal
        cases early.symm.trans hfinal
  · cases hd
    constructor
    · intro hearly
      cases hearly.symm.trans hunfinished.isFinal
    · refine fun _ => ⟨rfl, Text.joinLines s.completion, fun now' => ?_⟩
      apply exists_compile_eq_ok ((State.run_eq_ok_iff _ _ _).mp hrun)
      rw [statementsOf_append_feed,
        Text.lines_joinLines s.completion_ne_nil State.unbroken_of_mem_completion]

/-- A block that ends too early is refused where it ends, and one without an end after it. -/
theorem diagnostics_of_short_blocks :
    (compile "RULE a\nEND" "" = .error (.diagnostic ⟨2, .missingType "a"⟩) ∧
      SettledBy "RULE a\nEND" 2 (.diagnostic ⟨2, .missingType "a"⟩) ∧ Extensible ["RULE a"]) ∧
    compile "RULE a" "" = .error (.diagnostic ⟨1, .unclosed "a"⟩) ∧
      ∃ further, ∀ now', ∃ p, compile ("RULE a" ++ "\n" ++ further) now' = .ok p := by
  have hended : compile "RULE a\nEND" "" = .error (.diagnostic ⟨2, .missingType "a"⟩) := rfl
  have hopen : compile "RULE a" "" = .error (.diagnostic ⟨1, .unclosed "a"⟩) := rfl
  obtain ⟨_, hsettled, hextensible⟩ := (diagnostic_at_earliest_line hended).1 rfl
  obtain ⟨_, hfurther⟩ := (diagnostic_at_earliest_line hopen).2 rfl
  exact ⟨⟨hended, hsettled, hextensible⟩, hopen, hfurther⟩

end ClauseAudit.Language
