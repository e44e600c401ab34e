import ClauseAudit.Proofs.Language.Fault
import ClauseAudit.Proofs.Rule.Refusal

/-!
# How building a policy fails

A text gives a policy or a diagnostic at one of its lines, and a wire form gives a policy or a
fault that says what is wrong with it. The one exception to both is a number over the limit of the
pattern language in a literal that is reached.
-/

namespace ClauseAudit

namespace Language

/-- The statement of some line, in the state after the lines before it, has a number over the
limit. -/
def OverflowsIn (text : String) : Prop :=
  ∃ before raw after s statement fault, Text.lines text = before ++ raw :: after ∧
    State.Steps {} (statementsOf before) s ∧ Statement.ofRaw? raw = some statement ∧
    s.Overflows statement fault

private theorem overflowsIn_iff (text now : String) :
    OverflowsIn text ↔ ∃ fault, compile text now = .error (.overflow fault) := by
  constructor
  · rintro ⟨before, raw, after, s, statement, fault, hlines, hsteps, hraw, hover⟩
    refine ⟨fault, compile_eq_error_iff.mpr (.inl (State.run_eq_error_iff.mpr
      ⟨before, raw, after, s, hlines, (State.run_eq_ok_iff _ _ _).mpr hsteps, ?_⟩))⟩
    rw [State.step, hraw]
    exact hover.apply_eq _
  · rintro ⟨fault, hcompile⟩
    rcases compile_eq_error_iff.mp hcompile with hrun | ⟨_, _, _, _, hfault⟩
    · obtain ⟨before, raw, after, s, hlines, hbefore, hstep⟩ := State.run_eq_error_iff.mp hrun
      cases s.failsAt_step _ raw _ hstep with
      | overflow h =>
        obtain ⟨statement, hraw, hover⟩ := h
        exact ⟨before, raw, after, s, statement, fault, hlines,
          (State.run_eq_ok_iff _ _ _).mp hbefore, hraw, hover⟩
    · cases hfault

/-- A policy, or a diagnostic at a line of the text. -/
inductive Reported (text : String) : Except Failure Policy → Prop
  | policy (p : Policy) : Reported text (.ok p)
  | diagnostic (d : Diagnostic) (first : 1 ≤ d.line)
      (last : d.line ≤ (Text.lines text).length) : Reported text (.error (.diagnostic d))

private theorem reported_iff (text now : String) :
    Reported text (compile text now) ↔ ¬OverflowsIn text := by
  rw [overflowsIn_iff text now]
  cases h : compile text now with
  | ok p => exact iff_of_true (.policy p) (by simp)
  | error f =>
    cases f with
    | diagnostic d =>
      obtain ⟨first, last⟩ := line_of_compile h
      exact iff_of_true (.diagnostic d first last) (by simp)
    | overflow fault =>
      refine iff_of_false ?_ (not_not_intro ⟨fault, rfl⟩)
      intro hreported
      cases hreported

end Language

/-- Building a policy from a text or from its wire form fails as it should, unless it comes to a
literal with a number over the limit, and then it does not. -/
theorem build_reports_iff (text now : String) (v : Json.Value) :
    (Language.Reported text (Language.compile text now) ↔ ¬Language.OverflowsIn text) ∧
      (((∃ p, Policy.ofJson v = .ok p) ∨
          ∃ f, Policy.ofJson v = .error f ∧ f.overflow? = none) ↔ ¬Policy.Overflows v) := by
  refine ⟨Language.reported_iff text now, ?_⟩
  rw [Policy.overflows_iff]
  cases Policy.ofJson v with
  | ok p => simp
  | error f => simp

/-- A text whose pattern repeats a letter as often as no pattern may. -/
def endlessText : String :=
  Text.joinLines ["RULE r", "WHEN CLAUSE TYPE X", "REQUIRE /a\x7b4294967295\x7d/",
    "SEVERITY low", "END"]

def endlessWire : Json.Value :=
  .obj [("rules", .arr [.obj [("id", .str "r"), ("clauseType", .str "X"),
    ("requirePattern", .str "a\x7b4294967295\x7d"), ("severity", .str "low")]])]

/-- Neither form of the rule is refused as it should be. -/
theorem endless_is_not_reported :
    ¬Language.Reported endlessText (Language.compile endlessText "") ∧
      ¬((∃ p, Policy.ofJson endlessWire = .ok p) ∨
        ∃ f, Policy.ofJson endlessWire = .error f ∧ f.overflow? = none) := by
  have hcompile : Language.compile endlessText "" =
      .error (.overflow (.pattern "a\x7b4294967295\x7d" "" .repetitionTooLarge)) := rfl
  have hload : Policy.ofJson endlessWire =
      .error (.literal (.pattern "a\x7b4294967295\x7d" "" .repetitionTooLarge)) := rfl
  constructor
  · rw [hcompile]
    nofun
  · rw [hload]
    rintro (⟨p, hp⟩ | ⟨f, hf, hover⟩)
    · cases hp
    · cases hf
      cases hover

end ClauseAudit
