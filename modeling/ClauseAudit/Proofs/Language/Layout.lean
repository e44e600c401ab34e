import ClauseAudit.Proofs.Language.Location
import ClauseAudit.Proofs.Text.LineEnds
import ClauseAudit.Rule.Fingerprint

/-!
# Layout of policy texts

Blanks around lines, blank lines, comments and the style of line breaks decide only at which line a
statement stands. Two texts with the same statements lead to the same states, one statement after
the other, and so to the same policy or to the same fault, at the line where the statement stands in
each of them.
-/

namespace ClauseAudit.Language

def isSpoken (raw : String) : Bool := !isSilent (Text.strip raw)

private theorem isSome_ofRaw? (raw : String) : (Statement.ofRaw? raw).isSome = isSpoken raw := by
  rw [ofRaw?_eq, isSpoken]
  cases isSilent (Text.strip raw) <;> rfl

theorem length_statementsOf (ls : List String) : (statementsOf ls).length = ls.countP isSpoken := by
  rw [statementsOf, List.length_filterMap_eq_countP]
  simp only [isSome_ofRaw?]

/-- On the line with the number stands the statement of the text that `k` others come before. -/
inductive StandsAt (text : String) (k : Nat) : Nat → Prop
  | intro {before after : List String} {raw : String}
      (lines_eq : Text.lines text = before ++ raw :: after) (spoken : isSpoken raw = true)
      (count : before.countP isSpoken = k) : StandsAt text k (before.length + 1)

/-- The outcomes of two texts differ at most in the numbers of lines and the time of compilation. A
statement that is refused stands at the same place among the statements of both texts. -/
inductive SameOutcome (t u : String) : Except Failure Policy → Except Failure Policy → Prop
  | policy {p q : Policy} (name : p.name = q.name) (rules : p.rules = q.rules)
      (fingerprint : p.fingerprint = q.fingerprint) : SameOutcome t u (.ok p) (.ok q)
  | statement {reason : Reason} {k m n : Nat} (early : reason.isFinal = false)
      (left : StandsAt t k m) (right : StandsAt u k n) :
      SameOutcome t u (.error (.diagnostic ⟨m, reason⟩)) (.error (.diagnostic ⟨n, reason⟩))
  | ending {reason : Reason} (final : reason.isFinal = true) :
      SameOutcome t u (.error (.diagnostic ⟨(Text.lines t).length, reason⟩))
        (.error (.diagnostic ⟨(Text.lines u).length, reason⟩))
  | overflow (fault : LiteralFault) :
      SameOutcome t u (.error (.overflow fault)) (.error (.overflow fault))

/-! ## Two runs -/

private theorem exists_lines_of_statementsOf {ls : List String} {first rest : List Statement}
    {statement : Statement} (h : statementsOf ls = first ++ statement :: rest) :
    ∃ before raw after, ls = before ++ raw :: after ∧ statementsOf before = first ∧
      Statement.ofRaw? raw = some statement := by
  obtain ⟨before, more, rfl, hbefore, hmore⟩ := List.filterMap_eq_append_iff.mp h
  obtain ⟨silent, raw, after, rfl, hsilent, hraw, _⟩ := List.filterMap_eq_cons_iff.mp hmore
  refine ⟨before ++ silent, raw, after, by simp, ?_, hraw⟩
  rw [statementsOf, List.filterMap_append, hbefore, List.filterMap_eq_nil_iff.mpr hsilent,
    List.append_nil]

private theorem standsAt_of_ofRaw? {text : String} {before after : List String} {raw : String}
    {statement : Statement} (hlines : Text.lines text = before ++ raw :: after)
    (hraw : Statement.ofRaw? raw = some statement) :
    StandsAt text (statementsOf before).length (1 + before.length) := by
  have hspoken : isSpoken raw = true := by
    rw [← isSome_ofRaw?, hraw]
    rfl
  rw [Nat.add_comm]
  exact .intro hlines hspoken (length_statementsOf before).symm

private theorem State.exists_run_eq_error {t u : String} {f : Failure}
    (hsame : statementsOf (Text.lines t) = statementsOf (Text.lines u))
    (h : State.run {} 1 (Text.lines t) = .error f) :
    ∃ k m n, StandsAt t k m ∧ StandsAt u k n ∧
      (∃ s raw, State.step s m raw = .error f) ∧
      State.run {} 1 (Text.lines u) = .error (f.moved n) := by
  obtain ⟨before, raw, after, s, hlines, hbefore, hstep⟩ := run_eq_error_iff.mp h
  obtain ⟨statement, hraw⟩ : ∃ statement, Statement.ofRaw? raw = some statement := by
    cases hraw : Statement.ofRaw? raw with
    | some statement => exact ⟨statement, rfl⟩
    | none =>
      rw [step, hraw] at hstep
      cases hstep
  have hcut : statementsOf (Text.lines u) =
      statementsOf before ++ statement :: statementsOf after := by
    rw [← hsame, hlines, statementsOf, List.filterMap_append, List.filterMap_cons_some hraw]
    rfl
  obtain ⟨before', raw', after', hlines', hbefore', hraw'⟩ := exists_lines_of_statementsOf hcut
  refine ⟨(statementsOf before).length, 1 + before.length, 1 + before'.length,
    standsAt_of_ofRaw? hlines hraw, ?_, ⟨s, raw, hstep⟩, ?_⟩
  · rw [← hbefore']
    exact standsAt_of_ofRaw? hlines' hraw'
  · -- The statements before it lead to the same state, where the same statement is refused.
    have hrun : State.run {} 1 before' = .ok s := by
      rw [run_eq_ok_iff, hbefore', ← run_eq_ok_iff _ _ 1]
      exact hbefore
    refine run_eq_error_iff.mpr ⟨before', raw', after', s, hlines', hrun, ?_⟩
    rw [step, hraw] at hstep
    rw [step, hraw']
    exact apply_eq_error_at hstep _

/-- Texts with the same statements have the same outcome. -/
theorem sameOutcome_of_statementsOf {t u : String}
    (hsame : statementsOf (Text.lines t) = statementsOf (Text.lines u)) (now now' : String) :
    SameOutcome t u (compile t now) (compile u now') := by
  cases ht : compile t now with
  | ok p =>
    obtain ⟨s, hsteps, hclosed, hrules, rfl⟩ := compile_eq_ok_iff_steps.mp ht
    rw [hsame] at hsteps
    rw [compile_eq_ok_iff_steps.mpr ⟨s, hsteps, hclosed, hrules, rfl⟩]
    exact .policy rfl rfl rfl
  | error f =>
    rcases compile_eq_error_iff.mp ht with hrun | ⟨s, hrun, reason, hunfinished, rfl⟩
    · obtain ⟨k, m, n, hm, hn, ⟨s, raw, hstep⟩, hrun'⟩ := State.exists_run_eq_error hsame hrun
      rw [compile_eq_error_iff.mpr (.inl hrun')]
      cases s.failsAt_step m raw f hstep with
      | diagnostic early => exact .statement early hm hn
      | overflow _ => exact .overflow _
    · rw [State.run_eq_ok_iff, hsame, ← State.run_eq_ok_iff _ _ 1] at hrun
      rw [compile_eq_error_iff.mpr (.inr ⟨s, hrun, reason, hunfinished, rfl⟩)]
      exact .ending hunfinished.isFinal

/-! ## Layouts -/

/-- Lines that say the same: they differ in the blanks around them, and blank lines and comments
stand anywhere between them. -/
inductive Relaid : List String → List String → Prop
  | nil : Relaid [] []
  | line {a b : String} {as bs : List String} (h : Text.strip a = Text.strip b)
      (rest : Relaid as bs) : Relaid (a :: as) (b :: bs)
  | silentLeft {a : String} {as bs : List String} (h : isSpoken a = false) (rest : Relaid as bs) :
      Relaid (a :: as) bs
  | silentRight {b : String} {as bs : List String} (h : isSpoken b = false) (rest : Relaid as bs) :
      Relaid as (b :: bs)

private theorem ofRaw?_eq_none_iff {raw : String} : Statement.ofRaw? raw = none ↔ isSpoken raw =
    false := by
  rw [← isSome_ofRaw?, Option.isSome_eq_false_iff, Option.isNone_iff_eq_none]

private theorem Relaid.statementsOf_eq {as bs : List String} (h : Relaid as bs) :
    statementsOf as = statementsOf bs := by
  induction h with
  | nil => rfl
  | line h _ ih => rw [statementsOf, statementsOf, List.filterMap_cons, List.filterMap_cons,
      ofRaw?_congr h, ← statementsOf, ← statementsOf, ih]
  | silentLeft h _ ih =>
    rw [statementsOf, List.filterMap_cons_none (ofRaw?_eq_none_iff.mpr h)]
    exact ih
  | silentRight h _ ih =>
    rw [ih, statementsOf, statementsOf, List.filterMap_cons_none (ofRaw?_eq_none_iff.mpr h)]

private theorem relaid_of_strip_eq {as bs : List String}
    (h : as.map Text.strip = bs.map Text.strip) : Relaid as bs := by
  induction as generalizing bs with
  | nil =>
    obtain rfl := List.map_eq_nil_iff.mp h.symm
    exact .nil
  | cons a as ih =>
    cases bs with
    | nil => cases h
    | cons b bs =>
      obtain ⟨hline, hrest⟩ := List.cons.inj h
      exact .line hline (ih hrest)

/-- The layout of a text changes nothing but the numbers of lines: not when the stripped lines
without blank lines and comments are the same, and so not when lines are indented, blank lines and
comments are put in or taken out, or carriage returns are put before the line feeds. -/
theorem layout_changes_no_outcome (now now' : String) :
    (∀ t u, spokenLines t = spokenLines u → SameOutcome t u (compile t now) (compile u now')) ∧
    (∀ t u, Relaid (Text.lines t) (Text.lines u) →
      SameOutcome t u (compile t now) (compile u now')) ∧
    ∀ t, SameOutcome t (Text.withReturns t) (compile t now) (compile (Text.withReturns t) now') := by
  refine ⟨?_, ?_, ?_⟩
  · intro t u h
    apply sameOutcome_of_statementsOf
    rw [statementsOf_eq, statementsOf_eq, h]
  · intro t u h
    exact sameOutcome_of_statementsOf h.statementsOf_eq now now'
  · intro t
    have hrelaid := relaid_of_strip_eq (Text.strip_lines_withReturns t).symm
    exact sameOutcome_of_statementsOf hrelaid.statementsOf_eq now now'

theorem relaid_shortBlock :
    spokenLines "RULE r\nEND" = spokenLines "# none\r\n\tRULE r\r\n\r\nEND " ∧
    SameOutcome "RULE r\nEND" "# none\r\n\tRULE r\r\n\r\nEND "
      (compile "RULE r\nEND" "") (compile "# none\r\n\tRULE r\r\n\r\nEND " "") := by
  have hspoken : spokenLines "RULE r\nEND" =
      spokenLines "# none\r\n\tRULE r\r\n\r\nEND " := by decide +kernel
  exact ⟨hspoken, (layout_changes_no_outcome "" "").1 _ _ hspoken⟩

end ClauseAudit.Language
