import ClauseAudit.Proofs.Language.Grammar
import ClauseAudit.Proofs.Outcome
import ClauseAudit.Proofs.Rule.Literal
import ClauseAudit.Proofs.Rule.Severity

/-!
# What one statement does

Every way in which a statement is taken up, with its conditions, as a relation between the states
before and after it. The numbers of lines take no part in it. A run over a text is a chain of such
steps.
-/

namespace ClauseAudit.Language

def Statement.argument : Statement → String
  | .policy argument => argument
  | .rule argument => argument
  | .field _ argument => argument
  | .close => ""
  | .other line => line

/-- The argument has no blanks around it, as in every statement that comes from a line. -/
def Statement.IsTrimmed (s : Statement) : Prop := Text.Trimmed s.argument.toList

private theorem Says.trimmed {keyword line argument : String} (h : Says keyword line argument) :
    Text.Trimmed argument.toList := by
  cases h with
  | bare => exact ⟨by simp, by simp⟩
  | more rest =>
    rw [Text.toList_strip]
    exact Text.trimmed_stripChars _

private theorem Reads.isTrimmed {line : String} {s : Statement} (h : Reads line s) :
    s.IsTrimmed := by
  cases h with
  | policy h => exact h.trimmed
  | rule h => exact h.trimmed
  | field keyword h => exact h.trimmed
  | close => exact ⟨by simp [Statement.argument], by simp [Statement.argument]⟩

private theorem ofLine_isKnown_or_eq_other (line : String) :
    (Statement.ofLine line.toList).isKnown = true ∨
      Statement.ofLine line.toList = .other line := by
  rw [Statement.ofLine]
  split
  · exact .inl rfl
  · split
    · exact .inl rfl
    · split
      · exact .inl rfl
      · split
        · exact .inl rfl
        · rw [String.ofList_toList]
          exact .inr rfl

private theorem isTrimmed_of_ofRaw? {raw : String} {s : Statement}
    (h : Statement.ofRaw? raw = some s) : s.IsTrimmed := by
  rw [ofRaw?_eq] at h
  split at h
  · cases h
  · rw [← Option.some.inj h]
    rcases ofLine_isKnown_or_eq_other (Text.strip raw) with hknown | hother
    · exact (reads_ofLine hknown).isTrimmed
    · rw [hother]
      show Text.Trimmed (Text.strip raw).toList
      rw [Text.toList_strip]
      exact Text.trimmed_stripChars _

/-! ## Values -/

private theorem fail_ne_ok {α : Type} {line : Nat} {reason : Reason} {a : α} :
    fail line reason ≠ .ok a := nofun

private theorem readQuoted_eq_ok_iff (raw : String) (line : Nat) (value : String) :
    readQuoted raw line = .ok value ↔ Quotes raw value := by
  have hquotes : Quotes raw value ↔ raw.toList = '"' :: (value.toList ++ ['"']) := by
    rw [Quotes, ← String.toList_inj]
    simp
  rw [hquotes, readQuoted, quoted?]
  constructor
  · intro h
    split at h
    · next s hs =>
      split at hs
      · next rest hraw =>
        split at hs
        · next hlast =>
          obtain ⟨before, rfl⟩ := List.getLast?_eq_some_iff.mp hlast
          rw [List.dropLast_concat] at hs
          rw [hraw, ← Except.ok.inj h, ← Option.some.inj hs, String.toList_ofList]
        · cases hs
      · cases hs
    · cases h
  · intro h
    simp [h]

private theorem readCheck_eq_ok_iff {raw : String} (hraw : Text.Trimmed raw.toList) (line : Nat)
    (c : Check) : readCheck raw line = .ok c ↔ Writes raw c := by
  constructor
  · intro h
    rw [readCheck] at h
    split at h
    · cases h
    · next pattern flags hsplit =>
      obtain ⟨hne, _, hformat⟩ := (Literal.split?_eq_some_iff _ _ _).mp hsplit
      split at h
      · next p hp =>
        rw [← Except.ok.inj h]
        refine ⟨?_, hne, ⟨p, hp⟩⟩
        rcases hformat with hformat | hnewline
        · exact hformat
        · have hblank := hraw.last '\n' (by rw [hnewline]; simp)
          exact absurd hblank (by decide)
      · cases h
      · split at h <;> cases h
  · rintro ⟨hformat, hne, ⟨p, hp⟩⟩
    rw [readCheck, hformat, Literal.split?_format hne (Literal.isFlagLetter_of_compile hp)]
    simp only [hp]

private theorem readSeverity_eq_ok_iff {raw : String} (hraw : Text.Trimmed raw.toList) (line : Nat)
    (s : Severity) : readSeverity raw line = .ok s ↔ NamesSeverity raw s := by
  have hstrip : Text.strip raw = raw := (Text.strip_eq_self_iff raw).mpr hraw
  rw [NamesSeverity, ← Severity.ofName?_eq_some_iff, readSeverity, hstrip]
  constructor
  · intro h
    split at h
    · next t ht => rw [ht, Except.ok.inj h]
    · cases h
  · intro h
    simp only [h]

/-! ## Steps -/

namespace Draft

/-- A statement adds a value to a draft that has none for its keyword. -/
inductive Adds (d : Draft) : Keyword → String → Draft → Prop
  | clauseType {argument clauseType : String} (unset : d.clauseType = none)
      (value : NamesType argument clauseType) :
      Adds d .clauseType argument { d with clauseType := some clauseType }
  | require {argument : String} {c : Check} (unset : d.required = none)
      (value : Writes argument c) : Adds d .require argument { d with required := some c }
  | forbid {argument : String} {c : Check} (unset : d.forbidden = none)
      (value : Writes argument c) : Adds d .forbid argument { d with forbidden := some c }
  | severity {argument : String} {s : Severity} (unset : d.severity = none)
      (value : NamesSeverity argument s) :
      Adds d .severity argument { d with severity := some s }
  | remediation {argument text : String} (unset : d.remediation = none)
      (value : Quotes argument text) :
      Adds d .remediation argument { d with remediation := some text }

private theorem Adds.unused {d d' : Draft} {keyword : Keyword} {argument : String}
    (h : d.Adds keyword argument d') : d.uses keyword = false := by
  cases h <;> simp [uses, *]

theorem add_of_uses {d : Draft} {keyword : Keyword} (h : d.uses keyword = true)
    (argument : String) (line : Nat) :
    d.add keyword argument line = fail line (.duplicate keyword d.id) := by
  unfold add
  simp only [h, if_true]
  rfl

/-- What a first statement of a keyword does, before its value is looked at. -/
def setFirst (d : Draft) (argument : String) (line : Nat) : Keyword → Except Failure Draft
  | .clauseType =>
    if argument.isEmpty then fail line .missingTypeValue
    else return { d with clauseType := some (Text.upper argument) }
  | .require => readCheck argument line >>= fun c => return { d with required := some c }
  | .forbid => readCheck argument line >>= fun c => return { d with forbidden := some c }
  | .severity => readSeverity argument line >>= fun s => return { d with severity := some s }
  | .remediation =>
    readQuoted argument line >>= fun text => return { d with remediation := some text }

theorem add_of_not_uses {d : Draft} {keyword : Keyword} (h : d.uses keyword = false)
    (argument : String) (line : Nat) :
    d.add keyword argument line = d.setFirst argument line keyword := by
  unfold add
  simp only [h, Bool.false_eq_true, if_false]
  cases keyword with
  | clauseType =>
    simp only [setFirst]
    split <;> rfl
  | require => rfl
  | forbid => rfl
  | severity => rfl
  | remediation => rfl

private theorem setFirst_eq_ok_iff {d d' : Draft} {keyword : Keyword} {argument : String}
    {line : Nat} (h : Text.Trimmed argument.toList) (hunused : d.uses keyword = false) :
    d.setFirst argument line keyword = .ok d' ↔ d.Adds keyword argument d' := by
  cases keyword with
  | clauseType =>
    have hunset : d.clauseType = none := by simpa [uses] using hunused
    simp only [setFirst]
    constructor
    · intro hset
      split at hset
      · exact absurd hset fail_ne_ok
      · next hne =>
        rw [pure_eq_ok_iff] at hset
        subst hset
        exact .clauseType hunset ⟨by simpa using hne, rfl⟩
    · intro hadds
      cases hadds with
      | clauseType _ value =>
        rw [if_neg (by simpa using value.1), value.2]
        rfl
  | require =>
    have hunset : d.required = none := by simpa [uses] using hunused
    simp only [setFirst, bind_eq_ok_iff, readCheck_eq_ok_iff h, pure_eq_ok_iff]
    constructor
    · rintro ⟨c, value, rfl⟩
      exact .require hunset value
    · intro hadds
      cases hadds with
      | require _ value => exact ⟨_, value, rfl⟩
  | forbid =>
    have hunset : d.forbidden = none := by simpa [uses] using hunused
    simp only [setFirst, bind_eq_ok_iff, readCheck_eq_ok_iff h, pure_eq_ok_iff]
    constructor
    · rintro ⟨c, value, rfl⟩
      exact .forbid hunset value
    · intro hadds
      cases hadds with
      | forbid _ value => exact ⟨_, value, rfl⟩
  | severity =>
    have hunset : d.severity = none := by simpa [uses] using hunused
    simp only [setFirst, bind_eq_ok_iff, readSeverity_eq_ok_iff h, pure_eq_ok_iff]
    constructor
    · rintro ⟨s, value, rfl⟩
      exact .severity hunset value
    · intro hadds
      cases hadds with
      | severity _ value => exact ⟨_, value, rfl⟩
  | remediation =>
    have hunset : d.remediation = none := by simpa [uses] using hunused
    simp only [setFirst, bind_eq_ok_iff, readQuoted_eq_ok_iff, pure_eq_ok_iff]
    constructor
    · rintro ⟨text, value, rfl⟩
      exact .remediation hunset value
    · intro hadds
      cases hadds with
      | remediation _ value => exact ⟨_, value, rfl⟩

private theorem add_eq_ok_iff {d d' : Draft} {keyword : Keyword} {argument : String} {line : Nat}
    (h : Text.Trimmed argument.toList) :
    d.add keyword argument line = .ok d' ↔ d.Adds keyword argument d' := by
  cases huses : d.uses keyword with
  | true =>
    rw [add_of_uses huses]
    constructor
    · exact fun hadd => absurd hadd fail_ne_ok
    · intro hadds
      rw [hadds.unused] at huses
      cases huses
  | false => rw [add_of_not_uses huses, setFirst_eq_ok_iff h huses]

/-- A draft that has all that a rule needs. -/
structure Completes (d : Draft) (r : Rule) : Prop where
  id : r.id = d.id
  clauseType : d.clauseType = some r.clauseType
  required : r.required = d.required
  forbidden : r.forbidden = d.forbidden
  checked : d.required ≠ none ∨ d.forbidden ≠ none
  severity : d.severity = some r.severity
  remediation : r.remediation = d.remediation.getD Rule.defaultRemediation

private theorem finish_eq_ok_iff {d : Draft} {r : Rule} {line : Nat} :
    d.finish line = .ok r ↔ d.Completes r := by
  unfold finish
  constructor
  · intro h
    split at h
    · next clauseType htype =>
      simp only at h
      split at h
      · cases h
      · next hchecks =>
        split at h
        · next severity hseverity =>
          rw [pure_eq_ok_iff] at h
          subst h
          refine ⟨rfl, htype, rfl, rfl, ?_, hseverity, rfl⟩
          simpa [← not_and_or] using hchecks
        · exact absurd h fail_ne_ok
    · exact absurd h fail_ne_ok
  · intro h
    have hchecks : ¬(d.required.isNone && d.forbidden.isNone) = true := by
      simpa [← not_and_or] using h.checked
    simp only [h.clauseType, h.severity, if_neg hchecks, pure_eq_ok_iff]
    rw [← h.id, ← h.required, ← h.forbidden, ← h.remediation]

end Draft

namespace State

/-- A statement takes one state to the next. -/
inductive Step (s : State) : Statement → State → Prop
  | policy {argument name : String} (unnamed : s.name = none) (value : Quotes argument name) :
      Step s (.policy argument) { s with name := some name }
  | rule {argument : String} (closed : s.draft = none) (value : argument ≠ "") :
      Step s (.rule argument) { s with draft := some { id := argument } }
  | field {d d' : Draft} {keyword : Keyword} {argument : String} (isOpen : s.draft = some d)
      (value : d.Adds keyword argument d') :
      Step s (.field keyword argument) { s with draft := some d' }
  | close {d : Draft} {r : Rule} (isOpen : s.draft = some d) (value : d.Completes r) :
      Step s .close { s with draft := none, rules := s.rules ++ [r] }

private theorem apply_eq_ok_iff {s s' : State} {statement : Statement} {line : Nat}
    (h : statement.IsTrimmed) : s.apply line statement = .ok s' ↔ s.Step statement s' := by
  unfold apply
  cases statement with
  | policy argument =>
    simp only
    constructor
    · intro happly
      split at happly
      · cases happly
      · next hname =>
        obtain ⟨name, hread, hs⟩ := bind_eq_ok_iff.mp happly
        rw [pure_eq_ok_iff] at hs
        subst hs
        exact .policy (by simpa using hname) ((readQuoted_eq_ok_iff _ _ _).mp hread)
    · intro hstep
      cases hstep with
      | policy unnamed value =>
        rw [unnamed, if_neg (by simp), (readQuoted_eq_ok_iff _ line _).mpr value]
        rfl
  | rule argument =>
    simp only
    constructor
    · intro happly
      split at happly
      · cases happly
      · next hdraft =>
        split at happly
        · cases happly
        · next hne =>
          rw [pure_eq_ok_iff] at happly
          subst happly
          exact .rule (Option.eq_none_iff_forall_ne_some.mpr hdraft) (by simpa using hne)
    · intro hstep
      cases hstep with
      | rule closed value =>
        rw [closed]
        simp only [if_neg (show ¬argument.isEmpty = true by simpa using value)]
        rfl
  | field keyword argument =>
    have hargument : Text.Trimmed argument.toList := h
    simp only
    constructor
    · intro happly
      split at happly
      · next d hdraft =>
        obtain ⟨d', hadd, hs⟩ := bind_eq_ok_iff.mp happly
        rw [pure_eq_ok_iff] at hs
        subst hs
        exact .field hdraft ((Draft.add_eq_ok_iff hargument).mp hadd)
      · cases happly
    · intro hstep
      cases hstep with
      | field isOpen value =>
        rw [isOpen]
        simp only
        rw [(Draft.add_eq_ok_iff hargument).mpr value]
        rfl
  | close =>
    simp only
    constructor
    · intro happly
      split at happly
      · next d hdraft =>
        obtain ⟨r, hfinish, hs⟩ := bind_eq_ok_iff.mp happly
        rw [pure_eq_ok_iff] at hs
        subst hs
        exact .close hdraft (Draft.finish_eq_ok_iff.mp hfinish)
      · cases happly
    · intro hstep
      cases hstep with
      | close isOpen value =>
        rw [isOpen]
        simp only [Draft.finish_eq_ok_iff.mpr value]
        rfl
  | other text =>
    simp only
    constructor
    · intro happly
      split at happly <;> cases happly
    · nofun

/-- A chain of steps. -/
inductive Steps : State → List Statement → State → Prop
  | nil {s : State} : Steps s [] s
  | cons {s t u : State} {statement : Statement} {statements : List Statement}
      (first : s.Step statement t) (rest : Steps t statements u) :
      Steps s (statement :: statements) u

theorem steps_append_iff {s u : State} {before after : List Statement} :
    Steps s (before ++ after) u ↔ ∃ t, Steps s before t ∧ Steps t after u := by
  induction before generalizing s with
  | nil =>
    constructor
    · exact fun h => ⟨s, .nil, h⟩
    · rintro ⟨t, hbefore, hafter⟩
      cases hbefore
      exact hafter
  | cons statement before ih =>
    constructor
    · intro h
      cases h with
      | cons first rest =>
        obtain ⟨t, hbefore, hafter⟩ := ih.mp rest
        exact ⟨t, .cons first hbefore, hafter⟩
    · rintro ⟨t, hbefore, hafter⟩
      cases hbefore with
      | cons first rest => exact .cons first (ih.mpr ⟨t, rest, hafter⟩)

theorem steps_concat_iff {s u : State} {before : List Statement} {last : Statement} :
    Steps s (before ++ [last]) u ↔ ∃ t, Steps s before t ∧ t.Step last u := by
  rw [steps_append_iff]
  constructor
  · rintro ⟨t, hbefore, hlast⟩
    cases hlast with
    | cons first rest =>
      cases rest
      exact ⟨t, hbefore, first⟩
  · rintro ⟨t, hbefore, hlast⟩
    exact ⟨t, hbefore, .cons hlast .nil⟩

/-- Lines are taken up without a fault exactly when their statements can be chained, wherever the
count of lines begins. -/
theorem run_eq_ok_iff {lines : List String} (s u : State) (line : Nat) :
    s.run line lines = .ok u ↔ Steps s (statementsOf lines) u := by
  induction lines generalizing s line with
  | nil =>
    rw [run]
    constructor
    · intro hrun
      cases hrun
      exact .nil
    · intro hsteps
      cases hsteps
      rfl
  | cons raw lines ih =>
    rw [statementsOf, List.filterMap_cons, run, bind_eq_ok_iff]
    cases hraw : Statement.ofRaw? raw with
    | none =>
      simp only
      rw [← statementsOf, ← ih s (line + 1)]
      simp [step, hraw]
    | some statement =>
      simp only [step, hraw, apply_eq_ok_iff (isTrimmed_of_ofRaw? hraw), ih]
      constructor
      · rintro ⟨t, first, rest⟩
        exact .cons first rest
      · intro hsteps
        cases hsteps with
        | cons first rest => exact ⟨_, first, rest⟩

private theorem finish_eq_ok_iff {s : State} {lastLine : Nat} {now : String} {p : Policy} :
    s.finish lastLine now = .ok p ↔ s.draft = none ∧ s.rules ≠ [] ∧
      p = { name := s.name.getD Policy.defaultName, compiledAt := now, rules := s.rules } := by
  unfold finish
  cases hdraft : s.draft with
  | some d =>
    constructor
    · intro h
      cases h
    · rintro ⟨hnone, _⟩
      cases hnone
  | none =>
    by_cases hrules : s.rules = []
    · constructor
      · intro h
        simp only [hrules, List.isEmpty_nil, if_true] at h
        cases h
      · rintro ⟨_, hne, _⟩
        exact absurd hrules hne
    · simp only [List.isEmpty_iff, if_neg hrules, pure_eq_ok_iff]
      constructor
      · exact fun h => ⟨trivial, hrules, h.symm⟩
      · exact fun h => h.2.2.symm

end State

theorem compile_eq_ok_iff_steps {text now : String} {p : Policy} :
    compile text now = .ok p ↔ ∃ s : State,
      State.Steps {} (statementsOf (Text.lines text)) s ∧ s.draft = none ∧ s.rules ≠ [] ∧
      p = { name := s.name.getD Policy.defaultName, compiledAt := now, rules := s.rules } := by
  unfold compile
  simp only [bind_eq_ok_iff, State.run_eq_ok_iff, State.finish_eq_ok_iff]

end ClauseAudit.Language
