import ClauseAudit.Proofs.Report.Record

/-!
# Which rules a policy can have

Compiling a text and loading a wire form promise the same about the rules of a policy: they are
well formed, and there is one. Nothing more can be promised, since well-formed rules are loaded from
their own wire form.
-/

namespace ClauseAudit

/-- The pattern and the flags of a check, as two fields: both are null, or both are strings with
which a pattern can be compiled, and the flags are distinct letters. -/
inductive CheckFields : Json.Value → Json.Value → Prop
  | absent : CheckFields .null .null
  | present {pattern flags : String} (pattern_ne : pattern ≠ "")
      (distinct : flags.toList.Nodup) (letters : ∀ c ∈ flags.toList, c ∈ ['i', 'm', 's', 'u'])
      (usable : ∃ p, Literal.compile pattern flags = .ok p) :
      CheckFields (.str pattern) (.str flags)

namespace Rule

structure WellFormed (r : Rule) : Prop where
  id_ne : r.id ≠ ""
  clauseType_ne : r.clauseType ≠ ""
  upper_clauseType : Text.upper r.clauseType = r.clauseType
  severity : r.severity.name ∈ ["critical", "high", "medium", "low", "info"]
  required : CheckFields (patternJson r.required) (flagsJson r.required)
  forbidden : CheckFields (patternJson r.forbidden) (flagsJson r.forbidden)
  checked : patternJson r.required ≠ .null ∨ patternJson r.forbidden ≠ .null

private theorem checkFields_iff {c : Option Check} :
    CheckFields (patternJson c) (flagsJson c) ↔ ∀ c' ∈ c, c'.Sound := by
  cases c with
  | none => exact iff_of_true .absent (by simp)
  | some c =>
    simp only [Option.mem_some_iff, forall_eq']
    constructor
    · intro h
      cases h with
      | present pattern_ne _ _ usable => exact ⟨pattern_ne, usable⟩
    · rintro ⟨pattern_ne, p, hp⟩
      obtain ⟨distinct, letters⟩ := Flags.exists_read_iff.mp (Literal.exists_read_of_compile hp)
      exact .present pattern_ne distinct letters ⟨p, hp⟩

private theorem patternJson_ne_null_iff {c : Option Check} : patternJson c ≠ .null ↔ c ≠ none := by
  cases c <;> simp [patternJson, checkJson]

private theorem wellFormed_iff_sound {r : Rule} : r.WellFormed ↔ r.Sound := by
  constructor
  · intro h
    exact {
      id_ne := h.id_ne
      clauseType_ne := h.clauseType_ne
      upper_clauseType := h.upper_clauseType
      required := checkFields_iff.mp h.required
      forbidden := checkFields_iff.mp h.forbidden
      checked := h.checked.imp patternJson_ne_null_iff.mp patternJson_ne_null_iff.mp }
  · intro h
    exact {
      id_ne := h.id_ne
      clauseType_ne := h.clauseType_ne
      upper_clauseType := h.upper_clauseType
      severity := by cases r.severity <;> decide
      required := checkFields_iff.mpr h.required
      forbidden := checkFields_iff.mpr h.forbidden
      checked := h.checked.imp patternJson_ne_null_iff.mpr patternJson_ne_null_iff.mpr }

end Rule

namespace Policy

theorem Built.rules_ne_nil {p : Policy} (h : p.Built) : p.rules ≠ [] := by
  cases h with
  | compiled h => exact Language.rules_ne_nil_of_compile h
  | loaded h => exact rules_ne_nil_of_ofJson h

/-- The rules of compiled and loaded policies are well-formed ones, and there is at least one. -/
theorem exists_built_iff_wellFormed {rules : List Rule} :
    (∃ p : Policy, p.Built ∧ p.rules = rules) ↔ rules ≠ [] ∧ ∀ r ∈ rules, r.WellFormed := by
  constructor
  · rintro ⟨p, hbuilt, rfl⟩
    exact ⟨hbuilt.rules_ne_nil, fun r hr => Rule.wellFormed_iff_sound.mpr (hbuilt.sound r hr)⟩
  · rintro ⟨hne, hwellFormed⟩
    have hsound : ∀ r ∈ rules, r.Sound :=
      fun r hr => Rule.wellFormed_iff_sound.mp (hwellFormed r hr)
    exact ⟨_, .loaded (ofJson_toJson (p := ⟨"", "", rules⟩) hne hsound), rfl⟩

end Policy

end ClauseAudit
