import ClauseAudit.Proofs.Rule.Wire

/-!
# What loading refuses

A wire form is refused for its fields, for a literal that cannot be used, or for a literal with a
number over the limit of the pattern language. Literals are looked at last, when everything else
about the rule is in order.
-/

namespace ClauseAudit

namespace Wire

private theorem verify_eq_literal_iff {c : Option Check} {fault : LiteralFault} :
    verify c = .error (.literal fault) ↔
      ∃ c', c = some c' ∧ Literal.compile c'.pattern c'.flags = .error fault := by
  cases c with
  | none => simp [verify]
  | some c =>
    cases h : Literal.compile c.pattern c.flags with
    | error fault => simp [verify, h]
    | ok p => simp [verify, h]

private theorem stringField_ne_literal {id name : String} {fields : Json.Fields}
    {fault : LiteralFault} : stringField id fields name ≠ .error (.literal fault) := by
  unfold stringField
  split <;> simp

end Wire

namespace Rule

/-- The fields give the values of the rule, whether or not its patterns can be used. -/
structure Spelled (fields : Json.Fields) (r : Rule) : Prop where
  id : r.id = Wire.textField fields "id"
  id_ne : r.id ≠ ""
  clauseType : r.clauseType = Text.upper (Wire.textField fields "clauseType")
  clauseType_ne : r.clauseType ≠ ""
  severity : r.severity.name = Text.lower (Wire.textField fields "severity")
  required : ∃ pattern flags, Wire.Has fields "requirePattern" pattern ∧
    Wire.Has fields "requireFlags" flags ∧ r.required = Wire.check? pattern flags
  forbidden : ∃ pattern flags, Wire.Has fields "forbidPattern" pattern ∧
    Wire.Has fields "forbidFlags" flags ∧ r.forbidden = Wire.check? pattern flags
  remediation : ∃ given, Wire.Has fields "remediation" given ∧
    r.remediation = given.getD defaultRemediation
  checked : r.required ≠ none ∨ r.forbidden ≠ none

/-- The fault of the first check of the rule that cannot be used. -/
inductive FirstFault (r : Rule) (fault : LiteralFault) : Prop
  | required {c : Check} (given : r.required = some c)
      (compile : Literal.compile c.pattern c.flags = .error fault)
  | forbidden {c : Check}
      (usable : ∀ c' ∈ r.required, ∃ p, Literal.compile c'.pattern c'.flags = .ok p)
      (given : r.forbidden = some c) (compile : Literal.compile c.pattern c.flags = .error fault)

/-- A rule is refused for a literal when its fields are in order, for the first such literal. -/
theorem ofJson_obj_eq_literal_iff {fields : Json.Fields} {fault : LiteralFault} :
    ofJson (.obj fields) = .error (.literal fault) ↔
      ∃ r, Spelled fields r ∧ r.FirstFault fault := by
  unfold ofJson
  simp only [refused_eq_error_iff, String.isEmpty_iff]
  constructor
  · rintro (⟨_, h⟩ | ⟨hid, ⟨_, h⟩ | ⟨htype, h⟩⟩)
    · cases h
    · cases h
    · split at h
      · next severity hseverity =>
        simp only [bind_eq_error_iff, refused_eq_error_iff, Wire.stringField_ne_literal,
          Wire.stringField_eq_ok_iff, Wire.verify_eq_literal_iff, Wire.verify_eq_ok_iff,
          false_or, reduceCtorEq, and_false] at h
        obtain ⟨requirePattern, hrp, requireFlags, hrf, forbidPattern, hfp, forbidFlags, hff,
          given, hgiven, hchecked, hfault⟩ := h
        refine ⟨⟨_, _, Wire.check? requirePattern requireFlags,
          Wire.check? forbidPattern forbidFlags, severity, given.getD defaultRemediation⟩, {
            id := rfl
            id_ne := hid
            clauseType := rfl
            clauseType_ne := htype
            severity := ((Severity.ofName?_eq_some_iff _ _).mp hseverity).symm
            required := ⟨_, _, hrp, hrf, rfl⟩
            forbidden := ⟨_, _, hfp, hff, rfl⟩
            remediation := ⟨_, hgiven, rfl⟩
            checked := by simpa [← not_and_or] using hchecked }, ?_⟩
        rcases hfault with ⟨c, hc, hcompile⟩ | ⟨_, husable, ⟨c, hc, hcompile⟩ | ⟨_, _, hpure⟩⟩
        · exact .required hc hcompile
        · exact .forbidden husable hc hcompile
        · cases hpure
      · cases h
  · rintro ⟨r, hr, hfault⟩
    obtain ⟨requirePattern, requireFlags, hrp, hrf, hrequired⟩ := hr.required
    obtain ⟨forbidPattern, forbidFlags, hfp, hff, hforbidden⟩ := hr.forbidden
    obtain ⟨given, hgiven, _⟩ := hr.remediation
    have hchecked : ¬((Wire.check? requirePattern requireFlags).isNone &&
        (Wire.check? forbidPattern forbidFlags).isNone) = true := by
      rw [← hrequired, ← hforbidden]
      simpa [← not_and_or] using hr.checked
    refine .inr ⟨hr.id ▸ hr.id_ne, .inr ⟨hr.clauseType ▸ hr.clauseType_ne, ?_⟩⟩
    rw [← hr.severity, Severity.ofName?_name]
    simp only [bind_eq_error_iff, refused_eq_error_iff, Wire.stringField_ne_literal,
      Wire.stringField_eq_ok_iff, Wire.verify_eq_literal_iff, Wire.verify_eq_ok_iff,
      false_or, reduceCtorEq, and_false]
    refine ⟨_, hrp, _, hrf, _, hfp, _, hff, _, hgiven, hchecked, ?_⟩
    cases hfault with
    | required hc hcompile => exact .inl ⟨_, hrequired ▸ hc, hcompile⟩
    | forbidden husable hc hcompile =>
      exact .inr ⟨(), hrequired ▸ husable, .inl ⟨_, hforbidden ▸ hc, hcompile⟩⟩

/-- The value is a rule whose first unusable literal has a number over the limit. -/
def Overflows (v : Json.Value) : Prop :=
  ∃ fields r fault, v = .obj fields ∧ Spelled fields r ∧ r.FirstFault fault ∧
    fault.isOverflow = true

private theorem overflows_iff {v : Json.Value} :
    Overflows v ↔ ∃ f, ofJson v = .error f ∧ f.overflow? ≠ none := by
  constructor
  · rintro ⟨fields, r, fault, rfl, hr, hfault, hover⟩
    refine ⟨.literal fault, ofJson_obj_eq_literal_iff.mpr ⟨r, hr, hfault⟩, ?_⟩
    simp [LoadFault.overflow?, hover]
  · rintro ⟨f, hf, hover⟩
    unfold LoadFault.overflow? at hover
    split at hover
    · next fault =>
      have hisOverflow : fault.isOverflow = true := by
        by_contra hnot
        exact hover (if_neg hnot)
      cases v with
      | obj fields =>
        obtain ⟨r, hr, hfault⟩ := ofJson_obj_eq_literal_iff.mp hf
        exact ⟨fields, r, fault, rfl, hr, hfault, hisOverflow⟩
      | _ => cases hf
    · exact absurd rfl hover

end Rule

namespace Policy

/-- The first value among those of the rules that is no rule has a number over the limit. -/
def Overflows (v : Json.Value) : Prop :=
  ∃ fields before item after, v = .obj fields ∧
    fields.lookup "rules" = some (.arr (before ++ item :: after)) ∧
    (∀ item' ∈ before, ∃ r, Rule.ofJson item' = .ok r) ∧ Rule.Overflows item

private theorem ofJson_obj_eq_error_iff {fields : Json.Fields} {f : LoadFault} (h : f ≠ .noRules) :
    ofJson (.obj fields) = .error f ↔ ∃ before item after,
      fields.lookup "rules" = some (.arr (before ++ item :: after)) ∧
      (∀ item' ∈ before, ∃ r, Rule.ofJson item' = .ok r) ∧ Rule.ofJson item = .error f := by
  unfold ofJson
  simp only
  constructor
  · intro herror
    split at herror
    · next first rest hrules =>
      simp only [bind_eq_error_iff] at herror
      rcases herror with hitems | ⟨_, _, hpure⟩
      · obtain ⟨before, item, after, heq, hbefore, hitem⟩ := mapM_eq_error_iff.mp hitems
        exact ⟨before, item, after, heq ▸ hrules, hbefore, hitem⟩
      · cases hpure
    · exact absurd (Except.error.inj herror).symm h
  · rintro ⟨before, item, after, hrules, hbefore, hitem⟩
    obtain ⟨first, rest, hcons⟩ := List.exists_cons_of_ne_nil
      (show before ++ item :: after ≠ [] by simp)
    have hitems := mapM_eq_error_iff.mpr ⟨before, item, after, rfl, hbefore, hitem⟩
    rw [hcons] at hrules hitems
    rw [hrules]
    exact bind_eq_error_iff.mpr (.inl hitems)

theorem overflows_iff {v : Json.Value} :
    Overflows v ↔ ∃ f, ofJson v = .error f ∧ f.overflow? ≠ none := by
  constructor
  · rintro ⟨fields, before, item, after, rfl, hrules, hbefore, hitem⟩
    obtain ⟨f, hf, hover⟩ := Rule.overflows_iff.mp hitem
    have hne : f ≠ .noRules := by
      rintro rfl
      exact hover rfl
    exact ⟨f, (ofJson_obj_eq_error_iff hne).mpr ⟨before, item, after, hrules, hbefore, hf⟩, hover⟩
  · rintro ⟨f, hf, hover⟩
    have hne : f ≠ .noRules := by
      rintro rfl
      exact hover rfl
    cases v with
    | obj fields =>
      obtain ⟨before, item, after, hrules, hbefore, hitem⟩ := (ofJson_obj_eq_error_iff hne).mp hf
      exact ⟨fields, before, item, after, rfl, hrules, hbefore,
        Rule.overflows_iff.mpr ⟨f, hitem, hover⟩⟩
    | _ =>
      cases hf
      exact absurd rfl hover

end Policy

end ClauseAudit
