import ClauseAudit.Proofs.Aligned
import ClauseAudit.Proofs.Json.RoundTrip
import ClauseAudit.Proofs.Outcome
import ClauseAudit.Proofs.Rule.Severity
import ClauseAudit.Proofs.Text.Case
import ClauseAudit.Rule.Wire

/-!
# What loading accepts

A loaded rule has a name, a type in upper case, and at least one check, all of whose patterns can
be used. Rules of this kind, and only these, are loaded from their own wire form unchanged, and so
are the policies with a name and such rules. Loading gives no other ones, so it leaves nothing for a
second time.
-/

namespace ClauseAudit

structure Check.Sound (c : Check) : Prop where
  pattern_ne : c.pattern ≠ ""
  usable : ∃ p, Literal.compile c.pattern c.flags = .ok p

/-- A rule that can be simulated and that survives its wire form. -/
structure Rule.Sound (r : Rule) : Prop where
  id_ne : r.id ≠ ""
  clauseType_ne : r.clauseType ≠ ""
  upper_clauseType : Text.upper r.clauseType = r.clauseType
  required : ∀ c ∈ r.required, c.Sound
  forbidden : ∀ c ∈ r.forbidden, c.Sound
  checked : r.required ≠ none ∨ r.forbidden ≠ none

namespace Wire

/-- The string that a field has; a missing field and null have none. -/
inductive Has (fields : Json.Fields) (name : String) : Option String → Prop
  | missing (h : fields.lookup name = none) : Has fields name none
  | null (h : fields.lookup name = some .null) : Has fields name none
  | text {s : String} (h : fields.lookup name = some (.str s)) : Has fields name (some s)

theorem stringField_eq_ok_iff {id name : String} {fields : Json.Fields} {value : Option String} :
    stringField id fields name = .ok value ↔ Has fields name value := by
  unfold stringField
  constructor
  · intro h
    split at h
    · next hmissing =>
      cases h
      exact .missing hmissing
    · next hnull =>
      cases h
      exact .null hnull
    · next s htext =>
      cases h
      exact .text htext
    · cases h
  · intro h
    cases h with
    | missing h => rw [h]
    | null h => rw [h]
    | text h => rw [h]

theorem Has.unique {fields : Json.Fields} {name : String} {v w : Option String}
    (hv : Has fields name v) (hw : Has fields name w) : v = w := by
  rw [← @stringField_eq_ok_iff ""] at hv hw
  exact Except.ok.inj (hv.symm.trans hw)

theorem textField_of_lookup {fields : Json.Fields} {name s : String}
    (h : fields.lookup name = some (.str s)) : textField fields name = s := by
  rw [textField, h]
  by_cases hs : s = ""
  · rw [hs]
    rfl
  · simp [Json.Value.isTruthy, Json.Value.plainText, hs]

private theorem check?_eq_some_iff {pattern flags : Option String} {c : Check} :
    check? pattern flags = some c ↔
      pattern = some c.pattern ∧ c.pattern ≠ "" ∧ c.flags = flags.getD "" := by
  obtain ⟨p, f⟩ := c
  cases pattern with
  | none => simp [check?]
  | some q =>
    by_cases hq : q = ""
    · subst hq
      simp [check?]
      rintro rfl hne
      exact absurd rfl hne
    · simp only [check?, String.isEmpty_iff, if_neg hq, Option.some.injEq, Check.mk.injEq]
      constructor
      · rintro ⟨rfl, rfl⟩
        exact ⟨rfl, hq, rfl⟩
      · rintro ⟨rfl, _, rfl⟩
        exact ⟨rfl, rfl⟩

theorem verify_eq_ok_iff {c : Option Check} {u : Unit} :
    verify c = .ok u ↔ ∀ c' ∈ c, ∃ p, Literal.compile c'.pattern c'.flags = .ok p := by
  cases c with
  | none => simp [verify]
  | some c =>
    cases h : Literal.compile c.pattern c.flags with
    | error fault => simp [verify, h]
    | ok p => simp [verify, h]

private theorem sound_of_verify {pattern flags : Option String} {u : Unit}
    (h : verify (check? pattern flags) = .ok u) : ∀ c ∈ check? pattern flags, c.Sound := by
  intro c hc
  have hne := (check?_eq_some_iff.mp hc).2.1
  exact ⟨hne, verify_eq_ok_iff.mp h c hc⟩

end Wire

namespace Rule

/-- The fields are those of the rule. -/
structure Loads (fields : Json.Fields) (r : Rule) : Prop where
  id : r.id = Wire.textField fields "id"
  clauseType : r.clauseType = Text.upper (Wire.textField fields "clauseType")
  severity : r.severity.name = Text.lower (Wire.textField fields "severity")
  required : ∃ pattern flags, Wire.Has fields "requirePattern" pattern ∧
    Wire.Has fields "requireFlags" flags ∧ r.required = Wire.check? pattern flags
  forbidden : ∃ pattern flags, Wire.Has fields "forbidPattern" pattern ∧
    Wire.Has fields "forbidFlags" flags ∧ r.forbidden = Wire.check? pattern flags
  remediation : ∃ given, Wire.Has fields "remediation" given ∧
    r.remediation = given.getD defaultRemediation
  sound : r.Sound

theorem ofJson_obj_eq_ok_iff {fields : Json.Fields} {r : Rule} :
    ofJson (.obj fields) = .ok r ↔ Loads fields r := by
  unfold ofJson
  simp only [refused_eq_ok_iff, String.isEmpty_iff]
  constructor
  · rintro ⟨hid, htype, h⟩
    split at h
    · next severity hseverity =>
      simp only [bind_eq_ok_iff, refused_eq_ok_iff, Wire.stringField_eq_ok_iff,
        pure_eq_ok_iff] at h
      obtain ⟨requirePattern, hrp, requireFlags, hrf, forbidPattern, hfp, forbidFlags, hff, given,
        hgiven, hchecked, _, hrequired, _, hforbidden, rfl⟩ := h
      exact {
        id := rfl
        clauseType := rfl
        severity := ((Severity.ofName?_eq_some_iff _ _).mp hseverity).symm
        required := ⟨_, _, hrp, hrf, rfl⟩
        forbidden := ⟨_, _, hfp, hff, rfl⟩
        remediation := ⟨_, hgiven, rfl⟩
        sound := {
          id_ne := hid
          clauseType_ne := htype
          upper_clauseType := Text.upper_upper _
          required := Wire.sound_of_verify hrequired
          forbidden := Wire.sound_of_verify hforbidden
          checked := by simpa [← not_and_or] using hchecked } }
    · cases h
  · intro h
    obtain ⟨id, clauseType, required, forbidden, severity, remediation⟩ := r
    obtain ⟨hid, htype, hseverity, ⟨_, _, hrp, hrf, hrequired⟩, ⟨_, _, hfp, hff, hforbidden⟩,
      ⟨_, hgiven, hremediation⟩, hsound⟩ := h
    have hchecked : ¬(required.isNone && forbidden.isNone) = true := by
      simpa [← not_and_or] using hsound.checked
    have hverified : Wire.verify required = .ok () ∧ Wire.verify forbidden = .ok () := by
      constructor
      · exact Wire.verify_eq_ok_iff.mpr fun c hc => (hsound.required c hc).usable
      · exact Wire.verify_eq_ok_iff.mpr fun c hc => (hsound.forbidden c hc).usable
    simp only at hid htype hseverity hrequired hforbidden hremediation
    subst hid htype hrequired hforbidden hremediation
    refine ⟨hsound.id_ne, hsound.clauseType_ne, ?_⟩
    rw [← hseverity, Severity.ofName?_name]
    simp only [bind_eq_ok_iff, refused_eq_ok_iff, Wire.stringField_eq_ok_iff, pure_eq_ok_iff]
    exact ⟨_, hrp, _, hrf, _, hfp, _, hff, _, hgiven, hchecked, (), hverified.1, (), hverified.2,
      rfl⟩

private theorem sound_of_ofJson {v : Json.Value} {r : Rule} (h : ofJson v = .ok r) : r.Sound := by
  cases v with
  | obj fields => exact (ofJson_obj_eq_ok_iff.mp h).sound
  | _ => cases h

/-! ## Round trips -/

section CheckJson

variable (text : Check → String)

private theorem plain_checkJson (c : Option Check) : (checkJson text c).Plain := by
  cases c with
  | none => exact .null
  | some c => exact .str _

private theorem short_checkJson (limit : Option Nat) (c : Option Check) :
    (checkJson text c).Short limit := by
  cases c with
  | none => exact .null
  | some c => exact .str _

private theorem checkJson_has {c : Option Check} {fields : Json.Fields} {name : String}
    (h : fields.lookup name = some (checkJson text c)) : Wire.Has fields name (c.map text) := by
  cases c with
  | none => exact .null h
  | some c => exact .text h

end CheckJson

theorem plain_toJson (r : Rule) : r.toJson.Plain := by
  refine .obj (by simp) ?_
  simp [Json.Value.Plain.str, patternJson, flagsJson, plain_checkJson]

theorem short_toJson (r : Rule) (limit : Option Nat) : r.toJson.Short limit := by
  refine .obj ?_
  simp [Json.Value.Short.str, patternJson, flagsJson, short_checkJson]

private theorem check?_map {c : Option Check} (h : ∀ c' ∈ c, c'.pattern ≠ "") :
    Wire.check? (c.map (·.pattern)) (c.map (·.flags)) = c := by
  cases c with
  | none => rfl
  | some c => exact Wire.check?_eq_some_iff.mpr ⟨rfl, h c rfl, rfl⟩

theorem eq_check_iff {c value : Option Check} {fields : Json.Fields}
    {patternName flagsName : String} (h : ∀ c' ∈ c, c'.pattern ≠ "")
    (hpattern : fields.lookup patternName = some (patternJson c))
    (hflags : fields.lookup flagsName = some (flagsJson c)) :
    (∃ pattern flags, Wire.Has fields patternName pattern ∧ Wire.Has fields flagsName flags ∧
      value = Wire.check? pattern flags) ↔ value = c := by
  constructor
  · rintro ⟨pattern, flags, hp, hf, hvalue⟩
    rw [hvalue, hp.unique (checkJson_has _ hpattern), hf.unique (checkJson_has _ hflags),
      check?_map h]
  · rintro rfl
    exact ⟨_, _, checkJson_has _ hpattern, checkJson_has _ hflags, (check?_map h).symm⟩

/-- A rule is loaded from its own wire form exactly when it is sound. -/
theorem ofJson_toJson_iff (r : Rule) : ofJson r.toJson = .ok r ↔ r.Sound := by
  constructor
  · exact sound_of_ofJson
  · intro h
    rw [toJson, ofJson_obj_eq_ok_iff]
    exact {
      id := (Wire.textField_of_lookup rfl).symm
      clauseType := by rw [Wire.textField_of_lookup (s := r.clauseType) rfl, h.upper_clauseType]
      severity := by
        rw [Wire.textField_of_lookup (s := r.severity.name) rfl, Severity.lower_name]
      required := (eq_check_iff (fun c hc => (h.required c hc).pattern_ne) rfl rfl).mpr rfl
      forbidden := (eq_check_iff (fun c hc => (h.forbidden c hc).pattern_ne) rfl rfl).mpr rfl
      remediation := ⟨_, .text rfl, rfl⟩
      sound := h }

end Rule

namespace Policy

theorem ofJson_obj_eq_ok_iff {fields : Json.Fields} {p : Policy} :
    ofJson (.obj fields) = .ok p ↔ ∃ items, fields.lookup "rules" = some (.arr items) ∧
      items ≠ [] ∧ List.Forall₂ (fun v r => Rule.ofJson v = .ok r) items p.rules ∧
      p.compiledAt = Wire.textField fields "compiledAt" ∧
      p.name = if Wire.textField fields "policyName" = "" then defaultName
        else Wire.textField fields "policyName" := by
  unfold ofJson
  simp only [String.isEmpty_iff]
  constructor
  · intro h
    split at h
    · next first rest hrules =>
      simp only [bind_eq_ok_iff, mapM_eq_ok_iff, pure_eq_ok_iff] at h
      obtain ⟨rules, hall, rfl⟩ := h
      exact ⟨_, hrules, List.cons_ne_nil _ _, hall, rfl, rfl⟩
    · cases h
  · rintro ⟨items, hrules, hne, hall, hcompiledAt, hname⟩
    cases items with
    | nil => exact absurd rfl hne
    | cons first rest =>
      rw [hrules]
      simp only [bind_eq_ok_iff, mapM_eq_ok_iff, pure_eq_ok_iff]
      exact ⟨p.rules, hall, by rw [← hcompiledAt, ← hname]⟩

theorem sound_of_ofJson {v : Json.Value} {p : Policy} (h : ofJson v = .ok p) :
    ∀ r ∈ p.rules, r.Sound := by
  cases v with
  | obj fields =>
    obtain ⟨items, _, _, hall, _⟩ := ofJson_obj_eq_ok_iff.mp h
    exact forall₂_forall_right hall fun _ _ => Rule.sound_of_ofJson
  | _ => cases h

theorem rules_ne_nil_of_ofJson {v : Json.Value} {p : Policy} (h : ofJson v = .ok p) :
    p.rules ≠ [] := by
  cases v with
  | obj fields =>
    obtain ⟨items, _, hne, hall, _⟩ := ofJson_obj_eq_ok_iff.mp h
    intro hnil
    rw [hnil, List.forall₂_nil_right_iff] at hall
    exact hne hall
  | _ => cases h

private theorem name_ne_of_ofJson {v : Json.Value} {p : Policy} (h : ofJson v = .ok p) :
    p.name ≠ "" := by
  cases v with
  | obj fields =>
    obtain ⟨_, _, _, _, _, hname⟩ := ofJson_obj_eq_ok_iff.mp h
    rw [hname]
    split
    · decide
    · next hne => exact hne
  | _ => cases h

theorem plain_toJson (p : Policy) : p.toJson.Plain := by
  refine .obj (by simp) ?_
  have hrules : ∀ v ∈ p.rules.map Rule.toJson, v.Plain := by
    simp [Rule.plain_toJson]
  simp [Json.Value.Plain.str, Json.Value.Plain.arr hrules]

theorem short_toJson (p : Policy) (limit : Option Nat) : p.toJson.Short limit := by
  refine .obj ?_
  have hrules : ∀ v ∈ p.rules.map Rule.toJson, v.Short limit := by
    simp [Rule.short_toJson]
  simp [Json.Value.Short.str, Json.Value.Short.arr hrules]

theorem ofJson_toJson {p : Policy} (hne : p.rules ≠ []) (h : ∀ r ∈ p.rules, r.Sound) :
    ofJson p.toJson = .ok { p with name := if p.name = "" then defaultName else p.name } := by
  rw [toJson, ofJson_obj_eq_ok_iff]
  refine ⟨p.rules.map Rule.toJson, rfl, by simpa using hne, ?_, ?_, ?_⟩
  · rw [List.forall₂_map_left_iff]
    exact List.forall₂_same.mpr fun r hr => (Rule.ofJson_toJson_iff r).mpr (h r hr)
  · exact (Wire.textField_of_lookup rfl).symm
  · rw [Wire.textField_of_lookup (s := p.name) rfl]

/-- What every loaded policy has. -/
structure Loadable (p : Policy) : Prop where
  name_ne : p.name ≠ ""
  rules_ne : p.rules ≠ []
  sound : ∀ r ∈ p.rules, r.Sound

private theorem loadable_of_ofJson {v : Json.Value} {p : Policy} (h : ofJson v = .ok p) :
    p.Loadable :=
  ⟨name_ne_of_ofJson h, rules_ne_nil_of_ofJson h, sound_of_ofJson h⟩

/-- The policies that are loaded from their own wire forms are those that can be loaded at all. -/
theorem ofJson_toJson_iff (p : Policy) : ofJson p.toJson = .ok p ↔ p.Loadable := by
  constructor
  · exact loadable_of_ofJson
  · intro h
    rw [ofJson_toJson h.rules_ne h.sound, if_neg h.name_ne]

/-- Whatever a policy was loaded from, its own wire form is loaded without a change. -/
theorem ofJson_toJson_of_ofJson {v : Json.Value} {p : Policy} (h : ofJson v = .ok p) :
    ofJson p.toJson = .ok p :=
  (ofJson_toJson_iff p).mpr (loadable_of_ofJson h)

/-- A wire form with a list for an identifier, a truth value for a name, and the flags of a pattern
that is empty. -/
def looseJson : Json.Value :=
  .obj [("rules", .arr [.obj [("id", .arr [.int 7, .null]), ("clauseType", .str "Straße"),
      ("severity", .str "HIGH"), ("requirePattern", .str "a/b"), ("forbidPattern", .str ""),
      ("forbidFlags", .str "gg")]]),
    ("policyName", .bool true)]

def loosePolicy : Policy :=
  { name := "True"
    compiledAt := ""
    rules := [{ id := "[7, None]", clauseType := "STRASSE", required := some ⟨"a/b", ""⟩,
                forbidden := none, severity := .high, remediation := Rule.defaultRemediation }] }

theorem loosePolicy_reloads : ofJson looseJson = .ok loosePolicy ∧
    ofJson loosePolicy.toJson = .ok loosePolicy := by
  have h : ofJson looseJson = .ok loosePolicy := by decide +kernel
  exact ⟨h, ofJson_toJson_of_ofJson h⟩

end Policy

end ClauseAudit
