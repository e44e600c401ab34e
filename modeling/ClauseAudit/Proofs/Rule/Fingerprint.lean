import ClauseAudit.Proofs.Json.Canonical
import ClauseAudit.Proofs.Rule.Wire
import ClauseAudit.Rule.Fingerprint

/-!
# What a fingerprint is taken of

A fingerprint is the beginning of the digest of a text, the canonical text of the rules. This text
tells the rules and nothing else: it is the same for two policies exactly when they have the same
rules, whatever their names and times of compilation, and it is the same for a policy and for its
wire form.
-/

namespace ClauseAudit

namespace Json.Value

private theorem arr_cons_alike_iff {v w : Value} {items items' : List Value} :
    (arr (v :: items)).Alike (arr (w :: items')) ↔ v.Alike w ∧ (arr items).Alike (arr items') := by
  constructor
  · intro h
    cases h with
    | arr hlength h =>
      rw [List.zip_cons_cons, List.forall_mem_cons] at h
      exact ⟨h.1, .arr (Nat.succ.inj hlength) h.2⟩
  · rintro ⟨hfirst, hrest⟩
    cases hrest with
    | arr hlength h =>
      refine .arr (congrArg Nat.succ hlength) ?_
      rw [List.zip_cons_cons, List.forall_mem_cons]
      exact ⟨hfirst, h⟩

private theorem Alike.get? {v w a b : Value} (h : v.Alike w) (name : String)
    (ha : v.get? name = some a) (hb : w.get? name = some b) : a.Alike b := by
  cases h with
  | obj _ h =>
    obtain ⟨_, _, rfl, _⟩ := List.lookup_eq_some_iff.mp ha
    obtain ⟨_, _, rfl, _⟩ := List.lookup_eq_some_iff.mp hb
    exact h (name, a) (by simp) (name, b) (by simp) rfl
  | _ => cases ha

private theorem Alike.eq_of_str {s t : String} (h : (Value.str s).Alike (Value.str t)) : s = t := by
  cases h
  rfl

private theorem Plain.alike_self {v : Value} (h : v.Plain) : v.Alike v := (h.sorted_eq_iff h).mp rfl

end Json.Value

namespace Rule

private theorem check_eq_of_alike {c c' : Option Check}
    (hpattern : (patternJson c).Alike (patternJson c'))
    (hflags : (flagsJson c).Alike (flagsJson c')) : c = c' := by
  cases c with
  | none =>
    cases c' with
    | none => rfl
    | some c' => cases hpattern
  | some c =>
    cases c' with
    | none => cases hpattern
    | some c' =>
      have hp : c.pattern = c'.pattern := hpattern.eq_of_str
      have hf : c.flags = c'.flags := hflags.eq_of_str
      obtain ⟨pattern, flags⟩ := c
      simp only at hp hf
      rw [hp, hf]

/-- The wire form of a rule tells the rule. -/
theorem toJson_alike_iff {r r' : Rule} : r.toJson.Alike r'.toJson ↔ r = r' := by
  constructor
  · intro h
    have hid : r.id = r'.id := (h.get? "id" rfl rfl).eq_of_str
    have htype : r.clauseType = r'.clauseType :=
      (h.get? "clauseType" rfl rfl).eq_of_str
    have hrequired : r.required = r'.required := check_eq_of_alike
      (h.get? "requirePattern" rfl rfl) (h.get? "requireFlags" rfl rfl)
    have hforbidden : r.forbidden = r'.forbidden := check_eq_of_alike
      (h.get? "forbidPattern" rfl rfl) (h.get? "forbidFlags" rfl rfl)
    have hseverity : r.severity.name = r'.severity.name :=
      (h.get? "severity" rfl rfl).eq_of_str
    have hremediation : r.remediation = r'.remediation :=
      (h.get? "remediation" rfl rfl).eq_of_str
    obtain ⟨id, clauseType, required, forbidden, severity, remediation⟩ := r
    simp only at hid htype hrequired hforbidden hseverity hremediation
    rw [hid, htype, hrequired, hforbidden, Severity.name_injective hseverity, hremediation]
  · rintro rfl
    exact r.plain_toJson.alike_self

private theorem map_toJson_alike_iff {rules rules' : List Rule} :
    (Json.Value.arr (rules.map toJson)).Alike (.arr (rules'.map toJson)) ↔ rules = rules' := by
  induction rules generalizing rules' with
  | nil =>
    cases rules' with
    | nil => exact ⟨fun _ => rfl, fun _ => .arr rfl (by simp)⟩
    | cons r' rules' =>
      constructor
      · intro h
        cases h with
        | arr hlength _ => cases hlength
      · exact fun h => by cases h
  | cons r rules ih =>
    cases rules' with
    | nil =>
      constructor
      · intro h
        cases h with
        | arr hlength _ => cases hlength
      · exact fun h => by cases h
    | cons r' rules' =>
      rw [List.map_cons, List.map_cons, Json.Value.arr_cons_alike_iff, toJson_alike_iff, ih,
        List.cons.injEq]

end Rule

/-- The text whose digest begins with the fingerprint of rules in wire form. -/
def fingerprintText (rules : Json.Value) : String :=
  (Json.Value.obj [("rules", rules)]).canonicalText

def digestStart (text : String) (length : Int) : String :=
  String.ofList (Text.takeSigned
    (Digest.hex (Digest.Sha256.sha256 text.toUTF8.toList)).toList length)

def Policy.rulesJson (p : Policy) : Json.Value := .arr (p.rules.map Rule.toJson)

private theorem Policy.plain_rulesJson (p : Policy) : p.rulesJson.Plain := by
  refine .arr ?_
  rw [List.forall_mem_map]
  exact fun r _ => r.plain_toJson

private theorem fingerprintText_eq_iff {rules rules' : Json.Value} (h : rules.Plain)
    (h' : rules'.Plain) : fingerprintText rules = fingerprintText rules' ↔ rules.Alike rules' := by
  have hobj {v : Json.Value} (hv : v.Plain) : (Json.Value.obj [("rules", v)]).Plain :=
    .obj (by simp) (by simpa using hv)
  rw [fingerprintText, fingerprintText, (hobj h).canonicalText_eq_iff (hobj h')]
  constructor
  · exact fun halike => halike.get? "rules" rfl rfl
  · exact fun halike => .obj (by simp) (by simpa using halike)

/-- The text that is hashed tells the content and nothing else. -/
theorem canonicalText_tells_content :
    (∀ v w : Json.Value, v.Plain → w.Plain →
      (v.canonicalText = w.canonicalText ↔ v.Alike w)) ∧
    (∀ rules rules' : Json.Value, rules.Plain → rules'.Plain →
      (fingerprintText rules = fingerprintText rules' ↔ rules.Alike rules')) ∧
    (∀ p q : Policy, fingerprintText p.rulesJson = fingerprintText q.rulesJson ↔
      p.rules = q.rules) ∧
    (∀ p : Policy, p.fingerprint = digestStart (fingerprintText p.rulesJson) fingerprintLength ∧
      p.toJson.get? "rules" = some p.rulesJson) ∧
    ∀ (v rules : Json.Value) (length : Int), v.get? "rules" = some rules →
      fingerprintOfJson v length = .ok (digestStart (fingerprintText rules) length) := by
  refine ⟨?_, ?_, ?_, ?_, ?_⟩
  · exact fun v w hv hw => hv.canonicalText_eq_iff hw
  · exact fun rules rules' h h' => fingerprintText_eq_iff h h'
  · intro p q
    rw [fingerprintText_eq_iff p.plain_rulesJson q.plain_rulesJson]
    exact Rule.map_toJson_alike_iff
  · exact fun p => ⟨rfl, rfl⟩
  · intro v rules length h
    cases v with
    | obj fields =>
      have hfield : fields.lookup "rules" = some rules := h
      rw [fingerprintOfJson, hfield]
      rfl
    | _ => cases h

/-- A value with rules that nothing has checked. -/
def unchecked : Json.Value :=
  .obj [("rules", .arr [.obj [("id", .str "é"), ("weight", .int (-7))], .null]),
    ("policyName", .bool true)]

def uncheckedReordered : Json.Value :=
  .obj [("policyName", .bool true),
    ("rules", .arr [.obj [("weight", .int (-7)), ("id", .str "é")], .null])]

private theorem plain_unchecked : unchecked.Plain ∧ uncheckedReordered.Plain := by
  have hrule : (Json.Value.obj [("id", .str "é"), ("weight", .int (-7))]).Plain :=
    .obj (by decide) (by simp [Json.Value.Plain.str, Json.Value.Plain.int])
  have hrule' : (Json.Value.obj [("weight", .int (-7)), ("id", .str "é")]).Plain :=
    .obj (by decide) (by simp [Json.Value.Plain.str, Json.Value.Plain.int])
  have hrules {rule : Json.Value} (h : rule.Plain) : (Json.Value.arr [rule, .null]).Plain :=
    .arr (by simpa [Json.Value.Plain.null] using h)
  exact ⟨.obj (by decide) (by simpa [Json.Value.Plain.bool] using hrules hrule),
    .obj (by decide) (by simpa [Json.Value.Plain.bool] using hrules hrule')⟩

/-- The order of fields does not show in the text, neither outside nor inside. -/
theorem unchecked_text : unchecked.Plain ∧ uncheckedReordered.Plain ∧
    unchecked.canonicalText = uncheckedReordered.canonicalText := by
  have hrule : (Json.Value.obj [("id", .str "é"), ("weight", .int (-7))]).Alike
      (.obj [("weight", .int (-7)), ("id", .str "é")]) :=
    .obj (.swap _ _ _) (by simp [Json.Value.Alike.str, Json.Value.Alike.int])
  have hrules : (Json.Value.arr [.obj [("id", .str "é"), ("weight", .int (-7))], .null]).Alike
      (.arr [.obj [("weight", .int (-7)), ("id", .str "é")], .null]) :=
    .arr rfl (by simpa [Json.Value.Alike.null] using hrule)
  have hvalues : unchecked.Alike uncheckedReordered :=
    .obj (.swap _ _ _) (by simpa [Json.Value.Alike.bool] using hrules)
  obtain ⟨hplain, hplain'⟩ := plain_unchecked
  exact ⟨hplain, hplain',
    (canonicalText_tells_content.1 unchecked uncheckedReordered hplain hplain').mpr hvalues⟩

end ClauseAudit
