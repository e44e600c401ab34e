import ClauseAudit.Proofs.Language.RoundTrip
import ClauseAudit.Proofs.Language.Writing

/-!
# Two ways to give a rule

The values of a rule can be written as a block of a policy text, or as an object in wire form. Both
are accepted or both are refused, and when they are accepted they give the same rule.
-/

namespace ClauseAudit.Language

/-- The values of a rule as they are given, before any of them is checked. -/
structure Entry where
  id : String
  clauseType : String
  required : Option Check
  forbidden : Option Check
  severity : String
  remediation : String

/-- A pattern and flags that can stand in a literal on one line. -/
structure PlainCheck (c : Check) : Prop where
  pattern_ne : c.pattern ≠ ""
  noFeed : '\n' ∉ c.pattern.toList
  letters : ∀ x ∈ c.flags.toList, Text.isAsciiLetter x = true

namespace Entry

def lines (e : Entry) : List String :=
  ["RULE " ++ e.id, "WHEN CLAUSE TYPE " ++ e.clauseType]
    ++ (e.required.map fun c => "REQUIRE " ++ Literal.format c.pattern c.flags).toList
    ++ (e.forbidden.map fun c => "FORBID " ++ Literal.format c.pattern c.flags).toList
    ++ ["SEVERITY " ++ e.severity, "REMEDIATION " ++ ("\"" ++ e.remediation ++ "\""), "END"]

def text (e : Entry) : String := Text.joinLines e.lines

def toJson (e : Entry) : Json.Value :=
  .obj [("id", .str e.id), ("clauseType", .str e.clauseType),
    ("requirePattern", Rule.patternJson e.required), ("requireFlags", Rule.flagsJson e.required),
    ("forbidPattern", Rule.patternJson e.forbidden), ("forbidFlags", Rule.flagsJson e.forbidden),
    ("severity", .str e.severity), ("remediation", .str e.remediation)]

/-- Every value can stand on one line. Nothing is said about whether patterns, flags and severity
are known. -/
structure Plain (e : Entry) : Prop where
  id : Language.Plain e.id
  clauseType : Language.Plain e.clauseType
  required : ∀ c ∈ e.required, PlainCheck c
  forbidden : ∀ c ∈ e.forbidden, PlainCheck c
  severity : Language.Plain e.severity
  remediation : '\n' ∉ e.remediation.toList

/-- The rule that the values stand for. -/
structure Means (e : Entry) (r : Rule) : Prop where
  id : r.id = e.id
  clauseType : r.clauseType = Text.upper e.clauseType
  required : r.required = e.required
  forbidden : r.forbidden = e.forbidden
  severity : r.severity.name = Text.lower e.severity
  remediation : r.remediation = e.remediation
  sound : r.Sound

private theorem Means.unique {e : Entry} {r s : Rule} (hr : e.Means r) (hs : e.Means s) : r =
    s := by
  have hseverity := Severity.name_injective (hr.severity.trans hs.severity.symm)
  obtain ⟨_, _, _, _, _, _⟩ := r
  obtain ⟨_, _, _, _, _, _⟩ := s
  rw [Rule.mk.injEq]
  exact ⟨hr.id.trans hs.id.symm, hr.clauseType.trans hs.clauseType.symm,
    hr.required.trans hs.required.symm, hr.forbidden.trans hs.forbidden.symm, hseverity,
    hr.remediation.trans hs.remediation.symm⟩

end Entry

/-! ## As a block -/

private theorem PlainCheck.isFlagLetter {c : Check} (h : PlainCheck c) :
    ∀ x ∈ c.flags.toList, Literal.isFlagLetter x = true := by
  intro x hx
  rw [Literal.isFlagLetter, h.letters x hx]
  rfl

private theorem PlainCheck.writes_iff {c c' : Check} (h : PlainCheck c) :
    Writes (Literal.format c.pattern c.flags) c' ↔ c' = c ∧ c'.Sound := by
  constructor
  · intro hwrites
    obtain ⟨p, hp⟩ := hwrites.usable
    have hsplit := Literal.split?_format h.pattern_ne h.isFlagLetter
    rw [hwrites.literal, Literal.split?_format hwrites.pattern_ne
      (Literal.isFlagLetter_of_compile hp), Option.some.injEq, Prod.mk.injEq] at hsplit
    refine ⟨?_, hwrites.sound⟩
    obtain ⟨pattern, flags⟩ := c
    obtain ⟨pattern', flags'⟩ := c'
    rw [Check.mk.injEq]
    exact hsplit
  · rintro ⟨rfl, hsound⟩
    exact ⟨rfl, hsound.pattern_ne, hsound.usable⟩

private theorem PlainCheck.plain_format {c : Check} (h : PlainCheck c) :
    Plain (Literal.format c.pattern c.flags) := by
  have hformat : (Literal.format c.pattern c.flags).toList =
      ('/' :: c.pattern.toList) ++ '/' :: c.flags.toList := by
    simp [Literal.format]
  refine ⟨?_, ?_, ?_⟩
  · rw [ne_eq, ← String.toList_inj, hformat]
    simp
  · rw [hformat]
    apply Text.trimmed_append (by simp) (by simp)
    · intro x hx
      cases hx
      decide
    · intro x hx
      rcases List.mem_cons.mp (List.mem_of_getLast? hx) with rfl | hmem
      · decide
      · exact Text.isBlank_of_isAsciiLetter (h.letters x hmem)
  · intro hmem
    rw [hformat] at hmem
    simp only [List.mem_append, List.mem_cons] at hmem
    rcases hmem with (hslash | hpattern) | hslash | hflags
    · exact absurd hslash (by decide)
    · exact h.noFeed hpattern
    · exact absurd hslash (by decide)
    · exact absurd (h.letters _ hflags) (by decide)

private theorem plain_quoted {text : String} (h : '\n' ∉ text.toList) :
    Plain ("\"" ++ text ++ "\"") := by
  have hquoted : ("\"" ++ text ++ "\"").toList = ('"' :: text.toList) ++ ['"'] := by
    simp
  refine ⟨?_, ?_, ?_⟩
  · rw [ne_eq, ← String.toList_inj, hquoted]
    simp
  · rw [hquoted]
    apply Text.trimmed_append (by simp) (by simp)
    · intro x hx
      cases hx
      decide
    · intro x hx
      cases hx
      decide
  · rw [hquoted]
    simpa using h

namespace Entry

def body (e : Entry) : List (Keyword × String) :=
  [(.clauseType, e.clauseType)]
    ++ (e.required.map fun c => (Keyword.require, Literal.format c.pattern c.flags)).toList
    ++ (e.forbidden.map fun c => (Keyword.forbid, Literal.format c.pattern c.flags)).toList
    ++ [(.severity, e.severity), (.remediation, "\"" ++ e.remediation ++ "\"")]

def block (e : Entry) : Block := ⟨e.id, e.body⟩

private theorem lines_eq (e : Entry) : e.lines = e.block.lines := by
  obtain ⟨id, clauseType, required, forbidden, severity, remediation⟩ := e
  cases required <;> cases forbidden <;> rfl

private theorem plain_block {e : Entry} (h : e.Plain) : e.block.Plain where
  id := h.id
  body := by
    intro f hf
    simp only [block, body, List.mem_append, List.mem_cons, List.not_mem_nil, or_false,
      Option.mem_toList, Option.map_eq_some_iff] at hf
    rcases hf with ((rfl | ⟨c, hc, rfl⟩) | ⟨c, hc, rfl⟩) | rfl | rfl
    · exact h.clauseType
    · exact (h.required c hc).plain_format
    · exact (h.forbidden c hc).plain_format
    · exact h.severity
    · exact plain_quoted h.remediation

private theorem argumentsOf_body (e : Entry) (keyword : Keyword) :
    argumentsOf keyword e.body = match keyword with
      | .clauseType => [e.clauseType]
      | .require => (e.required.map fun c => Literal.format c.pattern c.flags).toList
      | .forbid => (e.forbidden.map fun c => Literal.format c.pattern c.flags).toList
      | .severity => [e.severity]
      | .remediation => ["\"" ++ e.remediation ++ "\""] := by
  obtain ⟨id, clauseType, required, forbidden, severity, remediation⟩ := e
  cases keyword <;> cases required <;> cases forbidden <;> rfl

private theorem writes_toList_iff {given value : Option Check} (h : ∀ c ∈ given, PlainCheck c) :
    AtMostOnce Writes (given.map fun c => Literal.format c.pattern c.flags).toList value ↔
      value = given ∧ ∀ c ∈ value, c.Sound := by
  cases given with
  | none =>
    rw [Option.map_none, Option.toList_none, atMostOnce_nil_iff]
    constructor
    · rintro rfl
      simp
    · exact fun h => h.1
  | some c =>
    rw [Option.map_some, Option.toList_some, atMostOnce_singleton_iff]
    constructor
    · rintro ⟨c', rfl, hwrites⟩
      obtain ⟨rfl, hsound⟩ := (h c rfl).writes_iff.mp hwrites
      exact ⟨rfl, by simpa using hsound⟩
    · rintro ⟨rfl, hsound⟩
      exact ⟨c, rfl, (h c rfl).writes_iff.mpr ⟨rfl, hsound c rfl⟩⟩

private theorem describes_block_iff {e : Entry} (h : e.Plain) {r : Rule} :
    e.block.Describes r ↔ e.Means r := by
  constructor
  · intro hr
    have htype := hr.clauseType
    have hrequired := hr.required
    have hforbidden := hr.forbidden
    have hseverity := hr.severity
    obtain ⟨given, hgiven, hremediation⟩ := hr.remediation
    simp only [block, argumentsOf_body, atMostOnce_singleton_iff] at htype hseverity hgiven
    simp only [block, argumentsOf_body] at hrequired hforbidden
    obtain ⟨_, htypeEq, _, htypeUpper⟩ := htype
    obtain ⟨_, hseverityEq, hseverityName⟩ := hseverity
    obtain ⟨text, hgivenEq, hquotes⟩ := hgiven
    cases htypeEq
    cases hseverityEq
    exact {
      id := hr.id
      clauseType := htypeUpper
      required := ((writes_toList_iff h.required).mp hrequired).1
      forbidden := ((writes_toList_iff h.forbidden).mp hforbidden).1
      severity := hseverityName.symm
      remediation := by
        rw [hremediation, hgivenEq, Option.getD_some]
        simpa [Quotes] using hquotes.symm
      sound := hr.sound }
  · intro hr
    exact {
      id_ne := h.id.ne
      id := hr.id
      clauseType := by
        rw [block, argumentsOf_body]
        exact atMostOnce_singleton_iff.mpr ⟨_, rfl, h.clauseType.ne, hr.clauseType⟩
      required := by
        rw [block, argumentsOf_body]
        exact (writes_toList_iff h.required).mpr ⟨hr.required, hr.sound.required⟩
      forbidden := by
        rw [block, argumentsOf_body]
        exact (writes_toList_iff h.forbidden).mpr ⟨hr.forbidden, hr.sound.forbidden⟩
      checked := hr.sound.checked
      severity := by
        rw [block, argumentsOf_body]
        exact atMostOnce_singleton_iff.mpr ⟨_, rfl, hr.severity.symm⟩
      remediation := by
        refine ⟨some e.remediation, ?_, hr.remediation⟩
        rw [block, argumentsOf_body]
        exact atMostOnce_singleton_iff.mpr ⟨_, rfl, rfl⟩ }

private theorem compile_text_iff {e : Entry} (h : e.Plain) {now : String} {p : Policy} :
    compile e.text now = .ok p ↔ p.compiledAt = now ∧ p.name = Policy.defaultName ∧
      ∃ r, p.rules = [r] ∧ e.Means r := by
  rw [text, lines_eq, Block.compile_lines_iff (plain_block h)]
  simp only [describes_block_iff h]

/-! ## In wire form -/

private theorem ofJson_toJson_iff {e : Entry} (h : e.Plain) {r : Rule} :
    Rule.ofJson e.toJson = .ok r ↔ e.Means r := by
  have hrequired : ∀ c ∈ e.required, c.pattern ≠ "" := fun c hc => (h.required c hc).pattern_ne
  have hforbidden : ∀ c ∈ e.forbidden, c.pattern ≠ "" :=
    fun c hc => (h.forbidden c hc).pattern_ne
  rw [toJson, Rule.ofJson_obj_eq_ok_iff]
  constructor
  · intro hr
    obtain ⟨given, hgiven, hremediation⟩ := hr.remediation
    exact {
      id := hr.id.trans (Wire.textField_of_lookup rfl)
      clauseType := by
        rw [hr.clauseType, Wire.textField_of_lookup (s := e.clauseType) rfl]
      required := (Rule.eq_check_iff hrequired rfl rfl).mp hr.required
      forbidden := (Rule.eq_check_iff hforbidden rfl rfl).mp hr.forbidden
      severity := by rw [hr.severity, Wire.textField_of_lookup (s := e.severity) rfl]
      remediation := by
        rw [hremediation, hgiven.unique (.text (s := e.remediation) rfl)]
        rfl
      sound := hr.sound }
  · intro hr
    exact {
      id := hr.id.trans (Wire.textField_of_lookup rfl).symm
      clauseType := by
        rw [hr.clauseType, Wire.textField_of_lookup (s := e.clauseType) rfl]
      severity := by rw [hr.severity, Wire.textField_of_lookup (s := e.severity) rfl]
      required := (Rule.eq_check_iff hrequired rfl rfl).mpr hr.required
      forbidden := (Rule.eq_check_iff hforbidden rfl rfl).mpr hr.forbidden
      remediation := ⟨_, .text rfl, hr.remediation⟩
      sound := hr.sound }

/-- An object loads as a policy of the one rule that its one item stands for. -/
theorem load_iff {e : Entry} (h : e.Plain) {fields : Json.Fields}
    (hrules : fields.lookup "rules" = some (.arr [e.toJson])) {p : Policy} :
    Policy.ofJson (.obj fields) = .ok p ↔ p.compiledAt = Wire.textField fields "compiledAt" ∧
      p.name = (if Wire.textField fields "policyName" = "" then Policy.defaultName
        else Wire.textField fields "policyName") ∧
      ∃ r, p.rules = [r] ∧ e.Means r := by
  rw [Policy.ofJson_obj_eq_ok_iff, hrules]
  constructor
  · rintro ⟨items, hitems, _, hall, hcompiledAt, hname⟩
    cases hitems
    rw [List.forall₂_cons_left_iff] at hall
    obtain ⟨r, rest, hr, hrest, hp⟩ := hall
    rw [List.forall₂_nil_left_iff] at hrest
    rw [hrest] at hp
    exact ⟨hcompiledAt, hname, r, hp, (ofJson_toJson_iff h).mp hr⟩
  · rintro ⟨hcompiledAt, hname, r, hp, hr⟩
    refine ⟨_, rfl, by simp, ?_, hcompiledAt, hname⟩
    rw [hp]
    exact .cons ((ofJson_toJson_iff h).mpr hr) .nil

/-- The text of a rule compiles exactly when an object that holds the rule in wire form loads, and
both give the same rules. -/
theorem compile_agrees_with_load {e : Entry} (h : e.Plain) {fields : Json.Fields}
    (hrules : fields.lookup "rules" = some (.arr [e.toJson])) (now : String) :
    ((∃ p, compile e.text now = .ok p) ↔ ∃ q, Policy.ofJson (.obj fields) = .ok q) ∧
      ∀ p q, compile e.text now = .ok p → Policy.ofJson (.obj fields) = .ok q →
        p.rules = q.rules := by
  simp only [compile_text_iff h, load_iff h hrules]
  refine ⟨⟨?_, ?_⟩, ?_⟩
  · rintro ⟨p, _, _, r, _, hr⟩
    exact ⟨⟨_, _, [r]⟩, rfl, rfl, r, rfl, hr⟩
  · rintro ⟨q, _, _, r, _, hr⟩
    exact ⟨⟨_, _, [r]⟩, rfl, rfl, r, rfl, hr⟩
  · rintro p q ⟨_, _, r, hp, hr⟩ ⟨_, _, s, hq, hs⟩
    rw [hp, hq, hr.unique hs]

def feesEntry : Entry :=
  { id := "fees"
    clauseType := "Payment"
    required := some ⟨"net/30", "i"⟩
    forbidden := none
    severity := "HIGH"
    remediation := "say \"net\"" }

theorem feesEntry_agrees : feesEntry.Plain ∧
    ((∃ p, compile feesEntry.text "" = .ok p) ↔
      ∃ q, Policy.ofJson (.obj [("rules", .arr [feesEntry.toJson])]) = .ok q) ∧
    ∀ p q, compile feesEntry.text "" = .ok p →
      Policy.ofJson (.obj [("rules", .arr [feesEntry.toJson])]) = .ok q → p.rules = q.rules := by
  have hplain : feesEntry.Plain := {
    id := ⟨by decide, (Text.strip_eq_self_iff _).mp (by decide), by decide⟩
    clauseType := ⟨by decide, (Text.strip_eq_self_iff _).mp (by decide), by decide⟩
    required := by
      rintro c ⟨⟩
      exact ⟨by decide, by decide, List.all_eq_true.mp (by decide)⟩
    forbidden := by
      rintro c ⟨⟩
    severity := ⟨by decide, (Text.strip_eq_self_iff _).mp (by decide), by decide⟩
    remediation := by decide }
  exact ⟨hplain, compile_agrees_with_load hplain rfl ""⟩

end Entry

end ClauseAudit.Language
