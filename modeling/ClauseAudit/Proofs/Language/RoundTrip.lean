import ClauseAudit.Proofs.Language.Acceptance
import ClauseAudit.Proofs.Rule.Wire

/-!
# Compiled policies in wire form

The rules of a compiled policy are sound, so they survive the wire form. A policy that is named
with an empty text does not: loading takes an empty name for a missing one.
-/

namespace ClauseAudit.Language

theorem Writes.sound {argument : String} {c : Check} (h : Writes argument c) : c.Sound :=
  ⟨h.pattern_ne, h.usable⟩

namespace AtMostOnce

variable {β : Type} {gives : String → β → Prop} {arguments : List String}

private theorem of_mem {value : Option β} (h : AtMostOnce gives arguments value) :
    ∀ v ∈ value, ∃ argument, gives argument v := by
  rintro v rfl
  obtain ⟨argument, _, hv⟩ := atMostOnce_some_iff.mp h
  exact ⟨argument, hv⟩

end AtMostOnce

theorem Block.Describes.sound {b : Block} {r : Rule} (h : b.Describes r) : r.Sound := by
  obtain ⟨argument, hne, htype⟩ := h.clauseType.of_mem r.clauseType rfl
  exact {
    id_ne := by rw [h.id]; exact h.id_ne
    clauseType_ne := by rw [htype, ne_eq, Text.upper_eq_empty_iff]; exact hne
    upper_clauseType := by rw [htype, Text.upper_upper]
    required := by
      intro c hc
      obtain ⟨_, hwrites⟩ := h.required.of_mem c hc
      exact hwrites.sound
    forbidden := by
      intro c hc
      obtain ⟨_, hwrites⟩ := h.forbidden.of_mem c hc
      exact hwrites.sound
    checked := h.checked }

theorem sound_of_compile {text now : String} {p : Policy} (h : compile text now = .ok p) :
    ∀ r ∈ p.rules, r.Sound := by
  obtain ⟨_, hdescribes⟩ := compile_eq_ok_iff_describes.mp h
  obtain ⟨blocks, _, _, hblocks⟩ := hdescribes.blocks
  exact forall₂_forall_right hblocks fun _ _ => Block.Describes.sound

theorem rules_ne_nil_of_compile {text now : String} {p : Policy} (h : compile text now = .ok p) :
    p.rules ≠ [] := by
  obtain ⟨_, hdescribes⟩ := compile_eq_ok_iff_describes.mp h
  obtain ⟨blocks, hne, _, hblocks⟩ := hdescribes.blocks
  intro hnil
  rw [hnil, List.forall₂_nil_right_iff] at hblocks
  exact hne hblocks

/-- A policy has an empty name only when it is named so. -/
theorem name_eq_empty_iff {text now : String} {p : Policy} (h : compile text now = .ok p) :
    p.name = "" ↔ Statement.policy "\"\"" ∈ statementsOf (Text.lines text) := by
  obtain ⟨_, hdescribes⟩ := compile_eq_ok_iff_describes.mp h
  obtain ⟨given, hgiven, hname⟩ := hdescribes.name
  rw [← mem_policyArguments_iff, hname]
  cases given with
  | none =>
    rw [atMostOnce_none_iff.mp hgiven]
    simp [Policy.defaultName]
  | some name =>
    obtain ⟨argument, harguments, hquotes⟩ := atMostOnce_some_iff.mp hgiven
    rw [harguments, List.mem_singleton, Option.getD_some, hquotes]
    constructor
    · rintro rfl
      rfl
    · intro hempty
      simpa using congrArg String.toList hempty

/-- A compiled policy is loaded from its wire form with every field as it was, except that an
empty name becomes the default one. So it comes back unchanged exactly when the text does not name
it with an empty text. -/
theorem ofJson_toJson_of_compile {text now : String} {p : Policy}
    (h : compile text now = .ok p) :
    Policy.ofJson p.toJson =
        .ok { p with name := if p.name = "" then Policy.defaultName else p.name } ∧
      (Policy.ofJson p.toJson = .ok p ↔
        Statement.policy "\"\"" ∉ statementsOf (Text.lines text)) := by
  have hload := Policy.ofJson_toJson (rules_ne_nil_of_compile h) (sound_of_compile h)
  refine ⟨hload, ?_⟩
  rw [← name_eq_empty_iff h, hload, Except.ok.injEq]
  by_cases hname : p.name = ""
  · rw [if_pos hname]
    constructor
    · intro heq
      have hdefault := congrArg Policy.name heq
      simp [hname, Policy.defaultName] at hdefault
    · exact fun hne => absurd hname hne
  · rw [if_neg hname]
    exact iff_of_true rfl hname

def unnamedText : String :=
  Text.joinLines ["POLICY \"\"", "RULE a", "WHEN CLAUSE TYPE X", "REQUIRE /x/", "SEVERITY low",
    "END"]

def unnamedPolicy : Policy :=
  { name := ""
    compiledAt := ""
    rules := [{ id := "a", clauseType := "X", required := some ⟨"x", ""⟩, forbidden := none,
                severity := .low, remediation := Rule.defaultRemediation }] }

theorem compile_unnamedText : compile unnamedText "" = .ok unnamedPolicy := rfl

theorem unnamedText_comes_back : compile unnamedText "" = .ok unnamedPolicy ∧
    Policy.ofJson unnamedPolicy.toJson =
        .ok { unnamedPolicy with name := Policy.defaultName } ∧
      (Policy.ofJson unnamedPolicy.toJson = .ok unnamedPolicy ↔
        Statement.policy "\"\"" ∉ statementsOf (Text.lines unnamedText)) :=
  ⟨compile_unnamedText, ofJson_toJson_of_compile compile_unnamedText⟩

/-- The wire form loses an empty name. -/
theorem unnamedText_is_lost : compile unnamedText "" = .ok unnamedPolicy ∧
    Policy.ofJson unnamedPolicy.toJson ≠ .ok unnamedPolicy := by
  refine ⟨compile_unnamedText, ?_⟩
  rw [Policy.ofJson_toJson (rules_ne_nil_of_compile compile_unnamedText)
    (sound_of_compile compile_unnamedText)]
  intro h
  have hname := congrArg Policy.name (Except.ok.inj h)
  simp [unnamedPolicy, Policy.defaultName] at hname

end ClauseAudit.Language
