import ClauseAudit.Proofs.Assessment.Findings
import ClauseAudit.Proofs.Rule.LiteralPattern

/-!
# Findings cite the literals of the text

A rule block has at most one statement for each kind of check. Its literal is split into a pattern
and flags, and a violation puts them together again. Splitting and formatting are inverse to each
other, so the violation shows what the text has.
-/

namespace ClauseAudit.Language

/-- The reason that is given for a defect of a block ends with the literal that the block has for
the check. A missing clause is told without one. -/
inductive Block.Cites (b : Block) : Defect → String → Prop
  | absent {reason : String} : Cites b .absent reason
  | missing {clause : Nat} {literal : String} (only : argumentsOf .require b.body = [literal]) :
      Cites b (.missing clause) ("Required pattern missing: " ++ literal)
  | present {clause : Nat} {literal : String} (only : argumentsOf .forbid b.body = [literal]) :
      Cites b (.present clause) ("Forbidden pattern present: " ++ literal)

private theorem literal_of_writes {arguments : List String} {value : Option Check} {c : Check}
    (h : AtMostOnce Writes arguments value) (hvalue : value = some c) :
    arguments = [Rule.literal value] := by
  subst hvalue
  obtain ⟨argument, honly, hwrites⟩ := atMostOnce_some_iff.mp h
  rw [honly, hwrites.literal, Rule.literal]

private theorem Block.Describes.cites {b : Block} {r : Rule} (h : b.Describes r)
    {clauses : List Clause} {d : Defect} (hfails : r.Fails clauses d) : b.Cites d (r.reason d) := by
  cases hfails with
  | absent => exact .absent
  | missing _ _ hcheck _ => exact .missing (literal_of_writes h.required hcheck)
  | present _ _ hcheck _ => exact .present (literal_of_writes h.forbidden hcheck)

/-- A violation tells of a place where a check fails, and cites the statement of the check in the
block of the rule. -/
structure Cited (blocks : List Block) (p : Policy) (clauses : List Clause) (f : Finding)
    (v : Violation) : Prop where
  fails : p.Fails clauses f
  reports : p.Reports clauses f v
  cites : ∃ b, blocks[f.rule]? = some b ∧ b.Cites f.defect v.reason

private theorem cited_of_reports {blocks : List Block} {p : Policy} {clauses : List Clause}
    {f : Finding} {v : Violation} (h : List.Forall₂ Block.Describes blocks p.rules)
    (hfails : p.Fails clauses f) (hreports : p.Reports clauses f v) :
    Cited blocks p clauses f v := by
  obtain ⟨r, hr, hdefect⟩ := hfails
  obtain ⟨r', hr', hv⟩ := hreports
  obtain rfl := Option.some.inj (hr.symm.trans hr')
  obtain ⟨b, hb, hdescribes⟩ := exists_getElem?_left h hr
  refine ⟨⟨r, hr, hdefect⟩, ⟨r, hr, hv⟩, b, hb, ?_⟩
  rw [hv.reason]
  exact hdescribes.cites hdefect

private theorem exists_cited {text now : String} {p : Policy} (h : compile text now = .ok p) :
    ∃ blocks, ruleStatements (statementsOf (Text.lines text)) = blocks.flatMap Block.statements ∧
      ∀ contract, ∃ s found, p.simulate contract = .ok s ∧
        List.Forall₂ (Cited blocks p (Clause.segment contract)) found s.violations := by
  obtain ⟨_, hdescribes⟩ := compile_eq_ok_iff_describes.mp h
  obtain ⟨blocks, _, hlayout, hblocks⟩ := hdescribes.blocks
  refine ⟨blocks, hlayout, fun contract => ?_⟩
  obtain ⟨s, hs⟩ := Policy.exists_simulate_eq_ok (sound_of_compile h) contract
  obtain ⟨hevaluate, _⟩ := Policy.simulate_eq_ok_iff.mp hs
  have hreports := Policy.reports_of_evaluate
    (fun c hc => Clause.text_ne_of_mem_segment hc) hevaluate
  have hfails : ∀ f ∈ p.findings (Clause.segment contract), p.Fails (Clause.segment contract) f :=
    fun f hf => (p.mem_findings_iff _).mp hf
  refine ⟨s, p.findings (Clause.segment contract), hs, ?_⟩
  exact ((List.forall₂_and_left _ _).mpr ⟨hfails, hreports⟩).imp fun f v hfv =>
    cited_of_reports hblocks hfv.1 hfv.2

/-- Splitting and formatting of literals are inverse to each other, and splitting is matching with
the notation. So the literals that an assessment tells of are the ones that the text has. -/
theorem literals_cited_as_written :
    (∀ p f : String, p ≠ "" → (∀ c ∈ f.toList, Text.isAsciiLetter c = true) →
      Literal.split? (Literal.format p f) = some (p, f)) ∧
    (∀ raw p f : String, Literal.split? raw = some (p, f) ↔ Literal.Spells raw p f) ∧
    (∀ raw : String, Literal.split? raw ≠ none ↔
      ∃! l : String × String, Literal.Spells raw l.1 l.2) ∧
    (∃ letter, Regex.Pattern.parse "[a-z]" { ignoreCase := true } = .ok (.one letter) ∧
      ∀ c, letter.accepts c = true ↔
        Text.isAsciiLetter c = true ∨ c.toNat ∈ [0x130, 0x131, 0x17F, 0x212A]) ∧
    (∃ shape, Regex.Pattern.parse "^/(.+)/([a-z]*)$" { ignoreCase := true, dotAll := true } =
        .ok shape ∧
      ∀ raw : String, Literal.split? raw = (Literal.groups? shape raw.toList).map
        fun l => (String.ofList l.1, String.ofList l.2)) ∧
    ∀ (text now : String) (p : Policy), compile text now = .ok p →
      ∃ blocks, ruleStatements (statementsOf (Text.lines text)) =
          blocks.flatMap Block.statements ∧
        ∀ contract, ∃ s found, p.simulate contract = .ok s ∧
          List.Forall₂ (Cited blocks p (Clause.segment contract)) found s.violations := by
  refine ⟨?_, fun raw p f => Literal.split?_eq_some_iff_spells,
    fun raw => Literal.split?_ne_none_iff,
    ⟨Literal.letterTest, Literal.parse_letter,
      fun c => Literal.letterTest_accepts_iff.trans Literal.isFlagLetter_iff⟩,
    ⟨Literal.shape, Literal.parse_shape, Literal.split?_eq_groups⟩,
    fun text now p h => exists_cited h⟩
  intro p f hp hf
  exact Literal.split?_eq_some_iff_spells.mpr ⟨hp, fun c hc => .inl (hf c hc), .inl rfl⟩

def slashedText : String :=
  Text.joinLines ["RULE a", "WHEN CLAUSE TYPE payment", "REQUIRE /net 30/60 days/i",
    "FORBID /demand/", "SEVERITY high", "END"]

def slashedPolicy : Policy :=
  { name := Policy.defaultName
    compiledAt := ""
    rules := [{ id := "a", clauseType := "PAYMENT", required := some ⟨"net 30/60 days", "i"⟩,
                forbidden := some ⟨"demand", ""⟩, severity := .high,
                remediation := Rule.defaultRemediation }] }

theorem compile_slashedText : compile slashedText "" = .ok slashedPolicy := by decide +kernel

theorem slashedText_cited :
    ("net 30/60 days" ≠ "" ∧ (∀ c ∈ "i".toList, Text.isAsciiLetter c = true) ∧
      Literal.split? "/net 30/60 days/i" = some ("net 30/60 days", "i")) ∧
    compile slashedText "" = .ok slashedPolicy ∧
      ∃ blocks, ruleStatements (statementsOf (Text.lines slashedText)) =
          blocks.flatMap Block.statements ∧
        ∀ contract, ∃ s found, slashedPolicy.simulate contract = .ok s ∧
          List.Forall₂ (Cited blocks slashedPolicy (Clause.segment contract)) found
            s.violations := by
  have hne : "net 30/60 days" ≠ "" := by decide
  have hletters : ∀ c ∈ "i".toList, Text.isAsciiLetter c = true :=
    List.all_eq_true.mp (by decide)
  obtain ⟨hformat, _, _, _, _, hcited⟩ := literals_cited_as_written
  exact ⟨⟨hne, hletters, hformat "net 30/60 days" "i" hne hletters⟩, compile_slashedText,
    hcited slashedText "" slashedPolicy compile_slashedText⟩

end ClauseAudit.Language
