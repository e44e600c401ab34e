import ClauseAudit.Assessment.Simulation
import ClauseAudit.Proofs.Language.Acceptance
import ClauseAudit.Proofs.Text.Case
import ClauseAudit.Proofs.Text.Lines

/-!
# Compiled policies have no line breaks

Every value of a policy comes from one line of its text. Taking arguments out of lines, literals
apart and quotes off adds nothing to a value, and upper case adds no line break.
-/

namespace ClauseAudit

/-- What reports show of a rule stays on one line. -/
structure Rule.OneLine (r : Rule) : Prop where
  id : '\n' ∉ r.id.toList
  clauseType : '\n' ∉ r.clauseType.toList
  required : '\n' ∉ (literal r.required).toList
  forbidden : '\n' ∉ (literal r.forbidden).toList
  remediation : '\n' ∉ r.remediation.toList

structure Policy.OneLine (p : Policy) : Prop where
  name : '\n' ∉ p.name.toList
  rules : ∀ r ∈ p.rules, r.OneLine

namespace Language

private theorem newline_notMem_strip {s : String} (h : '\n' ∉ s.toList) :
    '\n' ∉ (Text.strip s).toList := by
  obtain ⟨front, back, _, _, hs⟩ := Text.exists_eq_append_stripChars s.toList
  rw [Text.toList_strip]
  intro hmem
  apply h
  rw [hs]
  exact List.mem_append_left _ (List.mem_append_right _ hmem)

private theorem Says.newline_notMem {keyword line argument : String}
    (h : Says keyword line argument) (hline : '\n' ∉ line.toList) : '\n' ∉ argument.toList := by
  cases h with
  | bare => exact List.not_mem_nil
  | more rest =>
    apply newline_notMem_strip
    intro hmem
    apply hline
    rw [String.toList_append]
    exact List.mem_append_right _ hmem

private theorem Reads.newline_notMem {line : String} {s : Statement} (h : Reads line s)
    (hline : '\n' ∉ line.toList) : '\n' ∉ s.argument.toList := by
  cases h with
  | policy h => exact h.newline_notMem hline
  | rule h => exact h.newline_notMem hline
  | field _ h => exact h.newline_notMem hline
  | close => exact List.not_mem_nil

private theorem newline_notMem_of_mem_spokenLines {text line : String}
    (h : line ∈ spokenLines text) : '\n' ∉ line.toList := by
  obtain ⟨hline, _⟩ := List.mem_filter.mp h
  obtain ⟨raw, hraw, rfl⟩ := List.mem_map.mp hline
  obtain ⟨cs, hcs, rfl⟩ := List.mem_map.mp hraw
  apply newline_notMem_strip
  rw [String.toList_ofList]
  exact Text.notMem_of_mem_linesFrom List.not_mem_nil cs hcs

private theorem Quotes.newline_notMem {argument value : String} (h : Quotes argument value)
    (hargument : '\n' ∉ argument.toList) : '\n' ∉ value.toList := by
  rw [h, String.toList_append, String.toList_append] at hargument
  intro hmem
  exact hargument (List.mem_append_left _ (List.mem_append_right _ hmem))

private theorem newline_notMem_getD {arguments : List String} {given : Option String}
    {default : String} (h : AtMostOnce Quotes arguments given)
    (harguments : ∀ argument ∈ arguments, '\n' ∉ argument.toList) (hdefault : '\n' ∉ default.toList) :
    '\n' ∉ (given.getD default).toList := by
  cases given with
  | none => exact hdefault
  | some value =>
    obtain ⟨argument, rfl, hquotes⟩ := atMostOnce_some_iff.mp h
    exact hquotes.newline_notMem (harguments argument List.mem_cons_self)

private theorem newline_notMem_literal {arguments : List String} {check : Option Check}
    (h : AtMostOnce Writes arguments check)
    (harguments : ∀ argument ∈ arguments, '\n' ∉ argument.toList) :
    '\n' ∉ (Rule.literal check).toList := by
  cases check with
  | none => decide
  | some c =>
    obtain ⟨argument, rfl, hwrites⟩ := atMostOnce_some_iff.mp h
    rw [Rule.literal, ← hwrites.literal]
    exact harguments argument List.mem_cons_self

private theorem Block.field_mem_statements {b : Block} {keyword : Keyword} {argument : String}
    (h : argument ∈ argumentsOf keyword b.body) : .field keyword argument ∈ b.statements := by
  obtain ⟨⟨k, a⟩, hmem, rfl⟩ := List.mem_map.mp h
  obtain ⟨hbody, hkeyword⟩ := List.mem_filter.mp hmem
  obtain rfl : k = keyword := of_decide_eq_true hkeyword
  exact mem_statements_iff.mpr (.inr (.inl ⟨(k, a), hbody, rfl⟩))

private theorem Block.Describes.oneLine {b : Block} {r : Rule} (h : b.Describes r)
    (hb : ∀ s ∈ b.statements, '\n' ∉ s.argument.toList) : r.OneLine := by
  have harguments (keyword : Keyword) :
      ∀ argument ∈ argumentsOf keyword b.body, '\n' ∉ argument.toList :=
    fun argument hargument => hb _ (field_mem_statements hargument)
  obtain ⟨given, hgiven, hremediation⟩ := h.remediation
  obtain ⟨argument, honly, _, htype⟩ := atMostOnce_some_iff.mp h.clauseType
  have hargument : argument ∈ argumentsOf .clauseType b.body := by simp [honly]
  constructor
  · rw [h.id]
    exact hb (.rule b.id) List.mem_cons_self
  · rw [htype]
    exact Text.newline_notMem_upper (harguments .clauseType argument hargument)
  · exact newline_notMem_literal h.required (harguments .require)
  · exact newline_notMem_literal h.forbidden (harguments .forbid)
  · rw [hremediation]
    exact newline_notMem_getD hgiven (harguments .remediation) (by decide)

/-- A compiled policy has no line breaks in what reports show of it. -/
theorem oneLine_of_compile {text now : String} {p : Policy} (h : compile text now = .ok p) :
    p.OneLine := by
  obtain ⟨_, statements, hreads, hdescribes⟩ := (compile_eq_ok_iff text now p).mp h
  have hstatements : ∀ s ∈ statements, '\n' ∉ s.argument.toList := by
    intro s hs
    obtain ⟨line, hline, hread⟩ := exists_mem_left hreads hs
    exact hread.newline_notMem (newline_notMem_of_mem_spokenLines hline)
  obtain ⟨given, hgiven, hname⟩ := hdescribes.name
  obtain ⟨blocks, _, hlayout, hblocks⟩ := hdescribes.blocks
  constructor
  · rw [hname]
    refine newline_notMem_getD hgiven (fun argument hargument => ?_) (by decide)
    exact hstatements _ (mem_policyArguments_iff.mp hargument)
  · intro r hr
    obtain ⟨b, hb, hdescribes⟩ := exists_mem_left hblocks hr
    refine hdescribes.oneLine fun s hs => ?_
    have hmem : s ∈ ruleStatements statements := by
      rw [hlayout]
      exact List.mem_flatMap.mpr ⟨b, hb, hs⟩
    exact hstatements s (List.mem_of_mem_filter hmem)

end Language

end ClauseAudit
