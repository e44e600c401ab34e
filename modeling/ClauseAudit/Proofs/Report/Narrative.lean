import ClauseAudit.Proofs.Assessment.Citation
import ClauseAudit.Proofs.Contract.Segmentation
import ClauseAudit.Proofs.Json.Lines
import ClauseAudit.Proofs.Language.OneLine
import ClauseAudit.Proofs.Text.Lines

/-!
# Findings in a narrative

A narrative tells every finding with a bullet and with a remediation below it. Nothing of a compiled
policy breaks their lines, but the snippet of a clause may. So a line that begins like one of the
narrative's own is one, or a contract has it behind a line feed of a clause.
-/

namespace ClauseAudit

private theorem flatMap_eq_map_iff {α β : Type} {as : List α} {f : α → β}
    {before after : α → List β} : (as.flatMap fun a => before a ++ f a :: after a) = as.map f ↔
      ∀ a ∈ as, before a = [] ∧ after a = [] := by
  have hlength : (as.flatMap fun a => before a ++ f a :: after a).length =
      as.length + (as.map fun a => (before a).length + (after a).length).sum := by
    induction as with
    | nil => rfl
    | cons a as ih =>
      rw [List.flatMap_cons, List.length_append, ih]
      simp only [List.map_cons, List.sum_cons, List.length_cons, List.length_append]
      omega
  constructor
  · intro h a ha
    rw [h, List.length_map] at hlength
    have hzero := List.sum_eq_zero_iff_forall_eq_nat.mp (Nat.left_eq_add.mp hlength) _
      (List.mem_map.mpr ⟨a, ha, rfl⟩)
    rw [Nat.add_eq_zero_iff, List.length_eq_zero_iff, List.length_eq_zero_iff] at hzero
    exact hzero
  · intro h
    rw [← List.flatMap_singleton' (as.map f), List.flatMap_map]
    apply List.flatMap_congr
    intro a ha
    obtain ⟨hbefore, hafter⟩ := h a ha
    rw [hbefore, hafter]
    rfl

open Text

namespace Violation

def bulletMark : String := "- ["

def remedyMark : String := "  - Remediation: "

def marks : List String := [bulletMark, remedyMark]

def quotedParts (v : Violation) : List String :=
  if v.snippet.isEmpty then [""] else cut (" :: \"" ++ v.snippet ++ "\"")

def summary (v : Violation) : String :=
  bulletMark ++
    (upper v.severity.name ++ "] " ++ v.ruleId ++ " (" ++ v.clauseType ++ "): " ++ v.reason)

/-- The line of a finding. -/
def headline (v : Violation) : String := v.summary ++ v.quotedParts.headD ""

/-- The lines that a snippet adds to its finding. -/
def laterLines (v : Violation) : List String := v.quotedParts.tail

def remedyLine (v : Violation) : String := remedyMark ++ v.remediation

/-- A line of the snippet behind its first one begins as the lines of findings do. -/
def Forges (v : Violation) : Prop := ∃ mark ∈ marks, '\n' :: mark.toList <:+: v.snippet.toList

/-- What a violation shows of its rule stays on one line. -/
structure OneLine (v : Violation) : Prop where
  ruleId : '\n' ∉ v.ruleId.toList
  clauseType : '\n' ∉ v.clauseType.toList
  reason : '\n' ∉ v.reason.toList
  remediation : '\n' ∉ v.remediation.toList

private theorem newline_notMem_upper_name (s : Severity) : '\n' ∉ (upper s.name).toList := by
  cases s <;> decide

variable {v : Violation}

private theorem OneLine.newline_notMem_summary (h : v.OneLine) : '\n' ∉ v.summary.toList := by
  simp [summary, bulletMark, newline_notMem_upper_name, h.ruleId, h.clauseType, h.reason]

private theorem OneLine.flatMap_cut_narrative (h : v.OneLine) :
    v.narrative.flatMap cut = v.headline :: v.laterLines ++ [v.remedyLine] := by
  have hremedy : cut v.remedyLine = [v.remedyLine] :=
    cut_of_notMem (by simp [remedyLine, remedyMark, h.remediation])
  have hnarrative : v.narrative = [v.summary ++
      (if v.snippet.isEmpty then "" else " :: \"" ++ v.snippet ++ "\""), v.remedyLine] := by
    simp [narrative, summary, bulletMark, remedyLine, remedyMark, String.append_assoc]
  rw [hnarrative, List.flatMap_cons, List.flatMap_singleton, hremedy,
    cut_append h.newline_notMem_summary, headline, laterLines, quotedParts]
  split <;> rfl

private theorem begins_headline (v : Violation) :
    begins bulletMark v.headline = true ∧ begins remedyMark v.headline = false := by
  rw [headline, summary, String.append_assoc]
  exact ⟨begins_append_self _ _, begins_append_of_apart (by decide) (by decide) _⟩

private theorem begins_remedyLine (v : Violation) :
    begins bulletMark v.remedyLine = false ∧ begins remedyMark v.remedyLine = true :=
  ⟨begins_append_of_apart (by decide) (by decide) _, begins_append_self _ _⟩

private theorem mark_plain {mark : String} (h : mark ∈ marks) :
    '\n' ∉ mark.toList ∧ '"' ∉ mark.toList ∧ '.' ∉ mark.toList := by
  revert mark
  decide

/-- The snippet alone decides how the lines begin that it adds. -/
theorem exists_begins_laterLines_iff {mark : String} (h : mark ∈ marks) :
    (∃ line ∈ v.laterLines, begins mark line = true) ↔
      '\n' :: mark.toList <:+: v.snippet.toList := by
  obtain ⟨hfeed, hquote, _⟩ := mark_plain h
  rw [laterLines, quotedParts]
  split
  · next hempty =>
    have hsnippet : v.snippet = "" := String.isEmpty_iff.mp hempty
    simp [hsnippet]
  · have hquoted : (" :: \"" ++ v.snippet ++ "\"").toList =
        " :: \"".toList ++ v.snippet.toList ++ ['"'] := by
      simp
    have hend : ∀ c ∈ ['"'], c ∉ '\n' :: mark.toList := by
      simp [hquote]
    rw [exists_begins_tail_cut_iff hfeed, hquoted,
      infix_append_iff_of_notMem (List.cons_ne_nil _ _) hend, cons_infix_append_iff (by decide)]

private theorem not_forges_iff : ¬v.Forges ↔ v.laterLines.filter (begins bulletMark) = [] ∧
    v.laterLines.filter (begins remedyMark) = [] := by
  have hmark (mark : String) (h : mark ∈ marks) : v.laterLines.filter (begins mark) = [] ↔
      ¬ '\n' :: mark.toList <:+: v.snippet.toList := by
    rw [← exists_begins_laterLines_iff h, List.filter_eq_nil_iff]
    simp
  rw [hmark bulletMark (by decide), hmark remedyMark (by decide), Forges, marks]
  simp

end Violation

private theorem Abridges.infix_of_mark {text snippet mark : String} (h : Abridges text snippet)
    (hmark : mark ∈ Violation.marks) (hwithin : '\n' :: mark.toList <:+: snippet.toList) :
    '\n' :: mark.toList <:+: text.toList := by
  by_cases hlength : text.length ≤ 220
  · rw [← h.whole hlength]
    exact hwithin
  · obtain ⟨_, _, hdot⟩ := Violation.mark_plain hmark
    have hdots : ∀ c ∈ "...".toList, c ∉ '\n' :: mark.toList := by
      simp [hdot]
    rw [h.cut.mpr (by omega), String.toList_append, String.toList_ofList,
      infix_append_iff_of_notMem (List.cons_ne_nil _ _) hdots] at hwithin
    exact hwithin.trans (List.take_prefix _ _).isInfix

namespace Rule

private theorem OneLine.reason {r : Rule} (h : r.OneLine) (d : Defect) : '\n' ∉
    (r.reason d).toList := by
  have happend {front back : String} (hfront : '\n' ∉ front.toList) (hback : '\n' ∉ back.toList) :
      '\n' ∉ (front ++ back).toList := by
    rw [String.toList_append, List.mem_append, not_or]
    exact ⟨hfront, hback⟩
  cases d with
  | absent => exact happend (by decide) h.clauseType
  | missing _ => exact happend (by decide) h.required
  | present _ => exact happend (by decide) h.forbidden

private theorem Reports.oneLine {r : Rule} {clauses : List Clause} {d : Defect} {v : Violation}
    (h : r.Reports clauses d v) (hr : r.OneLine) : v.OneLine where
  ruleId := by rw [h.ruleId]; exact hr.id
  clauseType := by rw [h.clauseType]; exact hr.clauseType
  reason := by rw [h.reason]; exact hr.reason d
  remediation := by rw [h.remediation]; exact hr.remediation

/-- What a snippet forges is in the contract already. -/
theorem Reports.infix_of_mark {r : Rule} {contract : String} {d : Defect} {v : Violation}
    (h : r.Reports (Clause.segment contract) d v) {mark : String} (hmark : mark ∈ Violation.marks)
    (hwithin : '\n' :: mark.toList <:+: v.snippet.toList) :
    '\n' :: mark.toList <:+: contract.toList := by
  have hclause : ∃ j, d.clause? = some j := by
    cases d with
    | absent =>
      rw [h.snippet_empty.mpr rfl] at hwithin
      simp at hwithin
    | missing j => exact ⟨j, rfl⟩
    | present j => exact ⟨j, rfl⟩
  obtain ⟨j, hj⟩ := hclause
  obtain ⟨c, hc, habridges⟩ := h.snippet j hj
  have htext := Clause.text_mem_of_mem_number (List.mem_of_getElem? hc)
  exact (habridges.infix_of_mark hmark hwithin).trans (Clause.infix_of_mem_blocks htext)

end Rule

namespace Report

def findingsHeading : String := "## Findings"

/-- The lines of the narrative below the heading of the findings. -/
def findingLines (r : Report) : List String :=
  ((cut r.narrative).dropWhile (· != findingsHeading)).tail

def opening (r : Report) : List String :=
  ["# Policy simulation: " ++ r.policy.name,
    "- Clauses analyzed: " ++ signedDecimal r.record.clausesAnalyzed,
    "- Risk score: " ++ signedDecimal r.record.riskScore ++ "/100",
    "- Verdict: " ++ r.record.verdict, ""]

/-- Every finding is told by one bullet and one remediation, in the order of the findings, and by
no other line that begins as these do. -/
structure TellsEach (r : Report) : Prop where
  bullets : r.findingLines.filter (begins Violation.bulletMark) =
    r.record.violations.map Violation.headline
  remedies : r.findingLines.filter (begins Violation.remedyMark) =
    r.record.violations.map Violation.remedyLine

variable {r : Report}

def emptyNote (r : Report) : List String :=
  if r.record.violations.isEmpty then ["- No violations."] else []

private theorem narrative_eq : r.narrative = joinLines (r.opening ++ findingsHeading ::
    (r.emptyNote ++ r.record.violations.flatMap Violation.narrative)) := by
  simp [narrative, opening, findingsHeading, emptyNote]

private theorem newline_notMem_opening (hname : '\n' ∉ r.policy.name.toList)
    (hverdict : '\n' ∉ r.record.verdict.toList) : ∀ line ∈ r.opening, '\n' ∉ line.toList := by
  simp [opening, hname, hverdict, Json.newline_notMem_signedDecimal]

private theorem ne_findingsHeading {line : String} (h : line ∈ r.opening) :
    line ≠ findingsHeading := by
  have hapart : ∀ l ∈ r.opening, l.toList[1]? ≠ findingsHeading.toList[1]? := by
    simp [opening, findingsHeading]
  rintro rfl
  exact hapart _ h rfl

private theorem emptyNote_subset : r.emptyNote ⊆ ["- No violations."] := by
  rw [emptyNote]
  split
  · exact List.Subset.refl _
  · exact List.nil_subset _

private theorem newline_notMem_emptyNote : ∀ line ∈ r.emptyNote, '\n' ∉ line.toList := by
  intro line hline
  rw [List.mem_singleton.mp (emptyNote_subset hline)]
  decide

private theorem filter_emptyNote {mark : String} (h : mark ∈ Violation.marks) :
    r.emptyNote.filter (begins mark) = [] := by
  have hother : begins mark "- No violations." = false := by
    revert mark
    decide
  rw [List.filter_eq_nil_iff]
  intro line hline
  rw [List.mem_singleton.mp (emptyNote_subset hline), hother]
  exact Bool.false_ne_true

private theorem findingLines_eq (hname : '\n' ∉ r.policy.name.toList)
    (hverdict : '\n' ∉ r.record.verdict.toList) (h : ∀ v ∈ r.record.violations, v.OneLine) :
    r.findingLines = r.emptyNote ++
      r.record.violations.flatMap fun v => v.headline :: v.laterLines ++ [v.remedyLine] := by
  have hviolations : (r.record.violations.flatMap Violation.narrative).flatMap cut =
      r.record.violations.flatMap fun v => v.headline :: v.laterLines ++ [v.remedyLine] := by
    rw [List.flatMap_assoc]
    exact List.flatMap_congr fun v hv => (h v hv).flatMap_cut_narrative
  have hcut : cut r.narrative = r.opening ++ findingsHeading ::
      (r.emptyNote ++
        r.record.violations.flatMap fun v => v.headline :: v.laterLines ++ [v.remedyLine]) := by
    rw [narrative_eq, cut_joinLines (by simp), List.flatMap_append, List.flatMap_cons,
      List.flatMap_append, flatMap_cut_eq_self (newline_notMem_opening hname hverdict),
      flatMap_cut_eq_self newline_notMem_emptyNote, cut_of_notMem (by decide), hviolations]
    rfl
  rw [findingLines, hcut,
    List.dropWhile_append_of_pos fun line hline => bne_iff_ne.mpr (ne_findingsHeading hline),
    List.dropWhile_cons_of_neg (by simp), List.tail_cons]

/-- The lines with a mark are one for each finding, with those that its snippet adds. -/
theorem filter_findingLines (hname : '\n' ∉ r.policy.name.toList)
    (hverdict : '\n' ∉ r.record.verdict.toList) (h : ∀ v ∈ r.record.violations, v.OneLine) :
    r.findingLines.filter (begins Violation.bulletMark) = (r.record.violations.flatMap fun v =>
        v.headline :: v.laterLines.filter (begins Violation.bulletMark)) ∧
      r.findingLines.filter (begins Violation.remedyMark) = r.record.violations.flatMap fun v =>
        v.laterLines.filter (begins Violation.remedyMark) ++ [v.remedyLine] := by
  rw [findingLines_eq hname hverdict h, List.filter_append, List.filter_append,
    filter_emptyNote (by decide), filter_emptyNote (by decide), List.filter_flatMap,
    List.filter_flatMap]
  constructor
  · apply List.flatMap_congr
    intro v _
    simp [v.begins_headline, v.begins_remedyLine]
  · apply List.flatMap_congr
    intro v _
    simp [v.begins_headline, v.begins_remedyLine]

/-- A report tells each finding once unless a snippet forges a line. -/
theorem tellsEach_iff (hname : '\n' ∉ r.policy.name.toList)
    (hverdict : '\n' ∉ r.record.verdict.toList) (h : ∀ v ∈ r.record.violations, v.OneLine) :
    r.TellsEach ↔ ∀ v ∈ r.record.violations, ¬v.Forges := by
  obtain ⟨hbullets, hremedies⟩ := filter_findingLines hname hverdict h
  have htells : r.TellsEach ↔ r.findingLines.filter (begins Violation.bulletMark) =
        r.record.violations.map Violation.headline ∧
      r.findingLines.filter (begins Violation.remedyMark) =
        r.record.violations.map Violation.remedyLine :=
    ⟨fun h => ⟨h.bullets, h.remedies⟩, fun h => ⟨h.1, h.2⟩⟩
  have hbullet : (r.record.violations.flatMap fun v =>
      v.headline :: v.laterLines.filter (begins Violation.bulletMark)) =
        r.record.violations.map Violation.headline ↔ ∀ v ∈ r.record.violations,
          ([] : List String) = [] ∧ v.laterLines.filter (begins Violation.bulletMark) = [] :=
    @flatMap_eq_map_iff _ _ _ Violation.headline (fun _ => [])
      fun v => v.laterLines.filter (begins Violation.bulletMark)
  rw [htells, hbullets, hremedies, hbullet, flatMap_eq_map_iff, ← forall₂_and]
  refine forall₂_congr fun v _ => ?_
  rw [Violation.not_forges_iff, eq_self, true_and, and_true]

/-- The narrative of a compiled policy on a contract has one bullet and one remediation for each
finding, with what the snippets add to them: lines of the contract that begin as these do. Where no
snippet has such a line behind a line feed the findings are told once each, as in every contract
that has none itself. -/
theorem findingLines_of_compile {text now : String} {p : Policy}
    (h : Language.compile text now = .ok p) (contract : String) :
    ∃ s, p.simulate contract = .ok s ∧ ∀ r : Report, r = ⟨p, .ofSimulation s⟩ →
      r.findingLines.filter (begins Violation.bulletMark) = (s.violations.flatMap fun v =>
        v.headline :: v.laterLines.filter (begins Violation.bulletMark)) ∧
      r.findingLines.filter (begins Violation.remedyMark) = (s.violations.flatMap fun v =>
        v.laterLines.filter (begins Violation.remedyMark) ++ [v.remedyLine]) ∧
      (r.TellsEach ↔ ∀ v ∈ s.violations, ¬v.Forges) ∧
      ((∀ mark ∈ Violation.marks, ¬ '\n' :: mark.toList <:+: contract.toList) → r.TellsEach) := by
  have hp := Language.oneLine_of_compile h
  obtain ⟨s, hs⟩ := Policy.exists_simulate_eq_ok (Language.sound_of_compile h) contract
  obtain ⟨hevaluate, _⟩ := Policy.simulate_eq_ok_iff.mp hs
  have hreports := Policy.reports_of_evaluate
    (fun c hc => Clause.text_ne_of_mem_segment hc) hevaluate
  have hrule : ∀ v ∈ s.violations, ∃ r ∈ p.rules, ∃ d, r.Reports (Clause.segment contract) d v := by
    intro v hv
    obtain ⟨f, _, r, hr, hv⟩ := exists_mem_left hreports hv
    exact ⟨r, List.mem_of_getElem? hr, f.defect, hv⟩
  have honeLine : ∀ v ∈ s.violations, v.OneLine := by
    intro v hv
    obtain ⟨r, hr, d, hreport⟩ := hrule v hv
    exact hreport.oneLine (hp.rules r hr)
  have hverdict : '\n' ∉ s.verdict.name.toList := by
    cases s.verdict <;> decide
  refine ⟨s, hs, ?_⟩
  rintro r rfl
  obtain ⟨hbullets, hremedies⟩ :=
    filter_findingLines (r := ⟨p, .ofSimulation s⟩) hp.name hverdict honeLine
  have htells := tellsEach_iff (r := ⟨p, .ofSimulation s⟩) hp.name hverdict honeLine
  refine ⟨hbullets, hremedies, htells, fun hcontract => htells.mpr ?_⟩
  rintro v hv ⟨mark, hmark, hwithin⟩
  obtain ⟨r, _, d, hreport⟩ := hrule v hv
  exact hcontract mark hmark (hreport.infix_of_mark hmark hwithin)

end Report

/-- A clause whose second line looks like a finding. -/
def forgedContract : String :=
  joinLines ["Payment is due.", "- [CRITICAL] b (PAYMENT): Forbidden pattern present"]

def forgedSimulation : Simulation :=
  { clausesAnalyzed := 1
    violations := [{ ruleId := "a", clauseType := "PAYMENT", severity := .high
                     reason := "Required pattern missing: /net 30/60 days/i"
                     remediation := Rule.defaultRemediation, snippet := forgedContract }]
    riskScore := 20
    verdict := .safe }

private theorem simulate_forgedContract :
    Language.slashedPolicy.simulate forgedContract = .ok forgedSimulation := by
  have hsegment : Clause.segment forgedContract =
      [{ id := "clause-1", clauseType := "PAYMENT", text := forgedContract }] := by
    rw [Clause.segment_eq_paragraphs]
    decide +kernel
  rw [Policy.simulate_eq_ok_iff, hsegment]
  exact ⟨by decide +kernel, rfl, rfl, rfl⟩

/-- There is one finding, and the second line of the clause is told as another one. -/
theorem forgedContract_told :
    Language.compile Language.slashedText "" = .ok Language.slashedPolicy ∧
    Language.slashedPolicy.simulate forgedContract = .ok forgedSimulation ∧
    forgedSimulation.violations.map (·.ruleId) = ["a"] ∧
    (Report.mk Language.slashedPolicy (.ofSimulation forgedSimulation)).findingLines.filter
        (begins "- [") =
      ["- [HIGH] a (PAYMENT): Required pattern missing: /net 30/60 days/i :: \"Payment is due.",
        "- [CRITICAL] b (PAYMENT): Forbidden pattern present\""] := by
  have honeLine : ∀ v ∈ forgedSimulation.violations, v.OneLine := by
    rw [forgedSimulation, List.forall_mem_singleton]
    constructor <;> decide
  obtain ⟨hbullets, _⟩ := Report.filter_findingLines
    (r := ⟨Language.slashedPolicy, .ofSimulation forgedSimulation⟩) (by decide) (by decide) honeLine
  refine ⟨Language.compile_slashedText, simulate_forgedContract, rfl, hbullets.trans ?_⟩
  decide +kernel

theorem slashedText_told : Language.compile Language.slashedText "" = .ok Language.slashedPolicy ∧
    ∃ s, Language.slashedPolicy.simulate "Payment is due." = .ok s ∧
      ∀ r : Report, r = ⟨Language.slashedPolicy, .ofSimulation s⟩ → r.TellsEach := by
  have hmarks : ∀ mark ∈ Violation.marks, ¬ '\n' :: mark.toList <:+: "Payment is due.".toList := by
    intro mark _ hwithin
    exact absurd (hwithin.subset List.mem_cons_self) (by decide)
  obtain ⟨s, hs, h⟩ :=
    Report.findingLines_of_compile Language.compile_slashedText "Payment is due."
  refine ⟨Language.compile_slashedText, s, hs, fun r hr => ?_⟩
  obtain ⟨_, _, _, hcontract⟩ := h r hr
  exact hcontract hmarks

end ClauseAudit
