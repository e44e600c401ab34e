import ClauseAudit.Proofs.Report.Record
import Mathlib.Data.Prod.Lex

/-!
# The findings of an assessment

A finding is a place where a check fails: a rule by its position, and a clause by its position
unless no clause has the type of the rule. Findings are ordered by the rule, then by the clause,
then the requirement before what is forbidden. An assessment has one violation for each finding, in
this order, and no other ones.
-/

namespace ClauseAudit

namespace Clause

theorem text_mem_of_mem_number {c : Clause} {k : Nat} {texts : List String}
    (h : c ∈ number k texts) : c.text ∈ texts := by
  induction texts generalizing k with
  | nil => simp [number] at h
  | cons text rest ih =>
    rw [number, List.mem_cons] at h
    rcases h with rfl | h
    · exact List.mem_cons_self
    · exact List.mem_cons_of_mem text (ih h)

private theorem ne_empty_of_mem_blocks {contract block : String} (h : block ∈ blocks contract) :
    block ≠ "" := by
  obtain ⟨cs, _, hcs⟩ := List.mem_filterMap.mp h
  split at hcs
  · cases hcs
  · next hne =>
    rintro rfl
    have hempty := congrArg String.toList (Option.some.inj hcs)
    rw [String.toList_ofList] at hempty
    exact hne (by simp [hempty])

theorem text_ne_of_mem_segment {c : Clause} {contract : String} (h : c ∈ segment contract) :
    c.text ≠ "" :=
  ne_empty_of_mem_blocks (text_mem_of_mem_number h)

end Clause

/-- How a rule can fail. Clauses are given by their positions. -/
inductive Defect where
  /-- There is no clause of the type. -/
  | absent
  /-- The clause lacks the required pattern. -/
  | missing (clause : Nat)
  /-- The clause has the forbidden pattern. -/
  | present (clause : Nat)
  deriving DecidableEq, Repr

namespace Defect

/-- The place of a defect among those of its rule: by the clause, counted from one, and the
requirement first. -/
def place : Defect → ℕ ×ₗ ℕ
  | absent => toLex (0, 0)
  | missing j => toLex (j + 1, 0)
  | present j => toLex (j + 1, 1)

def clause? : Defect → Option Nat
  | absent => none
  | missing j => some j
  | present j => some j

end Defect

/-- A defect of the rule at a position. -/
structure Finding where
  rule : Nat
  defect : Defect
  deriving DecidableEq, Repr

def Finding.place (f : Finding) : ℕ ×ₗ ℕ ×ₗ ℕ := toLex (f.rule, f.defect.place)

/-- The check has a usable pattern, and a search for it in the text has the given outcome. -/
def Check.Searches (c : Check) (text : String) (found : Bool) : Prop :=
  ∃ p, Literal.compile c.pattern c.flags = .ok p ∧ p.search text = found

/-- The text is shown whole when it is short; dots stand for what follows its first 220
characters. -/
structure Abridges (text snippet : String) : Prop where
  whole : text.length ≤ 220 → snippet = text
  cut : snippet = String.ofList (text.toList.take 220) ++ "..." ↔ 220 < text.length

namespace Rule

/-- The rule fails in some clauses in this way. -/
inductive Fails (r : Rule) (clauses : List Clause) : Defect → Prop
  | absent (hrequired : r.required ≠ none) (h : ∀ c ∈ clauses, c.clauseType ≠ r.clauseType) :
      Fails r clauses .absent
  | missing {j : Nat} {c : Clause} {check : Check} (hclause : clauses[j]? = some c)
      (htype : c.clauseType = r.clauseType) (hcheck : r.required = some check)
      (h : check.Searches c.text false) : Fails r clauses (.missing j)
  | present {j : Nat} {c : Clause} {check : Check} (hclause : clauses[j]? = some c)
      (htype : c.clauseType = r.clauseType) (hcheck : r.forbidden = some check)
      (h : check.Searches c.text true) : Fails r clauses (.present j)

def reason (r : Rule) : Defect → String
  | .absent => "No clause found for required type " ++ r.clauseType
  | .missing _ => "Required pattern missing: " ++ literal r.required
  | .present _ => "Forbidden pattern present: " ++ literal r.forbidden

/-- The violation tells of the defect of the rule. -/
structure Reports (r : Rule) (clauses : List Clause) (d : Defect) (v : Violation) : Prop where
  ruleId : v.ruleId = r.id
  clauseType : v.clauseType = r.clauseType
  severity : v.severity = r.severity
  remediation : v.remediation = r.remediation
  reason : v.reason = r.reason d
  snippet_empty : v.snippet = "" ↔ d = .absent
  snippet : ∀ j ∈ d.clause?, ∃ c, clauses[j]? = some c ∧ Abridges c.text v.snippet

end Rule

private theorem Abridges.ne_empty {text snippet : String} (h : Abridges text snippet)
    (htext : text ≠ "") : snippet ≠ "" := by
  by_cases hlength : text.length ≤ 220
  · rw [h.whole hlength]
    exact htext
  · rw [h.cut.mpr (by omega)]
    simp

private theorem abridges_snippet (text : String) : Abridges text (snippet text snippetLength) := by
  have hlength : text.toList.length = text.length := String.length_toList
  have htake : Text.takeSigned text.toList snippetLength = text.toList.take 220 := rfl
  rw [snippet, htake, hlength]
  by_cases h : text.length ≤ 220
  · have hlimit : (text.length : Int) ≤ snippetLength := by
      rw [snippetLength]
      omega
    rw [if_pos hlimit]
    refine ⟨fun _ => rfl, ?_, fun hlong => absurd hlong (by omega)⟩
    intro heq
    have hsame := congrArg String.length heq
    rw [String.length_append, String.length_ofList, List.length_take, hlength] at hsame
    have hdots : "...".length = 3 := rfl
    omega
  · have hlimit : ¬(text.length : Int) ≤ snippetLength := by
      rw [snippetLength]
      omega
    rw [if_neg hlimit]
    exact ⟨fun hshort => absurd hshort h, fun _ => by omega, fun _ => rfl⟩

private theorem zipIdx_pairwise_lt {α : Type} (as : List α) :
    as.zipIdx.Pairwise fun x y => x.2 < y.2 := by
  rw [← List.pairwise_map, List.zipIdx_map_snd]
  exact List.pairwise_lt_range' 1

namespace Defect

def pair (j : Nat) : List Defect := [missing j, present j]

/-- What the search of a failing check gives. -/
def found : Defect → Bool
  | present _ => true
  | _ => false

/-- All ways a rule could fail, in their order. -/
def candidates (clauses : List Clause) : List Defect :=
  absent :: clauses.zipIdx.flatMap fun x => pair x.2

theorem mem_pair {d : Defect} {j : Nat} : d ∈ pair j ↔ d = missing j ∨ d = present j := by
  simp [pair]

private theorem absent_lt {d : Defect} {j : Nat} (h : d ∈ pair j) : absent.place < d.place := by
  rcases mem_pair.mp h with rfl | rfl <;> simp [place, Prod.Lex.toLex_lt_toLex]

private theorem pair_lt {d e : Defect} {i j : Nat} (hd : d ∈ pair i) (he : e ∈ pair j) (h : i < j) :
    d.place < e.place := by
  rcases mem_pair.mp hd with rfl | rfl <;> rcases mem_pair.mp he with rfl | rfl <;>
    simp [place, Prod.Lex.toLex_lt_toLex, h]

private theorem candidates_pairwise (clauses : List Clause) :
    (candidates clauses).Pairwise fun d e => d.place < e.place := by
  rw [candidates, List.pairwise_cons, List.pairwise_flatMap]
  refine ⟨?_, ?_, ?_⟩
  · intro d hd
    obtain ⟨x, _, hx⟩ := List.mem_flatMap.mp hd
    exact absent_lt hx
  · intro x _
    simp [pair, place, Prod.Lex.toLex_lt_toLex]
  · exact (zipIdx_pairwise_lt clauses).imp fun h d hd e he => pair_lt hd he h

end Defect

namespace Rule

def checkOf (r : Rule) : Defect → Option Check
  | .present _ => r.forbidden
  | _ => r.required

theorem Fails.mem_candidates {r : Rule} {clauses : List Clause} {d : Defect}
    (h : r.Fails clauses d) : d ∈ Defect.candidates clauses := by
  cases h with
  | absent _ _ => exact List.mem_cons_self
  | @missing j c _ hclause _ _ _ =>
    refine List.mem_cons_of_mem _
      (List.mem_flatMap.mpr ⟨(c, j), ?_, Defect.mem_pair.mpr (.inl rfl)⟩)
    exact List.mk_mem_zipIdx_iff_getElem?.mpr hclause
  | @present j c _ hclause _ _ _ =>
    refine List.mem_cons_of_mem _
      (List.mem_flatMap.mpr ⟨(c, j), ?_, Defect.mem_pair.mpr (.inr rfl)⟩)
    exact List.mk_mem_zipIdx_iff_getElem?.mpr hclause

private theorem Fails.eq_absent {r : Rule} {clauses : List Clause} {d : Defect}
    (habsent : r.Fails clauses .absent) (h : r.Fails clauses d) : d = .absent := by
  obtain ⟨_, hnone⟩ | _ | _ := habsent
  cases h with
  | absent _ _ => rfl
  | missing hclause htype _ _ => exact absurd htype (hnone _ (List.mem_of_getElem? hclause))
  | present hclause htype _ _ => exact absurd htype (hnone _ (List.mem_of_getElem? hclause))

private theorem searches_iff {check : Option Check} {p : Option Regex.Pattern} {text : String}
    {found : Bool} (h : prepare check = .ok p) :
    (∃ c, check = some c ∧ c.Searches text found) ↔ ∃ q ∈ p, q.search text = found := by
  cases check with
  | none =>
    obtain rfl : none = p := Except.ok.inj h
    simp
  | some c =>
    rw [prepare] at h
    cases hc : Literal.compile c.pattern c.flags with
    | error fault =>
      rw [hc] at h
      cases h
    | ok q =>
      rw [hc] at h
      obtain rfl : some q = p := Except.ok.inj h
      simp [Check.Searches, hc]

section Clause

variable {r : Rule} {clauses : List Clause} {j : Nat} {c : Clause}

private theorem fails_iff_searches (hclause : clauses[j]? = some c) {d : Defect}
    (hd : d ∈ Defect.pair j) : r.Fails clauses d ↔ c.clauseType = r.clauseType ∧
      ∃ check, r.checkOf d = some check ∧ check.Searches c.text d.found := by
  constructor
  · rintro (_ | ⟨hclause', htype, hcheck, hfound⟩ | ⟨hclause', htype, hcheck, hfound⟩)
    · simp [Defect.pair] at hd
    all_goals
      obtain rfl : _ = j := by simpa [Defect.pair] using hd
      obtain rfl := Option.some.inj (hclause.symm.trans hclause')
      exact ⟨htype, _, hcheck, hfound⟩
  · rintro ⟨htype, _, hcheck, hfound⟩
    rcases Defect.mem_pair.mp hd with rfl | rfl
    · exact .missing hclause htype hcheck hfound
    · exact .present hclause htype hcheck hfound

private theorem fails_iff_search (hclause : clauses[j]? = some c) {d : Defect}
    (hd : d ∈ Defect.pair j) {p : Option Regex.Pattern} (h : prepare (r.checkOf d) = .ok p) :
    r.Fails clauses d ↔ c.clauseType = r.clauseType ∧ ∃ q ∈ p, q.search c.text = d.found := by
  rw [fails_iff_searches hclause hd, searches_iff h]

private theorem reports_absent (r : Rule) (clauses : List Clause) :
    r.Reports clauses .absent (r.violation (r.reason .absent) "") :=
  ⟨rfl, rfl, rfl, rfl, rfl, by simp [violation], fun _ h => by cases h⟩

private theorem reports_violation (hclause : clauses[j]? = some c) (htext : c.text ≠ "")
    {d : Defect}
    (hd : d ∈ Defect.pair j) : r.Reports clauses d (r.violation (r.reason d) c.text) := by
  have hsnippet : (r.violation (r.reason d) c.text).snippet = snippet c.text snippetLength := by
    rw [violation, if_neg (by simpa using htext)]
  have habridges := abridges_snippet c.text
  have hne : snippet c.text snippetLength ≠ "" := habridges.ne_empty htext
  have hclauseOf : d.clause? = some j := by
    rcases Defect.mem_pair.mp hd with rfl | rfl <;> rfl
  refine ⟨rfl, rfl, rfl, rfl, rfl, ?_, ?_⟩
  · rw [hsnippet]
    refine ⟨fun h => absurd h hne, ?_⟩
    rintro rfl
    cases hclauseOf
  · intro i hi
    rw [hclauseOf] at hi
    obtain rfl := Option.some.inj hi
    exact ⟨c, hclause, hsnippet ▸ habridges⟩

private theorem judge_eq (r : Rule) (required forbidden : Option Regex.Pattern) (text : String)
    [Decidable (∃ p ∈ required, p.search text = false)]
    [Decidable (∃ p ∈ forbidden, p.search text = true)] :
    r.judge required forbidden text =
      (if ∃ p ∈ required, p.search text = false then
        [r.violation ("Required pattern missing: " ++ literal r.required) text] else []) ++
      if ∃ p ∈ forbidden, p.search text = true then
        [r.violation ("Forbidden pattern present: " ++ literal r.forbidden) text] else [] := by
  unfold judge
  congr 1
  · cases required with
    | none => simp
    | some p => cases h : p.search text <;> simp [h]
  · cases forbidden <;> simp

open Classical in
private theorem reports_judge (hclause : clauses[j]? = some c) (htype : c.clauseType = r.clauseType)
    (htext : c.text ≠ "") {required forbidden : Option Regex.Pattern}
    (hrequired : prepare r.required = .ok required)
    (hforbidden : prepare r.forbidden = .ok forbidden) :
    List.Forall₂ (r.Reports clauses) ((Defect.pair j).filter (r.Fails clauses ·))
      (r.judge required forbidden c.text) := by
  have hmissing := fails_iff_search hclause (Defect.mem_pair.mpr (.inl rfl)) hrequired
  have hpresent := fails_iff_search hclause (Defect.mem_pair.mpr (.inr rfl)) hforbidden
  have hpair : Defect.pair j = [.missing j] ++ [.present j] := rfl
  rw [hpair, List.filter_append, judge_eq]
  apply List.rel_append
  · apply forall₂_filter_singleton
    · simp [hmissing, htype, Defect.found]
    · exact reports_violation hclause htext (Defect.mem_pair.mpr (.inl rfl))
  · apply forall₂_filter_singleton
    · simp [hpresent, htype, Defect.found]
    · exact reports_violation hclause htext (Defect.mem_pair.mpr (.inr rfl))

open Classical in
theorem filter_pair_eq_nil (hclause : clauses[j]? = some c) (htype : c.clauseType ≠ r.clauseType) :
    (Defect.pair j).filter (r.Fails clauses ·) = [] := by
  rw [List.filter_eq_nil_iff]
  intro d hd h
  exact htype ((fails_iff_searches hclause hd).mp (of_decide_eq_true h)).1

end Clause

private theorem clauses_eq_zipIdx (r : Rule) (clauses : List Clause) (f : Clause → List Violation) :
    (clauses.filter fun c => c.clauseType == r.clauseType).flatMap f =
      clauses.zipIdx.flatMap fun x => if x.1.clauseType = r.clauseType then f x.1 else [] := by
  conv_lhs => rw [← List.zipIdx_map_fst 0 clauses]
  generalize clauses.zipIdx = xs
  induction xs with
  | nil => rfl
  | cons x xs ih =>
    by_cases hx : x.1.clauseType = r.clauseType
    · simp [hx, ih]
    · simp [hx, ih]

open Classical in
/-- The violations of a rule are its defects, in their order. -/
theorem reports_of_evaluate {r : Rule} {clauses : List Clause}
    (htext : ∀ c ∈ clauses, c.text ≠ "") {vs : List Violation}
    (h : r.evaluate clauses = .ok vs) :
    List.Forall₂ (r.Reports clauses) ((Defect.candidates clauses).filter (r.Fails clauses ·))
      vs := by
  rw [evaluate] at h
  split at h
  · -- Without a clause of the type only the first candidate is left.
    next hnone =>
    have htypes : ∀ c ∈ clauses, c.clauseType ≠ r.clauseType := by
      simpa [List.filter_eq_nil_iff] using hnone
    have hclauses : (clauses.zipIdx.flatMap fun x => Defect.pair x.2).filter
        (r.Fails clauses ·) = [] := by
      rw [List.filter_flatMap, List.flatMap_eq_nil_iff]
      intro x hx
      have hclause := List.mem_zipIdx_iff_getElem?.mp hx
      exact filter_pair_eq_nil hclause (htypes _ (List.mem_of_getElem? hclause))
    have hcandidates : Defect.candidates clauses =
        [.absent] ++ clauses.zipIdx.flatMap fun x => Defect.pair x.2 := rfl
    rw [hcandidates, List.filter_append, hclauses, List.append_nil, ← Except.ok.inj h]
    apply forall₂_filter_singleton
    · rw [decide_eq_true_iff, Option.isSome_iff_ne_none]
      constructor
      · rintro ⟨hrequired, _⟩
        exact hrequired
      · exact fun hrequired => .absent hrequired htypes
    · exact reports_absent r clauses
  · -- Every clause of the type is judged by itself; the others give nothing on both sides.
    next hsome =>
    obtain ⟨required, hrequired, h⟩ := bind_eq_ok_iff.mp h
    obtain ⟨forbidden, hforbidden, h⟩ := bind_eq_ok_iff.mp h
    have habsent : ¬r.Fails clauses .absent := by
      rintro ⟨_, htypes⟩
      exact hsome (by simpa [List.filter_eq_nil_iff] using htypes)
    rw [Defect.candidates, List.filter_cons_of_neg (by simpa using habsent), List.filter_flatMap,
      ← pure_eq_ok_iff.mp h, clauses_eq_zipIdx]
    apply forall₂_flatMap
    intro x hx
    have hclause := List.mem_zipIdx_iff_getElem?.mp hx
    by_cases htype : x.1.clauseType = r.clauseType
    · rw [if_pos htype]
      exact reports_judge hclause htype (htext _ (List.mem_of_getElem? hclause))
        hrequired hforbidden
    · rw [if_neg htype, filter_pair_eq_nil hclause htype]
      exact .nil

end Rule

namespace Policy

variable (p : Policy) (clauses : List Clause)

def Fails (f : Finding) : Prop := ∃ r, p.rules[f.rule]? = some r ∧ r.Fails clauses f.defect

def Reports (f : Finding) (v : Violation) : Prop :=
  ∃ r, p.rules[f.rule]? = some r ∧ r.Reports clauses f.defect v

open Classical in
noncomputable def findings : List Finding :=
  p.rules.zipIdx.flatMap fun x =>
    ((Defect.candidates clauses).filter (x.1.Fails clauses ·)).map (Finding.mk x.2)

theorem mem_findings_iff {f : Finding} : f ∈ p.findings clauses ↔ p.Fails clauses f := by
  obtain ⟨i, d⟩ := f
  simp only [findings, Fails, List.mem_flatMap, List.mem_map, List.mem_filter, decide_eq_true_iff,
    Finding.mk.injEq, Prod.exists, List.mk_mem_zipIdx_iff_getElem?]
  constructor
  · rintro ⟨r, _, hr, _, ⟨_, hfails⟩, rfl, rfl⟩
    exact ⟨r, hr, hfails⟩
  · rintro ⟨r, hr, hfails⟩
    exact ⟨r, i, hr, d, ⟨hfails.mem_candidates, hfails⟩, rfl, rfl⟩

private theorem findings_pairwise :
    (p.findings clauses).Pairwise fun f g => f.place < g.place := by
  rw [findings, List.pairwise_flatMap]
  constructor
  · intro x _
    rw [List.pairwise_map]
    refine ((Defect.candidates_pairwise clauses).filter _).imp fun h => ?_
    exact Prod.Lex.toLex_lt_toLex.mpr (.inr ⟨rfl, h⟩)
  · refine (zipIdx_pairwise_lt p.rules).imp fun h f hf g hg => ?_
    obtain ⟨d, _, rfl⟩ := List.mem_map.mp hf
    obtain ⟨e, _, rfl⟩ := List.mem_map.mp hg
    exact Prod.Lex.toLex_lt_toLex.mpr (.inl h)

variable {p clauses}

theorem reports_of_evaluate (htext : ∀ c ∈ clauses, c.text ≠ "") {vs : List Violation}
    (h : p.evaluate clauses = .ok vs) :
    List.Forall₂ (p.Reports clauses) (p.findings clauses) vs := by
  obtain ⟨vss, hevaluate, rfl⟩ := evaluate_eq_ok_iff.mp h
  have hrules : List.Forall₂ (fun x vs => p.rules[x.2]? = some x.1 ∧
      x.1.evaluate clauses = .ok vs) p.rules.zipIdx vss := by
    rw [← List.zipIdx_map_fst 0 p.rules, List.forall₂_map_left_iff] at hevaluate
    rw [List.forall₂_and_left]
    exact ⟨fun x hx => List.mem_zipIdx_iff_getElem?.mp hx, hevaluate⟩
  rw [findings, ← List.flatMap_id]
  refine List.rel_flatMap hrules ?_
  rintro x vs ⟨hrule, hvs⟩
  rw [List.forall₂_map_left_iff]
  exact (Rule.reports_of_evaluate htext hvs).imp fun d v hv => ⟨x.1, hrule, hv⟩

/-- An assessment reports all failing checks and nothing else, once each and in order. Where a rule
has no clause of its type, this is its only finding. -/
theorem exists_findings (h : ∀ r ∈ p.rules, r.Usable) (contract : String) :
    ∃ s found, p.simulate contract = .ok s ∧
      found.Pairwise (fun f g => f.place < g.place) ∧
      (∀ f, f ∈ found ↔ p.Fails (Clause.segment contract) f) ∧
      (∀ f ∈ found, f.defect = .absent → ∀ g ∈ found, g.rule = f.rule → g = f) ∧
      List.Forall₂ (p.Reports (Clause.segment contract)) found s.violations := by
  obtain ⟨s, hs⟩ := exists_simulate_of_usable h contract
  obtain ⟨hevaluate, _⟩ := simulate_eq_ok_iff.mp hs
  refine ⟨s, p.findings (Clause.segment contract), hs, p.findings_pairwise _,
    fun f => p.mem_findings_iff _, ?_, ?_⟩
  · rintro ⟨i, d⟩ hf habsent ⟨j, e⟩ hg hrule
    obtain rfl : d = .absent := habsent
    obtain rfl : j = i := hrule
    obtain ⟨r, hr, hfails⟩ := (p.mem_findings_iff _).mp hf
    obtain ⟨r', hr', hfails'⟩ := (p.mem_findings_iff _).mp hg
    obtain rfl := Option.some.inj (hr.symm.trans hr')
    rw [show e = .absent from hfails.eq_absent hfails']
  · exact reports_of_evaluate (fun c hc => Clause.text_ne_of_mem_segment hc) hevaluate

private theorem Built.usable (h : p.Built) : ∀ r ∈ p.rules, r.Usable := fun r hr =>
    (h.sound r hr).usable

theorem paymentPolicy_findings : (∀ r ∈ paymentPolicy.rules, r.Usable) ∧
    ∃ s found, paymentPolicy.simulate "Payment on demand." = .ok s ∧
      found.Pairwise (fun f g => f.place < g.place) ∧
      (∀ f, f ∈ found ↔ paymentPolicy.Fails (Clause.segment "Payment on demand.") f) ∧
      (∀ f ∈ found, f.defect = .absent → ∀ g ∈ found, g.rule = f.rule → g = f) ∧
      List.Forall₂ (paymentPolicy.Reports (Clause.segment "Payment on demand.")) found
        s.violations := by
  have husable := (Built.loaded (p := paymentPolicy) (v := paymentPolicy.toJson) rfl).usable
  exact ⟨husable, exists_findings husable "Payment on demand."⟩

end Policy

end ClauseAudit
