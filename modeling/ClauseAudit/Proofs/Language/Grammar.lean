import ClauseAudit.Language.Compile
import ClauseAudit.Proofs.Text.Blank
import Mathlib.Data.List.Forall2

/-!
# The grammar of policy texts

What a policy text says, without regard to how it is read. Lines are statements of keywords, and
statements are grouped into rule blocks, between which and inside which the policy may be named.
-/

namespace ClauseAudit.Language

/-- A line is a statement of a keyword when it is the bare keyword, with an empty argument, or the
keyword, a blank and more, which is the argument without the blanks around it. -/
inductive Says (keyword : String) : String → String → Prop
  | bare : Says keyword keyword ""
  | more (rest : String) : Says keyword (keyword ++ " " ++ rest) (Text.strip rest)

/-- The lines that are statements of the language. -/
inductive Reads : String → Statement → Prop
  | policy {line argument : String} (h : Says "POLICY" line argument) :
      Reads line (.policy argument)
  | rule {line argument : String} (h : Says "RULE" line argument) : Reads line (.rule argument)
  | field {line argument : String} (keyword : Keyword) (h : Says keyword.text line argument) :
      Reads line (.field keyword argument)
  | close : Reads "END" .close

def isSilent (line : String) : Bool := line.isEmpty || line.toList.head? == some '#'

/-- The stripped lines of a text, without blank lines and comments. -/
def spokenLines (text : String) : List String :=
  ((Text.lines text).map Text.strip).filter fun line => !isSilent line

/-- A text between double quotes, which may hold double quotes itself. -/
def Quotes (argument value : String) : Prop := argument = "\"" ++ value ++ "\""

/-- A pattern between slashes, with flags after it, that can be used. -/
structure Writes (argument : String) (c : Check) : Prop where
  literal : argument = Literal.format c.pattern c.flags
  pattern_ne : c.pattern ≠ ""
  usable : ∃ p, Literal.compile c.pattern c.flags = .ok p

def NamesType (argument clauseType : String) : Prop :=
  argument ≠ "" ∧ clauseType = Text.upper argument

def NamesSeverity (argument : String) (s : Severity) : Prop :=
  Text.lower argument = s.name

/-- At most one argument, which gives the value; no argument gives none. -/
def AtMostOnce {β : Type} (gives : String → β → Prop) (arguments : List String)
    (value : Option β) : Prop :=
  List.Forall₂ gives arguments value.toList

/-- The statements of one keyword among those of a rule block. -/
def argumentsOf (keyword : Keyword) (body : List (Keyword × String)) : List String :=
  (body.filter (·.1 = keyword)).map (·.2)

/-- A rule block: its identifier and the statements before its end. -/
structure Block where
  id : String
  body : List (Keyword × String)

namespace Block

def bodyStatements (body : List (Keyword × String)) : List Statement :=
  body.map fun f => .field f.1 f.2

def statements (b : Block) : List Statement :=
  .rule b.id :: bodyStatements b.body ++ [.close]

/-- The block is complete and describes the rule. -/
structure Describes (b : Block) (r : Rule) : Prop where
  id_ne : b.id ≠ ""
  id : r.id = b.id
  clauseType : AtMostOnce NamesType (argumentsOf .clauseType b.body) (some r.clauseType)
  required : AtMostOnce Writes (argumentsOf .require b.body) r.required
  forbidden : AtMostOnce Writes (argumentsOf .forbid b.body) r.forbidden
  checked : r.required ≠ none ∨ r.forbidden ≠ none
  severity : AtMostOnce NamesSeverity (argumentsOf .severity b.body) (some r.severity)
  remediation : ∃ given, AtMostOnce Quotes (argumentsOf .remediation b.body) given ∧
    r.remediation = given.getD Rule.defaultRemediation

end Block

def policyArgument? : Statement → Option String
  | .policy argument => some argument
  | _ => none

private theorem policyArgument?_eq_some_iff {s : Statement} {argument : String} :
    policyArgument? s = some argument ↔ s = .policy argument := by
  cases s <;> simp [policyArgument?]

theorem mem_policyArguments_iff {statements : List Statement} {argument : String} :
    argument ∈ statements.filterMap policyArgument? ↔ Statement.policy argument ∈ statements := by
  simp [List.mem_filterMap, policyArgument?_eq_some_iff]

def ruleStatements (statements : List Statement) : List Statement :=
  statements.filter fun s => (policyArgument? s).isNone

/-- The statements name the policy at most once, and the others are the blocks of its rules. -/
structure Describes (statements : List Statement) (p : Policy) : Prop where
  name : ∃ given, AtMostOnce Quotes (statements.filterMap policyArgument?) given ∧
    p.name = given.getD Policy.defaultName
  blocks : ∃ blocks : List Block, blocks ≠ [] ∧
    ruleStatements statements = blocks.flatMap Block.statements ∧
    List.Forall₂ Block.Describes blocks p.rules

/-! ## Statements of lines -/

private theorem argument?_eq_some_iff (keyword : String) (line : List Char) (argument : String) :
    argument? keyword line = some argument ↔ Says keyword (String.ofList line) argument := by
  constructor
  · intro h
    rw [argument?] at h
    split at h
    · next hbare =>
      rw [hbare, String.ofList_toList, ← Option.some.inj h]
      exact .bare
    · next hbare =>
      split at h
      · next hprefix =>
        obtain ⟨rest, hrest⟩ := List.isPrefixOf_iff_prefix.mp hprefix
        have hline : String.ofList line = keyword ++ " " ++ String.ofList rest := by
          rw [← String.toList_inj, ← hrest]
          simp
        have hdrop : line.drop (keyword.toList.length + 1) = rest := by
          rw [← hrest]
          exact List.drop_left' (by simp)
        have harg : argument = Text.strip (String.ofList rest) := by
          rw [← Option.some.inj h, hdrop, Text.strip, String.toList_ofList]
        rw [hline, harg]
        exact .more _
      · simp at h
  · intro h
    generalize hline : String.ofList line = text at h
    have htext : line = text.toList := by rw [← hline, String.toList_ofList]
    cases h with
    | bare => rw [argument?, if_pos htext]
    | more rest =>
      have hlist : line = (keyword.toList ++ [' ']) ++ rest.toList := by
        rw [htext]
        simp
      have hlong : line ≠ keyword.toList := by
        rw [hlist]
        simp
      have hprefix : (keyword.toList ++ [' ']).isPrefixOf line = true :=
        List.isPrefixOf_iff_prefix.mpr ⟨rest.toList, hlist.symm⟩
      have hdrop : line.drop (keyword.toList.length + 1) = rest.toList := by
        rw [hlist]
        exact List.drop_left' (by simp)
      rw [argument?, if_neg hlong, if_pos hprefix, hdrop]
      rfl

private theorem says_iff (keyword line argument : String) :
    Says keyword line argument ↔ argument? keyword line.toList = some argument := by
  rw [argument?_eq_some_iff, String.ofList_toList]

def words : List String := "POLICY" :: "RULE" :: "END" :: Keyword.all.map Keyword.text

private theorem words_apart :
    ∀ v ∈ words, ∀ w ∈ words, v ≠ w → ¬v.toList <+: w.toList := by
  decide

theorem mem_words_of_keyword (keyword : Keyword) : keyword.text ∈ words := by
  cases keyword <;> decide

private theorem Says.isPrefix {keyword line argument : String} (h : Says keyword line argument) :
    keyword.toList <+: line.toList := by
  cases h with
  | bare => exact List.prefix_refl _
  | more rest =>
    rw [String.toList_append, String.toList_append, List.append_assoc]
    exact List.prefix_append _ _

/-- No word begins with another one, so a line is a statement of one word at most. -/
theorem argument?_eq_none {v w line : String} (hv : v ∈ words) (hw : w ∈ words) (hne : v ≠ w)
    (h : v.toList <+: line.toList) : argument? w line.toList = none := by
  cases hargument : argument? w line.toList with
  | none => rfl
  | some argument =>
    have hprefix := ((says_iff w line argument).mpr hargument).isPrefix
    rcases List.prefix_or_prefix_of_prefix h hprefix with hvw | hwv
    · exact absurd hvw (words_apart v hv w hw hne)
    · exact absurd hwv (words_apart w hw v hv (Ne.symm hne))

private theorem findSome?_keyword {line : String} {keyword : Keyword} {argument : String}
    (h : Says keyword.text line argument) :
    Keyword.all.findSome? (fun k => (argument? k.text line.toList).map (Prod.mk k)) =
      some (keyword, argument) := by
  have hsome := (says_iff keyword.text line argument).mp h
  have hnone (k : Keyword) (hk : keyword.text ≠ k.text) :
      argument? k.text line.toList = none :=
    argument?_eq_none (mem_words_of_keyword keyword) (mem_words_of_keyword k) hk h.isPrefix
  cases keyword with
  | clauseType => simp [Keyword.all, hsome]
  | require => simp [Keyword.all, hsome, hnone .clauseType (by decide)]
  | forbid =>
    simp [Keyword.all, hsome, hnone .clauseType (by decide), hnone .require (by decide)]
  | severity =>
    simp [Keyword.all, hsome, hnone .clauseType (by decide), hnone .require (by decide),
      hnone .forbid (by decide)]
  | remediation =>
    simp [Keyword.all, hsome, hnone .clauseType (by decide), hnone .require (by decide),
      hnone .forbid (by decide), hnone .severity (by decide)]

/-- The statement of a line is what the grammar reads in it. -/
theorem Reads.ofLine_eq {line : String} {s : Statement} (h : Reads line s) :
    Statement.ofLine line.toList = s := by
  cases h with
  | policy h => rw [Statement.ofLine, (says_iff _ _ _).mp h]
  | rule h =>
    have hpolicy := argument?_eq_none (w := "POLICY") (by decide) (by decide) (by decide)
      h.isPrefix
    rw [Statement.ofLine, hpolicy, (says_iff _ _ _).mp h]
  | field keyword h =>
    have hpolicy := argument?_eq_none (w := "POLICY") (mem_words_of_keyword keyword) (by decide)
      (by cases keyword <;> decide) h.isPrefix
    have hrule := argument?_eq_none (w := "RULE") (mem_words_of_keyword keyword) (by decide)
      (by cases keyword <;> decide) h.isPrefix
    rw [Statement.ofLine, hpolicy, hrule, findSome?_keyword h]
  | close => rfl

def Statement.isKnown : Statement → Bool
  | .other _ => false
  | _ => true

private theorem Reads.isKnown {line : String} {s : Statement} (h : Reads line s) : s.isKnown =
    true := by
  cases h <;> rfl

theorem reads_ofLine {line : String} (h : (Statement.ofLine line.toList).isKnown = true) :
    Reads line (Statement.ofLine line.toList) := by
  rw [Statement.ofLine] at h ⊢
  split
  · next hpolicy => exact .policy ((says_iff _ _ _).mpr hpolicy)
  · next hpolicy =>
    split
    · next hrule => exact .rule ((says_iff _ _ _).mpr hrule)
    · next hrule =>
      split
      · next keyword argument hfield =>
        obtain ⟨k, _, hk⟩ := List.exists_of_findSome?_eq_some hfield
        obtain ⟨a, ha, heq⟩ := Option.map_eq_some_iff.mp hk
        cases heq
        exact .field _ ((says_iff _ _ _).mpr ha)
      · next hfield =>
        split
        · next hend =>
          rw [String.toList_inj] at hend
          rw [hend]
          exact .close
        · next hend =>
          simp only [hpolicy, hrule, hfield, if_neg hend, Statement.isKnown] at h
          contradiction

private theorem reads_iff (line : String) (s : Statement) :
    Reads line s ↔ Statement.ofLine line.toList = s ∧ s.isKnown = true := by
  constructor
  · exact fun h => ⟨h.ofLine_eq, h.isKnown⟩
  · rintro ⟨rfl, hknown⟩
    exact reads_ofLine hknown

/-! ## Statements of texts -/

/-- The statements of a text, also those that the grammar does not know. -/
def statementsOf (lines : List String) : List Statement := lines.filterMap Statement.ofRaw?

theorem ofRaw?_eq (raw : String) : Statement.ofRaw? raw =
    if isSilent (Text.strip raw) then none
    else some (Statement.ofLine (Text.strip raw).toList) := by
  have hempty : (Text.strip raw).isEmpty = (Text.strip raw).toList.isEmpty := by
    rw [Bool.eq_iff_iff, String.isEmpty_iff, List.isEmpty_iff, String.toList_eq_nil_iff]
  rw [Statement.ofRaw?, isSilent, hempty, Text.toList_strip]
  split
  · next h => simp [h]
  · next h => simp [h]
  · next hnil hhash =>
    cases hline : Text.stripChars raw.toList with
    | nil => exact absurd hline hnil
    | cons c cs =>
      have hc : c ≠ '#' := by
        rintro rfl
        exact hhash cs hline
      simp [hc]

theorem ofRaw?_congr {a b : String} (h : Text.strip a = Text.strip b) :
    Statement.ofRaw? a = Statement.ofRaw? b := by
  rw [ofRaw?_eq, ofRaw?_eq, h]

theorem statementsOf_congr {as bs : List String} (h : as.map Text.strip = bs.map Text.strip) :
    statementsOf as = statementsOf bs := by
  induction as generalizing bs with
  | nil => rw [List.map_eq_nil_iff.mp h.symm]
  | cons a as ih =>
    cases bs with
    | nil => cases h
    | cons b bs =>
      obtain ⟨hline, hrest⟩ := List.cons.inj h
      rw [statementsOf, statementsOf, List.filterMap_cons, List.filterMap_cons, ofRaw?_congr hline,
        ← statementsOf, ← statementsOf, ih hrest]

theorem statementsOf_eq (text : String) : statementsOf (Text.lines text) =
    (spokenLines text).map fun line => Statement.ofLine line.toList := by
  rw [statementsOf, spokenLines]
  induction Text.lines text with
  | nil => rfl
  | cons raw lines ih =>
    rw [List.filterMap_cons, ofRaw?_eq, List.map_cons]
    by_cases h : isSilent (Text.strip raw) = true
    · simp [h, ih]
    · simp [h, ih]

theorem forall₂_reads_iff (lines : List String) (statements : List Statement) :
    List.Forall₂ Reads lines statements ↔
      lines.map (fun line => Statement.ofLine line.toList) = statements ∧
        ∀ s ∈ statements, s.isKnown = true := by
  induction lines generalizing statements with
  | nil =>
    constructor
    · rintro ⟨⟩
      simp
    · rintro ⟨rfl, _⟩
      exact .nil
  | cons line lines ih =>
    constructor
    · intro h
      cases h with
      | cons hline hlines =>
        obtain ⟨heq, hknown⟩ := (ih _).mp hlines
        obtain ⟨heq', hknown'⟩ := (reads_iff _ _).mp hline
        rw [List.map_cons, heq', heq]
        exact ⟨rfl, List.forall_mem_cons.mpr ⟨hknown', hknown⟩⟩
    · rintro ⟨rfl, hknown⟩
      obtain ⟨hline, hlines⟩ := List.forall_mem_cons.mp hknown
      exact .cons ((reads_iff _ _).mpr ⟨rfl, hline⟩) ((ih _).mpr ⟨rfl, hlines⟩)

end ClauseAudit.Language
