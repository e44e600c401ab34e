import ClauseAudit.Proofs.Aligned
import ClauseAudit.Proofs.Language.Step

/-!
# Which texts are policies

A text compiles exactly when it follows the grammar, to the policy that the grammar reads in it.
The state after some lines is determined by what these lines say: the blocks that are complete, the
block that is open, and the name.
-/

namespace ClauseAudit.Language

/-! ## Arguments -/

section AtMostOnce

variable {β : Type} {gives : String → β → Prop}

theorem atMostOnce_none_iff {arguments : List String} :
    AtMostOnce gives arguments none ↔ arguments = [] :=
  List.forall₂_nil_right_iff

theorem atMostOnce_some_iff {arguments : List String} {v : β} :
    AtMostOnce gives arguments (some v) ↔
      ∃ argument, arguments = [argument] ∧ gives argument v := by
  rw [AtMostOnce, Option.toList_some, List.forall₂_cons_right_iff]
  constructor
  · rintro ⟨argument, rest, hv, hrest, rfl⟩
    rw [List.forall₂_nil_right_iff.mp hrest]
    exact ⟨argument, rfl, hv⟩
  · rintro ⟨argument, rfl, hv⟩
    exact ⟨argument, [], hv, .nil, rfl⟩

theorem atMostOnce_nil_iff {value : Option β} : AtMostOnce gives [] value ↔ value = none := by
  rw [AtMostOnce, List.forall₂_nil_left_iff, Option.toList_eq_nil_iff]

private theorem atMostOnce_concat_iff {arguments : List String} {argument : String}
    {value : Option β} : AtMostOnce gives (arguments ++ [argument]) value ↔
      arguments = [] ∧ ∃ v, value = some v ∧ gives argument v := by
  rw [AtMostOnce, forall₂_concat_iff]
  constructor
  · rintro ⟨values, v, hvalue, hrest, hv⟩
    cases value with
    | none => simp at hvalue
    | some w =>
      have hconcat : [] ++ [w] = values ++ [v] := hvalue
      obtain ⟨hvalues, hvw⟩ := List.append_inj' hconcat rfl
      cases hvw
      rw [← hvalues, List.forall₂_nil_right_iff] at hrest
      exact ⟨hrest, v, rfl, hv⟩
  · rintro ⟨rfl, v, rfl, hv⟩
    exact ⟨[], v, rfl, .nil, hv⟩

private theorem AtMostOnce.concat {arguments : List String} {argument : String} {value : Option β}
    {v : β} (h : AtMostOnce gives arguments value) (unset : value = none) (hv : gives argument v) :
    AtMostOnce gives (arguments ++ [argument]) (some v) := by
  rw [unset, atMostOnce_none_iff] at h
  exact atMostOnce_concat_iff.mpr ⟨h, v, rfl, hv⟩

theorem atMostOnce_singleton_iff {argument : String} {value : Option β} :
    AtMostOnce gives [argument] value ↔ ∃ v, value = some v ∧ gives argument v := by
  rw [← List.nil_append [argument], atMostOnce_concat_iff]
  simp

end AtMostOnce

theorem argumentsOf_concat (keyword keyword' : Keyword) (body : List (Keyword × String))
    (argument : String) :
    argumentsOf keyword (body ++ [(keyword', argument)]) =
      argumentsOf keyword body ++ if keyword' = keyword then [argument] else [] := by
  by_cases h : keyword' = keyword <;> simp [argumentsOf, h]

/-! ## The open block -/

namespace Draft

/-- The arguments of a keyword give the value that the draft has for it. -/
def Holds (d : Draft) (keyword : Keyword) (arguments : List String) : Prop :=
  match keyword with
  | .clauseType => AtMostOnce NamesType arguments d.clauseType
  | .require => AtMostOnce Writes arguments d.required
  | .forbid => AtMostOnce Writes arguments d.forbidden
  | .severity => AtMostOnce NamesSeverity arguments d.severity
  | .remediation => AtMostOnce Quotes arguments d.remediation

def without (d : Draft) : Keyword → Draft
  | .clauseType => { d with clauseType := none }
  | .require => { d with required := none }
  | .forbid => { d with forbidden := none }
  | .severity => { d with severity := none }
  | .remediation => { d with remediation := none }

private theorem without_id (d : Draft) (keyword : Keyword) : (d.without keyword).id = d.id := by
  cases keyword <;> rfl

private theorem holds_without (d : Draft) (keyword : Keyword) : (d.without keyword).Holds keyword
    [] := by
  cases keyword <;> exact List.Forall₂.nil

private theorem holds_without_of_ne (d : Draft) {keyword other : Keyword} (h : keyword ≠ other)
    (arguments : List String) :
    (d.without keyword).Holds other arguments ↔ d.Holds other arguments := by
  cases keyword <;> cases other <;> first | exact Iff.rfl | exact absurd rfl h

private theorem Adds.id {d d' : Draft} {keyword : Keyword} {argument : String}
    (h : d.Adds keyword argument d') : d'.id = d.id := by
  cases h <;> rfl

private theorem Adds.holds_iff_of_ne {d d' : Draft} {keyword other : Keyword} {argument : String}
    (h : d.Adds keyword argument d') (hne : keyword ≠ other) (arguments : List String) :
    d'.Holds other arguments ↔ d.Holds other arguments := by
  cases h <;> cases other <;> first | exact Iff.rfl | exact absurd rfl hne

theorem Adds.holds_concat {d d' : Draft} {keyword : Keyword} {argument : String}
    (h : d.Adds keyword argument d') {arguments : List String} (hd : d.Holds keyword arguments) :
    d'.Holds keyword (arguments ++ [argument]) := by
  cases h with
  | clauseType unset value => exact AtMostOnce.concat hd unset value
  | require unset value => exact AtMostOnce.concat hd unset value
  | forbid unset value => exact AtMostOnce.concat hd unset value
  | severity unset value => exact AtMostOnce.concat hd unset value
  | remediation unset value => exact AtMostOnce.concat hd unset value

private theorem Holds.adds {d' : Draft} {keyword : Keyword} {arguments : List String}
    {argument : String} (h : d'.Holds keyword (arguments ++ [argument])) :
    arguments = [] ∧ (d'.without keyword).Adds keyword argument d' := by
  obtain ⟨id, clauseType, required, forbidden, severity, remediation⟩ := d'
  cases keyword with
  | clauseType =>
    obtain ⟨hnil, v, rfl, value⟩ := atMostOnce_concat_iff.mp h
    exact ⟨hnil, .clauseType rfl value⟩
  | require =>
    obtain ⟨hnil, v, rfl, value⟩ := atMostOnce_concat_iff.mp h
    exact ⟨hnil, .require rfl value⟩
  | forbid =>
    obtain ⟨hnil, v, rfl, value⟩ := atMostOnce_concat_iff.mp h
    exact ⟨hnil, .forbid rfl value⟩
  | severity =>
    obtain ⟨hnil, v, rfl, value⟩ := atMostOnce_concat_iff.mp h
    exact ⟨hnil, .severity rfl value⟩
  | remediation =>
    obtain ⟨hnil, v, rfl, value⟩ := atMostOnce_concat_iff.mp h
    exact ⟨hnil, .remediation rfl value⟩

end Draft

namespace Block

def opening (b : Block) : List Statement := .rule b.id :: bodyStatements b.body

def add (b : Block) (keyword : Keyword) (argument : String) : Block :=
  { b with body := b.body ++ [(keyword, argument)] }

private theorem opening_add (b : Block) (keyword : Keyword) (argument : String) :
    (b.add keyword argument).opening = b.opening ++ [.field keyword argument] := by
  simp [opening, add, bodyStatements]

theorem mem_statements_iff {b : Block} {s : Statement} :
    s ∈ b.statements ↔ s = .rule b.id ∨ (∃ f ∈ b.body, .field f.1 f.2 = s) ∨ s = .close := by
  simp only [statements, bodyStatements, List.cons_append, List.mem_cons, List.mem_append,
    List.mem_map, List.not_mem_nil, or_false]

private theorem statements_eq (b : Block) : b.statements = b.opening ++ [.close] := rfl

/-- The draft holds what the block has said so far. -/
structure Drafts (b : Block) (d : Draft) : Prop where
  id_ne : b.id ≠ ""
  id : d.id = b.id
  holds : ∀ keyword, d.Holds keyword (argumentsOf keyword b.body)

private theorem drafts_nil_iff {id : String} {d : Draft} :
    Drafts ⟨id, []⟩ d ↔ id ≠ "" ∧ d = { id := id } := by
  constructor
  · intro h
    refine ⟨h.id_ne, ?_⟩
    have hid : d.id = id := h.id
    have htype := atMostOnce_nil_iff.mp (h.holds .clauseType)
    have hrequired := atMostOnce_nil_iff.mp (h.holds .require)
    have hforbidden := atMostOnce_nil_iff.mp (h.holds .forbid)
    have hseverity := atMostOnce_nil_iff.mp (h.holds .severity)
    have hremediation := atMostOnce_nil_iff.mp (h.holds .remediation)
    obtain ⟨_, _, _, _, _, _⟩ := d
    simp_all
  · rintro ⟨hne, rfl⟩
    refine ⟨hne, rfl, ?_⟩
    intro keyword
    cases keyword <;> exact List.Forall₂.nil

private theorem drafts_add_iff {b : Block} {d' : Draft} {keyword : Keyword} {argument : String} :
    (b.add keyword argument).Drafts d' ↔ ∃ d, b.Drafts d ∧ d.Adds keyword argument d' := by
  constructor
  · intro h
    have hlast := h.holds keyword
    rw [add, argumentsOf_concat, if_pos rfl] at hlast
    obtain ⟨hnil, hadds⟩ := hlast.adds
    refine ⟨d'.without keyword, ⟨h.id_ne, ?_, ?_⟩, hadds⟩
    · rw [Draft.without_id, h.id]
      rfl
    · intro other
      -- the keyword itself had no statement before this one
      by_cases hother : keyword = other
      · rw [← hother, hnil]
        exact d'.holds_without keyword
      · have hrest := h.holds other
        rw [add, argumentsOf_concat, if_neg hother, List.append_nil] at hrest
        exact (d'.holds_without_of_ne hother _).mpr hrest
  · rintro ⟨d, hd, hadds⟩
    refine ⟨hd.id_ne, hadds.id.trans hd.id, ?_⟩
    intro other
    rw [add, argumentsOf_concat]
    by_cases hother : keyword = other
    · subst hother
      rw [if_pos rfl]
      exact hadds.holds_concat (hd.holds keyword)
    · rw [if_neg hother, List.append_nil]
      exact (hadds.holds_iff_of_ne hother _).mpr (hd.holds other)

private theorem describes_iff {b : Block} {r : Rule} :
    b.Describes r ↔ ∃ d, b.Drafts d ∧ d.Completes r := by
  constructor
  · intro h
    obtain ⟨given, hgiven, hremediation⟩ := h.remediation
    refine ⟨⟨b.id, some r.clauseType, r.required, r.forbidden, some r.severity, given⟩,
      ⟨h.id_ne, rfl, ?_⟩, ⟨h.id, rfl, rfl, rfl, h.checked, rfl, hremediation⟩⟩
    intro keyword
    cases keyword with
    | clauseType => exact h.clauseType
    | require => exact h.required
    | forbid => exact h.forbidden
    | severity => exact h.severity
    | remediation => exact hgiven
  · rintro ⟨d, hd, hr⟩
    exact {
      id_ne := hd.id_ne
      id := hr.id.trans hd.id
      clauseType := hr.clauseType ▸ hd.holds .clauseType
      required := hr.required ▸ hd.holds .require
      forbidden := hr.forbidden ▸ hd.holds .forbid
      checked := by rw [hr.required, hr.forbidden]; exact hr.checked
      severity := hr.severity ▸ hd.holds .severity
      remediation := ⟨d.remediation, hd.holds .remediation, hr.remediation⟩ }

/-- The statements of complete blocks and of one that may be open after them. -/
def layout (blocks : List Block) (opened : Option Block) : List Statement :=
  blocks.flatMap statements ++ (opened.map opening).getD []

private theorem layout_rule (blocks : List Block) (id : String) :
    layout blocks (some ⟨id, []⟩) = layout blocks none ++ [.rule id] := by
  simp [layout, opening, bodyStatements]

private theorem layout_field (blocks : List Block) (b : Block) (keyword : Keyword)
    (argument : String) : layout blocks (some (b.add keyword argument)) =
      layout blocks (some b) ++ [.field keyword argument] := by
  simp [layout, opening_add]

private theorem layout_close (blocks : List Block) (b : Block) :
    layout (blocks ++ [b]) none = layout blocks (some b) ++ [.close] := by
  simp [layout, statements_eq]

/-- The last statement of a layout has opened a block, added to one or closed one. -/
inductive LastOf : List Block → Option Block → Statement → List Block → Option Block → Prop
  | rule {blocks : List Block} {id : String} :
      LastOf blocks none (.rule id) blocks (some ⟨id, []⟩)
  | field {blocks : List Block} {b : Block} {keyword : Keyword} {argument : String} :
      LastOf blocks (some b) (.field keyword argument) blocks (some (b.add keyword argument))
  | close {blocks : List Block} {b : Block} :
      LastOf blocks (some b) .close (blocks ++ [b]) none

private theorem LastOf.layout_eq {blocks blocks' : List Block} {opened opened' : Option Block}
    {last : Statement} (h : LastOf blocks opened last blocks' opened') :
    layout blocks' opened' = layout blocks opened ++ [last] := by
  cases h with
  | rule => exact layout_rule _ _
  | field => exact layout_field _ _ _ _
  | close => exact layout_close _ _

private theorem exists_lastOf {blocks' : List Block} {opened' : Option Block}
    (h : layout blocks' opened' ≠ []) :
    ∃ blocks opened last, LastOf blocks opened last blocks' opened' := by
  cases opened' with
  | some b =>
    obtain ⟨id, body⟩ := b
    rcases List.eq_nil_or_concat' body with rfl | ⟨body, ⟨keyword, argument⟩, rfl⟩
    · exact ⟨_, _, _, .rule⟩
    · exact ⟨_, _, _, .field (b := ⟨id, body⟩)⟩
  | none =>
    rcases List.eq_nil_or_concat' blocks' with rfl | ⟨blocks, b, rfl⟩
    · exact absurd rfl h
    · exact ⟨_, _, _, .close⟩

private theorem layout_eq_nil_iff {blocks : List Block} {opened : Option Block} :
    layout blocks opened = [] ↔ blocks = [] ∧ opened = none := by
  constructor
  · intro h
    rw [layout, List.append_eq_nil_iff, List.flatMap_eq_nil_iff] at h
    constructor
    · apply List.eq_nil_iff_forall_not_mem.mpr
      intro b hb
      have hnil := h.1 b hb
      rw [statements] at hnil
      cases hnil
    · cases opened with
      | none => rfl
      | some b => cases h.2
  · rintro ⟨rfl, rfl⟩
    rfl

end Block

/-! ## The state -/

namespace State

/-- The state holds what the statements so far have said. -/
structure Tells (statements : List Statement) (s : State) : Prop where
  name : AtMostOnce Quotes (statements.filterMap policyArgument?) s.name
  blocks : ∃ (blocks : List Block) (opened : Option Block),
    ruleStatements statements = Block.layout blocks opened ∧
    List.Forall₂ Block.Describes blocks s.rules ∧ Option.Rel Block.Drafts opened s.draft

private theorem tells_nil_iff {s : State} : Tells [] s ↔ s = {} := by
  constructor
  · rintro ⟨hname, blocks, opened, hlayout, hrules, hdraft⟩
    obtain ⟨rfl, rfl⟩ := Block.layout_eq_nil_iff.mp hlayout.symm
    obtain ⟨name, draft, rules⟩ := s
    cases hrules
    cases hdraft
    cases atMostOnce_nil_iff.mp hname
    rfl
  · rintro rfl
    exact ⟨.nil, [], none, rfl, .nil, .none⟩

private theorem tells_policy_iff {statements : List Statement} {argument : String} {s' : State} :
    Tells (statements ++ [.policy argument]) s' ↔
      ∃ s, Tells statements s ∧ s.Step (.policy argument) s' := by
  have hnames : (statements ++ [Statement.policy argument]).filterMap policyArgument? =
      statements.filterMap policyArgument? ++ [argument] := by
    simp [policyArgument?]
  have hrules : ruleStatements (statements ++ [Statement.policy argument]) =
      ruleStatements statements := by
    simp [ruleStatements, policyArgument?]
  constructor
  · rintro ⟨hname, hblocks⟩
    rw [hnames] at hname
    rw [hrules] at hblocks
    obtain ⟨name, draft, rules⟩ := s'
    obtain ⟨hnone, v, rfl, hv⟩ := atMostOnce_concat_iff.mp hname
    refine ⟨⟨none, draft, rules⟩, ⟨?_, hblocks⟩, .policy rfl hv⟩
    rw [hnone]
    exact .nil
  · rintro ⟨s, hs, hstep⟩
    cases hstep with
    | policy unnamed value =>
      have hnone := hs.name
      rw [unnamed, atMostOnce_none_iff] at hnone
      refine ⟨?_, hrules ▸ hs.blocks⟩
      rw [hnames, hnone]
      exact .cons value .nil

private theorem tells_concat_of_not_policy {statements : List Statement} {last : Statement}
    {s' : State} (h : policyArgument? last = none) :
    Tells (statements ++ [last]) s' ↔ ∃ s, Tells statements s ∧ s.Step last s' := by
  have hnames : (statements ++ [last]).filterMap policyArgument? =
      statements.filterMap policyArgument? := by
    simp [h]
  have hrules : ruleStatements (statements ++ [last]) = ruleStatements statements ++ [last] := by
    simp [ruleStatements, h]
  constructor
  · rintro ⟨hname, blocks', opened', hlayout', hdescribed', hopened'⟩
    rw [hnames] at hname
    rw [hrules] at hlayout'
    have hne : Block.layout blocks' opened' ≠ [] := by
      rw [← hlayout']
      simp
    obtain ⟨blocks, opened, last', hlast⟩ := Block.exists_lastOf hne
    rw [hlast.layout_eq] at hlayout'
    obtain ⟨hlayout, hlast'⟩ := List.append_inj' hlayout' rfl
    cases hlast'
    obtain ⟨name, draft, rules⟩ := s'
    -- the state before is the one without what the last statement has brought
    cases hlast with
    | rule =>
      cases hopened' with
      | some hd =>
        obtain ⟨hne, rfl⟩ := Block.drafts_nil_iff.mp hd
        exact ⟨⟨name, none, rules⟩, ⟨hname, _, none, hlayout, hdescribed', .none⟩,
          .rule rfl hne⟩
    | field =>
      cases hopened' with
      | some hd =>
        obtain ⟨d, hd, hadds⟩ := Block.drafts_add_iff.mp hd
        exact ⟨⟨name, some d, rules⟩, ⟨hname, _, _, hlayout, hdescribed', .some hd⟩,
          .field rfl hadds⟩
    | close =>
      cases hopened'
      obtain ⟨rules, r, rfl, hdescribed, hr⟩ := forall₂_concat_iff.mp hdescribed'
      obtain ⟨d, hd, hcompletes⟩ := Block.describes_iff.mp hr
      exact ⟨⟨name, some d, rules⟩, ⟨hname, _, _, hlayout, hdescribed, .some hd⟩,
        .close rfl hcompletes⟩
  · rintro ⟨s, ⟨hname, blocks, opened, hlayout, hdescribed, hopened⟩, hstep⟩
    cases hstep with
    | policy => cases h
    | rule closed value =>
      rw [closed] at hopened
      cases hopened
      refine ⟨hnames ▸ hname, blocks, some ⟨_, []⟩, ?_, hdescribed,
        .some (Block.drafts_nil_iff.mpr ⟨value, rfl⟩)⟩
      rw [hrules, hlayout, Block.LastOf.rule.layout_eq]
    | field isOpen value =>
      rw [isOpen] at hopened
      cases hopened with
      | some hd =>
        refine ⟨hnames ▸ hname, blocks, some (Block.add _ _ _), ?_, hdescribed,
          .some (Block.drafts_add_iff.mpr ⟨_, hd, value⟩)⟩
        rw [hrules, hlayout, Block.LastOf.field.layout_eq]
    | close isOpen value =>
      rw [isOpen] at hopened
      cases hopened with
      | some hd =>
        refine ⟨hnames ▸ hname, blocks ++ [_], none, ?_,
          forall₂_concat_iff.mpr ⟨_, _, rfl, hdescribed, Block.describes_iff.mpr ⟨_, hd, value⟩⟩,
          .none⟩
        rw [hrules, hlayout, Block.LastOf.close.layout_eq]

private theorem tells_concat_iff {statements : List Statement} {last : Statement} {s' : State} :
    Tells (statements ++ [last]) s' ↔ ∃ s, Tells statements s ∧ s.Step last s' := by
  cases last with
  | policy argument => exact tells_policy_iff
  | _ => exact tells_concat_of_not_policy rfl

/-- The state after some statements is the one that holds what they have said. -/
theorem steps_iff_tells {statements : List Statement} {s : State} :
    Steps {} statements s ↔ Tells statements s := by
  -- from the end, because `Tells` is about all statements so far
  induction statements using List.reverseRecOn generalizing s with
  | nil =>
    rw [tells_nil_iff]
    constructor
    · intro h
      cases h
      rfl
    · rintro rfl
      exact .nil
  | append_singleton statements last ih =>
    rw [steps_concat_iff, tells_concat_iff]
    simp only [ih]

end State

/-! ## Texts -/

private theorem Block.isKnown_of_mem {b : Block} {s : Statement} (h : s ∈ b.statements) :
    s.isKnown = true := by
  rcases mem_statements_iff.mp h with rfl | ⟨_, _, rfl⟩ | rfl <;> rfl

/-- Only statements of known forms describe a policy. -/
theorem Describes.isKnown {statements : List Statement} {p : Policy} (h : Describes statements p) :
    ∀ s ∈ statements, s.isKnown = true := by
  intro s hs
  obtain ⟨blocks, _, hlayout, _⟩ := h.blocks
  cases hname : policyArgument? s with
  | some argument =>
    cases s with
    | policy => rfl
    | _ => cases hname
  | none =>
    have hmem : s ∈ ruleStatements statements := List.mem_filter.mpr ⟨hs, by rw [hname]; rfl⟩
    rw [hlayout] at hmem
    obtain ⟨b, _, hb⟩ := List.mem_flatMap.mp hmem
    exact b.isKnown_of_mem hb

/-- The policy of a text is the one that its statements describe. -/
theorem compile_eq_ok_iff_describes {text now : String} {p : Policy} :
    compile text now = .ok p ↔
      p.compiledAt = now ∧ Describes (statementsOf (Text.lines text)) p := by
  rw [compile_eq_ok_iff_steps]
  simp only [State.steps_iff_tells]
  constructor
  · rintro ⟨s, ⟨hname, blocks, opened, hlayout, hdescribed, hopened⟩, hclosed, hrules, rfl⟩
    rw [hclosed] at hopened
    cases hopened
    refine ⟨rfl, ⟨s.name, hname, rfl⟩, blocks, ?_, ?_, hdescribed⟩
    · rintro rfl
      exact hrules (List.forall₂_nil_left_iff.mp hdescribed)
    · rw [hlayout, Block.layout]
      exact List.append_nil _
  · rintro ⟨rfl, ⟨given, hgiven, hname⟩, blocks, hne, hlayout, hdescribed⟩
    refine ⟨⟨given, none, p.rules⟩, ⟨hgiven, blocks, none, ?_, hdescribed, .none⟩, rfl, ?_, ?_⟩
    · rw [hlayout, Block.layout]
      exact (List.append_nil _).symm
    · intro hnil
      rw [show p.rules = [] from hnil, List.forall₂_nil_right_iff] at hdescribed
      exact hne hdescribed
    · rw [← hname]

/-- A text compiles exactly when its lines are statements that describe a policy, and it compiles
to this policy. -/
theorem compile_eq_ok_iff (text now : String) (p : Policy) :
    compile text now = .ok p ↔ p.compiledAt = now ∧ ∃ statements,
      List.Forall₂ Reads (spokenLines text) statements ∧ Describes statements p := by
  rw [compile_eq_ok_iff_describes, statementsOf_eq]
  constructor
  · rintro ⟨hnow, hdescribes⟩
    exact ⟨hnow, _, (forall₂_reads_iff _ _).mpr ⟨rfl, hdescribes.isKnown⟩, hdescribes⟩
  · rintro ⟨hnow, statements, hreads, hdescribes⟩
    rw [((forall₂_reads_iff _ _).mp hreads).1]
    exact ⟨hnow, hdescribes⟩

end ClauseAudit.Language
