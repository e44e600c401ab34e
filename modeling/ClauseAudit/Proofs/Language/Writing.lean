import ClauseAudit.Proofs.Language.Acceptance
import ClauseAudit.Proofs.Text.Lines

/-!
# Blocks written on lines

A block whose arguments each stand on a line as they are is read back from its lines, and a text
of one block describes a policy with the one rule of this block.
-/

namespace ClauseAudit.Language

/-- An argument that stands on a line as it is. -/
structure Plain (argument : String) : Prop where
  ne : argument ≠ ""
  trimmed : Text.Trimmed argument.toList
  noFeed : '\n' ∉ argument.toList

def written (keyword argument : String) : String := keyword ++ " " ++ argument

private theorem words_begin : ∀ w ∈ words, w.toList ≠ [] ∧ '\n' ∉ w.toList ∧
    w.toList.head?.all (fun c => !Text.isBlank c && c != '#') = true := by
  decide

theorem head_of_mem_words {w : String} (hw : w ∈ words) {c : Char}
    (hc : w.toList.head? = some c) : Text.isBlank c = false ∧ c ≠ '#' := by
  have hbegin := (words_begin w hw).2.2
  rw [hc] at hbegin
  simpa using hbegin

private theorem isBlank_return : Text.isBlank '\r' = true := by decide

namespace Plain

variable {word argument : String}

theorem toList_ne_nil (h : Plain argument) : argument.toList ≠ [] := by
  rw [ne_eq, String.toList_eq_nil_iff]
  exact h.ne

private theorem says_written (h : Plain argument) (word : String) :
    Says word (written word argument) argument := by
  have hmore : Says word (written word argument) (Text.strip argument) := .more argument
  rwa [(Text.strip_eq_self_iff argument).mpr h.trimmed] at hmore

private theorem last_written (h : Plain argument) :
    ∀ c, (written word argument).toList.getLast? = some c → Text.isBlank c = false := by
  intro c hc
  rw [written, String.toList_append, List.getLast?_append_of_ne_nil _ h.toList_ne_nil] at hc
  exact h.trimmed.last c hc

theorem head?_written (hw : word ∈ words) :
    (written word argument).toList.head? = word.toList.head? := by
  rw [written, String.append_assoc, String.toList_append,
    List.head?_append_of_ne_nil _ (words_begin word hw).1]

private theorem trimmed_written (h : Plain argument) (hw : word ∈ words) :
    Text.Trimmed (written word argument).toList where
  head := by
    intro c hc
    rw [head?_written hw] at hc
    exact (head_of_mem_words hw hc).1
  last := h.last_written

private theorem unbroken_written (h : Plain argument) (hw : word ∈ words) :
    Text.Unbroken (written word argument).toList where
  noFeed := by
    simp [written, (words_begin word hw).2.1, h.noFeed]
  noReturn := by
    intro hlast
    have hblank := h.last_written '\r' hlast
    rw [isBlank_return] at hblank
    cases hblank

private theorem isSilent_written (hw : word ∈ words) : isSilent (written word argument) =
    false := by
  have hne : written word argument ≠ "" := by
    rw [written, ne_eq, ← String.toList_inj]
    simp
  have hhash : (written word argument).toList.head? ≠ some '#' := by
    intro hhead
    rw [head?_written hw] at hhead
    exact (head_of_mem_words hw hhead).2 rfl
  rw [isSilent]
  simp [hne, hhash]

private theorem ofRaw?_written (h : Plain argument) (hw : word ∈ words) {s : Statement}
    (hreads : Reads (written word argument) s) :
    Statement.ofRaw? (written word argument) = some s := by
  have hstrip := (Text.strip_eq_self_iff _).mpr (h.trimmed_written hw)
  rw [ofRaw?_eq, hstrip, isSilent_written hw, hreads.ofLine_eq]
  rfl

end Plain

namespace Block

def lines (b : Block) : List String :=
  written "RULE" b.id :: b.body.map (fun f => written f.1.text f.2) ++ ["END"]

/-- All arguments of the block stand on their lines as they are. -/
structure Plain (b : Block) : Prop where
  id : Language.Plain b.id
  body : ∀ f ∈ b.body, Language.Plain f.2

private theorem statementsOf_lines {b : Block} (h : b.Plain) : statementsOf b.lines =
    b.statements := by
  have hrule := h.id.ofRaw?_written (by decide) (.rule (h.id.says_written "RULE"))
  have hbody : ∀ f ∈ b.body,
      Statement.ofRaw? (written f.1.text f.2) = some (.field f.1 f.2) := by
    intro f hf
    exact (h.body f hf).ofRaw?_written (mem_words_of_keyword f.1)
      (.field f.1 ((h.body f hf).says_written _))
  have hclose : Statement.ofRaw? "END" = some .close := rfl
  have hfields : (b.body.map fun f => written f.1.text f.2).filterMap Statement.ofRaw? =
      bodyStatements b.body := by
    rw [List.filterMap_map, bodyStatements, ← List.filterMap_eq_map]
    exact List.filterMap_congr hbody
  rw [statementsOf, lines, List.cons_append, List.filterMap_cons_some hrule,
    List.filterMap_append, hfields, List.filterMap_cons_some hclose]
  rfl

private theorem lines_joinLines {b : Block} (h : b.Plain) :
    Text.lines (Text.joinLines b.lines) = b.lines := by
  apply Text.lines_joinLines
  · simp [lines]
  · intro l hl
    simp only [lines, List.cons_append, List.mem_cons, List.mem_append, List.mem_map,
      List.not_mem_nil, or_false] at hl
    rcases hl with rfl | ⟨f, hf, rfl⟩ | rfl
    · exact h.id.unbroken_written (by decide)
    · exact (h.body f hf).unbroken_written (mem_words_of_keyword f.1)
    · exact ⟨by decide, by decide⟩

/-! ## One way to read a layout -/

theorem bodyStatements_inj {body body' : List (Keyword × String)} {rest rest' : List Statement}
    (h : bodyStatements body ++ .close :: rest = bodyStatements body' ++ .close :: rest') :
    body = body' ∧ rest = rest' := by
  induction body generalizing body' with
  | nil =>
    cases body' with
    | nil => exact ⟨rfl, (List.cons.inj h).2⟩
    | cons f' body' => cases (List.cons.inj h).1
  | cons f body ih =>
    cases body' with
    | nil => cases (List.cons.inj h).1
    | cons f' body' =>
      obtain ⟨hf, htail⟩ := List.cons.inj h
      obtain ⟨hkeyword, hargument⟩ := Statement.field.inj hf
      obtain ⟨hbody, hrest⟩ := ih htail
      exact ⟨by rw [Prod.ext hkeyword hargument, hbody], hrest⟩

theorem statements_append_inj {b b' : Block} {rest rest' : List Statement}
    (h : b.statements ++ rest = b'.statements ++ rest') : b = b' ∧ rest = rest' := by
  obtain ⟨id, body⟩ := b
  obtain ⟨id', body'⟩ := b'
  simp only [statements, List.cons_append, List.append_assoc, List.nil_append] at h
  obtain ⟨hid, htail⟩ := List.cons.inj h
  obtain ⟨hbody, hrest⟩ := bodyStatements_inj htail
  cases Statement.rule.inj hid
  cases hbody
  exact ⟨rfl, hrest⟩

theorem flatMap_statements_inj {blocks blocks' : List Block}
    (h : blocks.flatMap statements = blocks'.flatMap statements) : blocks = blocks' := by
  induction blocks generalizing blocks' with
  | nil =>
    cases blocks' with
    | nil => rfl
    | cons b' blocks' => cases h
  | cons b blocks ih =>
    cases blocks' with
    | nil => cases h
    | cons b' blocks' =>
      rw [List.flatMap_cons, List.flatMap_cons] at h
      obtain ⟨rfl, hrest⟩ := statements_append_inj h
      rw [ih hrest]

/-! ## Texts of one block -/

private theorem policyArgument?_of_mem {b : Block} {s : Statement} (h : s ∈ b.statements) :
    policyArgument? s = none := by
  rcases mem_statements_iff.mp h with rfl | ⟨_, _, rfl⟩ | rfl <;> rfl

private theorem describes_statements_iff {b : Block} {p : Policy} :
    Language.Describes b.statements p ↔
      p.name = Policy.defaultName ∧ ∃ r, p.rules = [r] ∧ b.Describes r := by
  have hnames : b.statements.filterMap policyArgument? = [] :=
    List.filterMap_eq_nil_iff.mpr fun s hs => policyArgument?_of_mem hs
  have hrules : ruleStatements b.statements = b.statements := by
    rw [ruleStatements, List.filter_eq_self]
    intro s hs
    rw [policyArgument?_of_mem hs]
    rfl
  constructor
  · rintro ⟨⟨given, hgiven, hname⟩, blocks, _, hlayout, hblocks⟩
    rw [hnames, atMostOnce_nil_iff] at hgiven
    -- the statements of a block can be divided into blocks in one way only
    have hone : [b].flatMap statements = blocks.flatMap statements := by
      rw [List.flatMap_singleton, ← hlayout, hrules]
    rw [← flatMap_statements_inj hone, List.forall₂_cons_left_iff] at hblocks
    obtain ⟨r, rest, hr, hrest, hp⟩ := hblocks
    rw [List.forall₂_nil_left_iff] at hrest
    rw [hrest] at hp
    rw [hgiven] at hname
    exact ⟨hname, r, hp, hr⟩
  · rintro ⟨hname, r, hp, hr⟩
    refine ⟨⟨none, ?_, hname⟩, [b], by simp, ?_, ?_⟩
    · rw [hnames]
      exact .nil
    · rw [hrules, List.flatMap_singleton]
    · rw [hp]
      exact .cons hr .nil

/-- The text of a plain block is a policy of the one rule that the block describes. -/
theorem compile_lines_iff {b : Block} (h : b.Plain) {now : String} {p : Policy} :
    compile (Text.joinLines b.lines) now = .ok p ↔ p.compiledAt = now ∧
      p.name = Policy.defaultName ∧ ∃ r, p.rules = [r] ∧ b.Describes r := by
  rw [compile_eq_ok_iff_describes, lines_joinLines h, statementsOf_lines h,
    describes_statements_iff]

end Block

end ClauseAudit.Language
