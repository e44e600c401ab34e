import ClauseAudit.Proofs.Aligned
import ClauseAudit.Table.Csv

/-!
# Comma-separated values read back

A reader that knows nothing of columns or of the kinds of cells: fields end at separators and
records at line feeds, both outside quotes, and a doubled quote inside quotes stands for one. What
the writer lays out under `Options.Lawful` it takes apart again into the texts of the cells,
whatever characters these hold.
-/

namespace ClauseAudit.Table.Csv

/-- Where a reader is in a field: outside quotes, inside, or behind a quote inside, which closes the
field unless another quote follows it. -/
inductive Position where
  | bare
  | quoted
  | behindQuote
  deriving DecidableEq, Repr

section Reader

variable (separator quote : Char)

/-- The records of the rest of a text. The fields before it in the first record are given, and the
characters of the field that it goes on, from the last one. -/
def recordsFrom (position : Position) (field : List Char) (fields : List String) :
    List Char → List (List String)
  | [] => if fields.isEmpty && field.isEmpty then [] else [fields ++ [String.ofList field.reverse]]
  | c :: cs =>
    if position = .quoted then
      if c = quote then recordsFrom .behindQuote field fields cs
      else recordsFrom .quoted (c :: field) fields cs
    else if c = quote then
      recordsFrom .quoted (if position = .behindQuote then c :: field else field) fields cs
    else if c = separator then recordsFrom .bare [] (fields ++ [String.ofList field.reverse]) cs
    else if c = '\n' then
      (fields ++ [String.ofList field.reverse]) :: recordsFrom .bare [] [] cs
    else recordsFrom .bare (c :: field) fields cs

/-- The records of a text. Fields end at separators and records at line feeds, outside quotes. -/
def records (text : String) : List (List String) :=
  recordsFrom separator quote .bare [] [] text.toList

end Reader

/-- Options under which a text tells its fields: quotes go around a field where they are needed,
and are doubled inside. -/
structure Options.Lawful (o : Options) : Prop where
  quoting : o.quoting ≠ .none
  doubled : o.doubled = true
  escape : o.escape = Option.none
  lineEnd : o.lineEnd = "\n"
  separator_ne : o.separator ≠ o.quote
  separator_ne_newline : o.separator ≠ '\n'
  quote_ne_newline : o.quote ≠ '\n'

private theorem recordsFrom_bare {o : Options} {cs : List Char}
    (hcs : ∀ c ∈ cs, c ≠ o.separator ∧ c ≠ o.quote ∧ c ≠ '\n') (field : List Char)
    (fields : List String) (rest : List Char) :
    recordsFrom o.separator o.quote .bare field fields (cs ++ rest) =
      recordsFrom o.separator o.quote .bare (cs.reverse ++ field) fields rest := by
  induction cs generalizing field with
  | nil => rfl
  | cons c cs ih =>
    obtain ⟨⟨hseparator, hquote, hnewline⟩, hcs⟩ := List.forall_mem_cons.mp hcs
    rw [List.cons_append, recordsFrom]
    simp [hseparator, hquote, hnewline, ih hcs]

section Lawful

variable {o : Options} (ho : o.Lawful)

include ho

private theorem Options.Lawful.isQuote_eq (c : Char) : o.isQuote c = (c == o.quote) := by
  simp [isQuote, ho.quoting]

private theorem Options.Lawful.needsEscape_eq (c : Char) : o.needsEscape c = false := by
  simp [needsEscape, ho.quoting, ho.doubled, ho.escape]

private theorem Options.Lawful.charText_eq (c : Char) :
    o.charText c = if c = o.quote then [c, c] else [c] := by
  simp [charText, ho.needsEscape_eq, ho.isQuote_eq]

private theorem Options.Lawful.needsQuotes_eq_false_iff (c : Char) :
    o.needsQuotes c = false ↔ c ≠ o.separator ∧ c ≠ o.quote ∧ c ≠ '\n' := by
  simp [needsQuotes, isSpecial, ho.needsEscape_eq, ho.isQuote_eq, ho.escape, ho.lineEnd, and_assoc]

/-- A field that could be misread stands between quotes. -/
theorem Options.Lawful.field_eq (alone : Bool) (v : Json.Value) :
    (∀ c ∈ (o.cellText v).toList, c ≠ o.separator ∧ c ≠ o.quote ∧ c ≠ '\n') ∧
        o.field alone v = (o.cellText v).toList ∨
      o.field alone v = o.quote :: (o.cellText v).toList.flatMap o.charText ++ [o.quote] := by
  by_cases hplain : (o.cellText v).toList.any o.needsQuotes = true
  · right
    cases hquoting : o.quoting with
    | none => exact absurd hquoting ho.quoting
    | _ => simp [field, hquoting, hplain]
  · have hchars : ∀ c ∈ (o.cellText v).toList, c ≠ o.separator ∧ c ≠ o.quote ∧ c ≠ '\n' := by
      intro c hc
      rw [← ho.needsQuotes_eq_false_iff, Bool.eq_false_iff]
      exact fun hneeds => hplain (List.any_eq_true.mpr ⟨c, hc, hneeds⟩)
    have hbody : (o.cellText v).toList.flatMap o.charText = (o.cellText v).toList := by
      apply flatMap_eq_self
      intro c hc
      rw [ho.charText_eq, if_neg (hchars c hc).2.1]
    have hcases : o.field alone v =
          o.quote :: (o.cellText v).toList.flatMap o.charText ++ [o.quote] ∨
        o.field alone v = (o.cellText v).toList.flatMap o.charText :=
      ite_eq_or_eq _ _ _
    rcases hcases with hquoted | hbare
    · exact .inr hquoted
    · exact .inl ⟨hchars, hbare.trans hbody⟩

private theorem recordsFrom_quoted (cs field : List Char) (fields : List String)
    (rest : List Char) : recordsFrom o.separator o.quote .quoted field fields
        (cs.flatMap o.charText ++ o.quote :: rest) =
      recordsFrom o.separator o.quote .behindQuote (cs.reverse ++ field) fields rest := by
  induction cs generalizing field with
  | nil => simp [recordsFrom]
  | cons c cs ih =>
    by_cases hc : c = o.quote
    · simp [ho.charText_eq, hc, recordsFrom, ih]
    · simp [ho.charText_eq, hc, recordsFrom, ih]

private theorem recordsFrom_field (alone : Bool) (v : Json.Value) (fields : List String)
    (rest : List Char) : ∃ position, position ≠ .quoted ∧
      recordsFrom o.separator o.quote .bare [] fields (o.field alone v ++ rest) =
        recordsFrom o.separator o.quote position (o.cellText v).toList.reverse fields rest := by
  rcases ho.field_eq alone v with ⟨hchars, hfield⟩ | hfield
  · refine ⟨.bare, by decide, ?_⟩
    rw [hfield, recordsFrom_bare hchars, List.append_nil]
  · refine ⟨.behindQuote, by decide, ?_⟩
    have hquoted := recordsFrom_quoted ho (o.cellText v).toList [] fields rest
    rw [List.append_nil] at hquoted
    rw [hfield, ← hquoted]
    simp [recordsFrom]

private theorem recordsFrom_separator {position : Position} (h : position ≠ .quoted)
    (field : List Char) (fields : List String) (rest : List Char) :
    recordsFrom o.separator o.quote position field fields (o.separator :: rest) =
      recordsFrom o.separator o.quote .bare [] (fields ++ [String.ofList field.reverse]) rest := by
  simp [recordsFrom, h, ho.separator_ne]

private theorem recordsFrom_newline {position : Position} (h : position ≠ .quoted)
    (field : List Char) (fields : List String) (rest : List Char) :
    recordsFrom o.separator o.quote position field fields ('\n' :: rest) =
      (fields ++ [String.ofList field.reverse]) ::
        recordsFrom o.separator o.quote .bare [] [] rest := by
  simp [recordsFrom, h, ho.quote_ne_newline.symm, ho.separator_ne_newline.symm]

private theorem recordsFrom_cells {cells : List Json.Value} (hne : cells ≠ []) (alone : Bool)
    (fields : List String) (rest : List Char) :
    recordsFrom o.separator o.quote .bare [] fields
        (List.intercalate [o.separator] (cells.map (o.field alone)) ++ '\n' :: rest) =
      (fields ++ cells.map o.cellText) :: recordsFrom o.separator o.quote .bare [] [] rest := by
  induction cells generalizing fields with
  | nil => exact absurd rfl hne
  | cons v cells ih =>
    by_cases hcells : cells = []
    · obtain ⟨position, hposition, hfield⟩ := recordsFrom_field ho alone v fields ('\n' :: rest)
      simp [hcells, hfield, recordsFrom_newline ho hposition]
    · obtain ⟨w, ws, rfl⟩ := List.exists_cons_of_ne_nil hcells
      rw [List.map_cons, List.map_cons, List.intercalate_cons_cons, ← List.map_cons,
        List.append_assoc, List.append_assoc, List.singleton_append]
      obtain ⟨position, hposition, hfield⟩ := recordsFrom_field ho alone v fields
        (o.separator :: (List.intercalate [o.separator] ((w :: ws).map (o.field alone)) ++
          '\n' :: rest))
      rw [hfield, recordsFrom_separator ho hposition, ih (List.cons_ne_nil w ws)]
      simp

/-- The text of a table is read as the texts of its cells, row by row. -/
theorem records_text {t : Table} (h : ∀ cells ∈ o.lines t, cells ≠ []) :
    records o.separator o.quote (o.text t) = (o.lines t).map (·.map o.cellText) := by
  have hrows {rows : List (List Json.Value)} (hrows : ∀ cells ∈ rows, cells ≠ []) :
      recordsFrom o.separator o.quote .bare [] [] (rows.flatMap o.row) =
        rows.map (·.map o.cellText) := by
    induction rows with
    | nil => rfl
    | cons cells rows ih =>
      obtain ⟨hcells, hrest⟩ := List.forall_mem_cons.mp hrows
      rw [List.flatMap_cons, Options.row, ho.lineEnd, List.append_assoc]
      exact (recordsFrom_cells ho hcells _ [] _).trans (congrArg _ (ih hrest))
  rw [records, Options.text, String.toList_ofList, hrows h]

end Lawful

end ClauseAudit.Table.Csv
