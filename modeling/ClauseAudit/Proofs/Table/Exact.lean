import ClauseAudit.Proofs.Json.RoundTrip
import ClauseAudit.Proofs.Outcome
import ClauseAudit.Table.Write

/-!
# Tables written as they are

The columns of a table decide how its cells are written. Where no cell is missing and none is a
number with a fraction they decide nothing, and the table is its own final form.
-/

namespace ClauseAudit.Table

/-- Every row has a cell for every column, and no cell is missing or a number with a fraction. -/
structure Exact (t : Table) : Prop where
  width : ∀ r ∈ t.rows, r.length = t.columns.length
  cells : ∀ r ∈ t.rows, ∀ v ∈ r, v.Plain ∧ v ≠ .null

private theorem settleColumn_eq_self {cells : List Json.Value}
    (h : ∀ v ∈ cells, v.Plain ∧ v ≠ .null) : settleColumn cells = cells := by
  have hnull : cells.any (·.isNull) = false := by
    rw [List.any_eq_false]
    intro v hv hnull
    obtain ⟨_, hne⟩ := h v hv
    cases v <;> simp_all [Json.Value.isNull]
  rw [settleColumn]
  split
  · next hchanged =>
    simp only [hasGappedIntegers, hnull, Bool.false_and, Bool.false_or, Bool.and_eq_true,
      List.any_eq_true] at hchanged
    obtain ⟨⟨v, hv, hreal⟩, _⟩ := hchanged
    obtain ⟨hplain, _⟩ := h v hv
    cases hplain <;> cases hreal
  · rfl

section Exact

variable {t : Table} (h : t.Exact)

include h

private theorem Exact.settledColumns_eq :
    t.settledColumns = (List.range t.columns.length).map t.column := by
  apply List.map_congr_left
  intro i hi
  apply settleColumn_eq_self
  intro v hv
  obtain ⟨r, hr, rfl⟩ := List.mem_map.mp hv
  have hlt : i < r.length := by rw [h.width r hr]; exact List.mem_range.mp hi
  rw [List.getElem?_eq_getElem hlt]
  exact h.cells r hr _ (List.getElem_mem hlt)

theorem Exact.settled_eq : t.settled = t := by
  have hrows : (t.withColumns t.settledColumns).rows = t.rows := by
    rw [h.settledColumns_eq]
    apply List.ext_getElem
    · simp [withColumns]
    · intro k hk hk'
      apply List.ext_getElem
      · simp [withColumns, h.width _ (List.getElem_mem hk')]
      · intro i hi hi'
        simp [withColumns, column, hk', hi']
  cases t
  exact congrArg _ hrows

theorem Exact.lines_eq (o : Csv.Options) : o.lines t = o.header.toList ++ t.rows := by
  rw [Csv.Options.lines, h.settled_eq]

/-- Without options a table is written with its columns in the first line. -/
theorem Exact.requestedText_eq :
    Csv.requestedText [] t = .ok (Csv.Options.text { header := some (t.columns.map .str) } t) := by
  have hfault (header : Option (List Json.Value)) (cells : List Json.Value) :
      Csv.Options.lineFault? { header } cells = none := by
    simp [Csv.Options.lineFault?, Csv.Options.needsEscape, Csv.Options.isQuote]
  have hcolumns : t.settledColumns.mapM (Csv.Request.cells? {}) = some t.settledColumns := by
    have hcells (cells : List Json.Value) : Csv.Request.cells? {} cells = some cells := rfl
    rw [show Csv.Request.cells? {} = fun cells => pure (id cells) from funext hcells,
      List.mapM_pure, List.map_id]
    rfl
  have hsame : t.withColumns t.settledColumns = t := h.settled_eq
  have hfaults : Csv.Options.fault? { header := some (t.columns.map .str) } t = none := by
    rw [Csv.Options.fault?, List.findSome?_eq_none_iff]
    exact fun cells _ => hfault _ cells
  have hrequest : Csv.Request.ofFields [] = .ok {} := rfl
  have hoptions : Csv.readOptions [] = .ok {} := rfl
  have hheader : Csv.Request.header? {} t = .ok (some (t.columns.map .str)) := by
    simp [Csv.Request.header?]
  simp [Csv.requestedText, hrequest, hoptions, hheader, Csv.Request.selected, hcolumns, hsame,
    hfaults, hfault, bind, Except.bind, pure, Except.pure]

end Exact

theorem write_eq_ok_iff {t : Table} {tree tree' : Files.Tree} {path : Files.Path}
    {given : Option String} {options : Json.Fields} {jsonLines : Bool} :
    t.write tree path given options jsonLines = .ok tree' ↔ ∃ above format text,
      tree.makeAll path.parent = .ok above ∧ Format.ofName? (formatName given path) = some format ∧
      t.textIn format options jsonLines = .ok text ∧
      above.write path text.toUTF8.toList = .ok tree' := by
  simp only [write, bind_eq_ok_iff, mapError_eq_ok_iff]
  constructor
  · rintro ⟨above, habove, h⟩
    split at h
    · next format hformat =>
      obtain ⟨text, htext, hwrite⟩ := bind_eq_ok_iff.mp h
      exact ⟨above, format, text, habove, hformat, htext, mapError_eq_ok_iff.mp hwrite⟩
    · cases h
  · rintro ⟨above, format, text, habove, hformat, htext, hwrite⟩
    refine ⟨above, habove, ?_⟩
    rw [hformat]
    exact bind_eq_ok_iff.mpr ⟨text, htext, mapError_eq_ok_iff.mpr hwrite⟩

end ClauseAudit.Table
