import ClauseAudit.Json.Sorted
import ClauseAudit.Proofs.Json.RoundTrip
import Mathlib.Data.List.Perm.Lattice

/-!
# What canonical text tells

The canonical text of a value tells the value up to the order of object fields. Sorting the fields
of every object leaves one value of all those that differ in their order only, because the names of
an object's fields are distinct; and no two values have the same compact text, because the text can
be read back.
-/

namespace ClauseAudit.Json

/-- Equal up to the order of fields, in objects at every level. -/
inductive Value.Alike : Value → Value → Prop where
  | null : Alike .null .null
  | bool (b : Bool) : Alike (.bool b) (.bool b)
  | int (i : Int) : Alike (.int i) (.int i)
  | str (s : String) : Alike (.str s) (.str s)
  | arr {items items' : List Value} (hlength : items.length = items'.length)
      (h : ∀ pair ∈ items.zip items', Alike pair.1 pair.2) : Alike (.arr items) (.arr items')
  | obj {fields fields' : Fields} (hnames : (fields.map (·.1)).Perm (fields'.map (·.1)))
      (h : ∀ f ∈ fields, ∀ f' ∈ fields', f.1 = f'.1 → Alike f.2 f'.2) :
      Alike (.obj fields) (.obj fields')

private theorem nameLe_iff {a b : String} : nameLe a b = true ↔ a ≤ b := by
  rw [nameLe, Bool.not_eq_true', decide_eq_false_iff_not]
  rfl

def fieldLe (f g : String × Value) : Bool := nameLe f.1 g.1

theorem fieldLe_trans (f g h : String × Value) (hfg : fieldLe f g = true)
    (hgh : fieldLe g h = true) : fieldLe f h = true := by
  rw [fieldLe, nameLe_iff] at *
  exact String.le_trans hfg hgh

private theorem fieldLe_total (f g : String × Value) : (fieldLe f g || fieldLe g f) = true := by
  rw [Bool.or_eq_true, fieldLe, fieldLe, nameLe_iff, nameLe_iff]
  exact String.le_total _ _

private theorem name_eq_of_fieldLe {f g : String × Value} (hfg : fieldLe f g = true)
    (hgf : fieldLe g f = true) : f.1 = g.1 := by
  rw [fieldLe, nameLe_iff] at hfg hgf
  exact String.le_antisymm hfg hgf

private theorem sortedItems_eq_map (items : List Value) : sortedItems items =
    items.map Value.sorted := by
  induction items with
  | nil => rfl
  | cons v items ih => rw [sortedItems, ih, List.map_cons]

private theorem sortedFields_eq_map (fields : Fields) :
    sortedFields fields = fields.map fun f => (f.1, f.2.sorted) := by
  induction fields with
  | nil => rfl
  | cons f fields ih => rw [sortedFields, ih, List.map_cons]

namespace Value

private theorem sorted_arr (items : List Value) : (arr items).sorted = .arr (items.map sorted) := by
  rw [sorted, sortedItems_eq_map]

private theorem sorted_obj (fields : Fields) : (obj fields).sorted =
    .obj ((fields.map fun f => (f.1, f.2.sorted)).mergeSort fieldLe) := by
  rw [sorted, sortedFields_eq_map]
  rfl

private theorem Plain.sorted {v : Value} (h : v.Plain) : v.sorted.Plain := by
  induction h with
  | null => exact .null
  | bool b => exact .bool b
  | int i => exact .int i
  | str s => exact .str s
  | arr _ ih =>
    rw [sorted_arr]
    exact .arr (List.forall_mem_map.mpr ih)
  | @obj fields hnames _ ih =>
    have hperm := List.mergeSort_perm (fields.map fun f => (f.1, f.2.sorted)) fieldLe
    rw [sorted_obj]
    constructor
    · rw [(hperm.map _).nodup_iff, List.map_map]
      exact hnames
    · intro f hf
      obtain ⟨g, hg, rfl⟩ := List.mem_map.mp (hperm.mem_iff.mp hf)
      exact ih g hg

end Value

theorem mergeSort_eq_of_perm {fields fields' : Fields} (hnames : (fields.map (·.1)).Nodup)
    (h : fields.Perm fields') : fields.mergeSort fieldLe = fields'.mergeSort fieldLe := by
  have hperm : (fields.mergeSort fieldLe).Perm fields := List.mergeSort_perm fields fieldLe
  have hperm' : (fields'.mergeSort fieldLe).Perm fields :=
    (List.mergeSort_perm fields' fieldLe).trans h.symm
  refine List.Perm.eq_of_pairwise ?_ (List.pairwise_mergeSort fieldLe_trans fieldLe_total fields)
    (List.pairwise_mergeSort fieldLe_trans fieldLe_total fields') (hperm.trans hperm'.symm)
  intro f g hf hg hfg hgf
  exact List.inj_on_of_nodup_map hnames (hperm.mem_iff.mp hf) (hperm'.mem_iff.mp hg)
    (name_eq_of_fieldLe hfg hgf)

/-- Fields that are the same by name are the same up to their order. -/
theorem perm_of_fields {fields fields' : Fields} (hnodup : (fields.map (·.1)).Nodup)
    (hnames : (fields.map (·.1)).Perm (fields'.map (·.1)))
    (h : ∀ f ∈ fields, ∀ f' ∈ fields', f.1 = f'.1 → f.2 = f'.2) : fields.Perm fields' := by
  have hnodup' := hnames.nodup_iff.mp hnodup
  rw [List.perm_ext_iff_of_nodup (.of_map _ hnodup) (.of_map _ hnodup')]
  intro f
  constructor
  · intro hf
    obtain ⟨f', hf', hname⟩ := List.mem_map.mp (hnames.mem_iff.mp (List.mem_map_of_mem hf))
    rwa [Prod.ext hname.symm (h f hf f' hf' hname.symm)]
  · intro hf
    obtain ⟨f', hf', hname⟩ := List.mem_map.mp (hnames.mem_iff.mpr (List.mem_map_of_mem hf))
    rwa [← Prod.ext hname (h f' hf' f hf hname)]

namespace Value

private theorem Alike.sorted_eq {v w : Value} (h : v.Alike w) (hv : v.Plain) : v.sorted =
    w.sorted := by
  induction h with
  | null => rfl
  | bool b => rfl
  | int i => rfl
  | str s => rfl
  | @arr items items' hlength _ ih =>
    cases hv with
    | arr hitems =>
      rw [sorted_arr, sorted_arr]
      congr 1
      apply List.ext_getElem (by simpa using hlength)
      intro i hi hi'
      rw [List.length_map] at hi hi'
      have hpair : (items[i], items'[i]) ∈ items.zip items' := by
        rw [← List.getElem_zip (h := by rw [List.length_zip]; omega)]
        exact List.getElem_mem _
      rw [List.getElem_map, List.getElem_map]
      exact ih _ hpair (hitems _ (List.getElem_mem hi))
  | @obj fields fields' hnames _ ih =>
    cases hv with
    | obj hnodup hfields =>
      -- With their values sorted the fields are the same, so only their order could differ.
      rw [sorted_obj, sorted_obj]
      congr 1
      apply mergeSort_eq_of_perm
      · simpa [List.map_map, Function.comp_def] using hnodup
      · apply perm_of_fields
        · simpa [List.map_map, Function.comp_def] using hnodup
        · simpa [List.map_map, Function.comp_def] using hnames
        · rw [List.forall_mem_map]
          intro f hf
          rw [List.forall_mem_map]
          exact fun f' hf' hname => ih f hf f' hf' hname (hfields f hf)

private theorem eq_of_sorted_eq {v w : Value} (harr : ∀ items, v ≠ .arr items)
    (hobj : ∀ fields, v ≠ .obj fields) (h : v.sorted = w.sorted) : v = w := by
  have hv : v.sorted = v := by
    cases v with
    | arr items => exact absurd rfl (harr items)
    | obj fields => exact absurd rfl (hobj fields)
    | _ => rfl
  rw [hv] at h
  cases w with
  | arr items => exact absurd (h.trans (sorted_arr items)) (harr _)
  | obj fields => exact absurd (h.trans (sorted_obj fields)) (hobj _)
  | _ => exact h

private theorem exists_arr_of_sorted_eq {w : Value} {sortedItems : List Value}
    (h : w.sorted = .arr sortedItems) :
    ∃ items, w = .arr items ∧ items.map sorted = sortedItems := by
  cases w with
  | arr items => exact ⟨items, rfl, arr.inj ((sorted_arr items).symm.trans h)⟩
  | obj fields => cases (sorted_obj fields).symm.trans h
  | _ => cases h

private theorem exists_obj_of_sorted_eq {w : Value} {sortedFields : Fields}
    (h : w.sorted = .obj sortedFields) : ∃ fields, w = .obj fields ∧
      (fields.map fun f => (f.1, f.2.sorted)).Perm sortedFields := by
  cases w with
  | arr items => cases (sorted_arr items).symm.trans h
  | obj fields =>
    rw [← obj.inj ((sorted_obj fields).symm.trans h)]
    exact ⟨fields, rfl, (List.mergeSort_perm _ fieldLe).symm⟩
  | _ => cases h

private theorem Plain.alike_of_sorted_eq {v w : Value} (hv : v.Plain) (hw : w.Plain)
    (h : v.sorted = w.sorted) : v.Alike w := by
  induction hv generalizing w with
  | null =>
    obtain rfl := eq_of_sorted_eq (by simp) (by simp) h
    exact .null
  | bool b =>
    obtain rfl := eq_of_sorted_eq (by simp) (by simp) h
    exact .bool b
  | int i =>
    obtain rfl := eq_of_sorted_eq (by simp) (by simp) h
    exact .int i
  | str s =>
    obtain rfl := eq_of_sorted_eq (by simp) (by simp) h
    exact .str s
  | @arr items _ ih =>
    obtain ⟨items', rfl, hitems⟩ := exists_arr_of_sorted_eq (h.symm.trans (sorted_arr items))
    cases hw with
    | arr hplain =>
      refine .arr (by simpa using (congrArg List.length hitems).symm) ?_
      rintro ⟨v, w⟩ hpair
      obtain ⟨i, hi, hvw⟩ := List.getElem_of_mem hpair
      rw [List.length_zip] at hi
      rw [List.getElem_zip] at hvw
      obtain ⟨rfl, rfl⟩ := Prod.mk.inj hvw
      have hsorted := List.getElem_of_eq hitems (i := i) (by simp; omega)
      rw [List.getElem_map, List.getElem_map] at hsorted
      exact ih _ (List.getElem_mem _) (hplain _ (List.getElem_mem _)) hsorted.symm
  | @obj fields hnodup _ ih =>
    obtain ⟨fields', rfl, hperm⟩ := exists_obj_of_sorted_eq (h.symm.trans (sorted_obj fields))
    have hfields := (hperm.trans (List.mergeSort_perm _ fieldLe)).symm
    cases hw with
    | obj hnodup' hplain =>
      constructor
      · simpa [List.map_map, Function.comp_def] using hfields.map (·.1)
      · intro f hf f' hf' hname
        -- Both fields are among the sorted ones of the second object, whose names are distinct.
        have hmem := hfields.mem_iff.mp (List.mem_map_of_mem hf)
        have hmem' := List.mem_map_of_mem (f := fun f : String × Value => (f.1, f.2.sorted)) hf'
        have heq := List.inj_on_of_nodup_map (f := fun f : String × Value => f.1)
          (by simpa [List.map_map, Function.comp_def] using hnodup') hmem hmem' hname
        exact ih f hf (hplain f' hf') (Prod.mk.inj heq).2

theorem Plain.sorted_eq_iff {v w : Value} (hv : v.Plain) (hw : w.Plain) :
    v.sorted = w.sorted ↔ v.Alike w :=
  ⟨hv.alike_of_sorted_eq hw, fun h => h.sorted_eq hv⟩

end Value

theorem text_injective {style : Style} (hstyle : style.Lawful) {v w : Value} (hv : v.Plain)
    (hw : w.Plain) (h : v.text style = w.text style) : v = w := by
  have hread := read_text hstyle hv
  rw [h, read_text hstyle hw] at hread
  exact (Except.ok.inj hread).symm

/-- Values have one canonical text exactly when they differ in the order of fields only. -/
theorem Value.Plain.canonicalText_eq_iff {v w : Value} (hv : v.Plain) (hw : w.Plain) :
    v.canonicalText = w.canonicalText ↔ v.Alike w := by
  rw [← hv.sorted_eq_iff hw]
  constructor
  · exact text_injective Style.lawful_compact hv.sorted hw.sorted
  · exact fun h => congrArg (Value.text · .compact) h

end ClauseAudit.Json
