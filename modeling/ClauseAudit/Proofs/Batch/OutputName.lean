import ClauseAudit.Batch.OutputName
import Mathlib.Data.List.Infix

/-!
# Names of compiled files

Two files are compiled into one when they have one name, or when their names differ in the ending
of policy texts only. No compiled file has the name of a policy text.
-/

namespace ClauseAudit.Batch

def IsPolicyName (name : String) : Prop := policySuffix.toList <:+ name.toList

instance (name : String) : Decidable (IsPolicyName name) :=
  inferInstanceAs (Decidable (_ <:+ _))

theorem isPolicyName_append (stem : String) : IsPolicyName (stem ++ policySuffix) := by
  rw [IsPolicyName, String.toList_append]
  exact List.suffix_append _ _

theorem isPolicyName_iff {name : String} :
    IsPolicyName name ↔ ∃ stem, name = stem ++ policySuffix := by
  constructor
  · rintro ⟨stem, hstem⟩
    refine ⟨String.ofList stem, String.toList_injective ?_⟩
    rw [String.toList_append, String.toList_ofList, hstem]
  · rintro ⟨stem, rfl⟩
    exact isPolicyName_append stem

theorem outputName_append (stem : String) :
    outputName (stem ++ policySuffix) = stem ++ compiledSuffix := by
  have hsuffix : policySuffix.toList.isSuffixOf (stem.toList ++ policySuffix.toList) = true :=
    List.isSuffixOf_iff_suffix.mpr (List.suffix_append _ _)
  rw [outputName, dropSuffix, String.toList_append, if_pos hsuffix, List.length_append,
    Nat.add_sub_cancel, List.take_left, String.ofList_toList]

private theorem outputName_of_not_isPolicyName {name : String} (h : ¬IsPolicyName name) :
    outputName name = name ++ compiledSuffix := by
  rw [outputName, dropSuffix, if_neg (by rwa [List.isSuffixOf_iff_suffix]), String.ofList_toList]

/-- Files that are compiled into one file. -/
inductive Meet : String → String → Prop where
  | same (name : String) : Meet name name
  | ending {name : String} (h : ¬IsPolicyName name) : Meet (name ++ policySuffix) name
  | noEnding {name : String} (h : ¬IsPolicyName name) : Meet name (name ++ policySuffix)

theorem append_compiledSuffix_inj {a b : String} :
    a ++ compiledSuffix = b ++ compiledSuffix ↔ a = b := by
  constructor
  · intro h
    have hlist := congrArg String.toList h
    rw [String.toList_append, String.toList_append, List.append_cancel_right_eq] at hlist
    exact String.toList_injective hlist
  · rintro rfl
    rfl

theorem outputName_eq_iff {a b : String} : outputName a = outputName b ↔ Meet a b := by
  constructor
  · intro h
    by_cases ha : IsPolicyName a
    · obtain ⟨stem, rfl⟩ := isPolicyName_iff.mp ha
      rw [outputName_append] at h
      by_cases hb : IsPolicyName b
      · obtain ⟨stem', rfl⟩ := isPolicyName_iff.mp hb
        rw [outputName_append, append_compiledSuffix_inj] at h
        rw [h]
        exact .same _
      · rw [outputName_of_not_isPolicyName hb, append_compiledSuffix_inj] at h
        rw [h]
        exact .ending hb
    · rw [outputName_of_not_isPolicyName ha] at h
      by_cases hb : IsPolicyName b
      · obtain ⟨stem', rfl⟩ := isPolicyName_iff.mp hb
        rw [outputName_append, append_compiledSuffix_inj] at h
        rw [← h]
        exact .noEnding ha
      · rw [outputName_of_not_isPolicyName hb, append_compiledSuffix_inj] at h
        rw [h]
        exact .same _
  · intro h
    cases h with
    | same => rfl
    | ending h => rw [outputName_append, outputName_of_not_isPolicyName h]
    | noEnding h => rw [outputName_append, outputName_of_not_isPolicyName h]

theorem Meet.trans {a b c : String} (h : Meet a b) (h' : Meet b c) : Meet a c :=
  outputName_eq_iff.mp ((outputName_eq_iff.mpr h).trans (outputName_eq_iff.mpr h'))

theorem Meet.symm {a b : String} (h : Meet a b) : Meet b a :=
  outputName_eq_iff.mp (outputName_eq_iff.mpr h).symm

theorem Meet.eq {a b : String} (h : Meet a b) (ha : IsPolicyName a) (hb : IsPolicyName b) :
    a = b := by
  cases h with
  | same => rfl
  | ending hn => exact absurd hb hn
  | noEnding hn => exact absurd ha hn

/-- A compiled file is not taken for a policy text. -/
theorem not_isPolicyName_outputName (name : String) : ¬IsPolicyName (outputName name) := by
  intro h
  obtain ⟨stem, hstem⟩ := isPolicyName_iff.mp h
  have hlast := congrArg (fun s : String => s.toList.getLast?) hstem
  simp [outputName, compiledSuffix, policySuffix] at hlast

end ClauseAudit.Batch
