import ClauseAudit.Report.Summary
import Mathlib.Algebra.BigOperators.Group.List.Lemmas
import Mathlib.Algebra.Ring.Nat
import Mathlib.Data.List.Dedup
import Mathlib.Data.List.Induction

/-!
# Counts in reports

Every identifier of a rule is counted once, where it comes first. Which findings there are and which
rules there are decides the counts, and their order decides only the order of the counts. Counts by
any key that no finding lacks add up to all findings.
-/

namespace ClauseAudit

/-- Keeping what was not seen before is, from the back, keeping what does not come again. -/
theorem distinct_eq (ids : List String) : distinct ids = ids.reverse.dedup.reverse := by
  have hseen : ids.foldl (fun seen id => if seen.contains id then seen else id :: seen) [] =
      ids.reverse.dedup := by
    induction ids using List.reverseRecOn with
    | nil => rfl
    | append_singleton ids id ih =>
      rw [List.foldl_concat, ih, List.reverse_concat]
      by_cases hid : id ∈ ids
      · rw [List.dedup_cons_of_mem (List.mem_reverse.mpr hid), if_pos]
        simpa using hid
      · rw [List.dedup_cons_of_notMem (mt List.mem_reverse.mp hid), if_neg]
        simpa using hid
  rw [distinct, hseen]

theorem nodup_distinct (ids : List String) : (distinct ids).Nodup := by
  rw [distinct_eq, List.nodup_reverse]
  exact List.nodup_dedup _

theorem distinct_perm {ids ids' : List String} (h : ids'.Perm ids) :
    (distinct ids').Perm (distinct ids) := by
  have hreverse : ids'.reverse.Perm ids.reverse :=
    (List.reverse_perm ids').trans (h.trans (List.reverse_perm ids).symm)
  rw [distinct_eq, distinct_eq]
  exact (List.reverse_perm _).trans (hreverse.dedup.trans (List.reverse_perm _).symm)

theorem mem_distinct_iff {ids : List String} {id : String} : id ∈ distinct ids ↔ id ∈ ids := by
  simp [distinct_eq]

theorem distinct_concat (ids : List String) (id : String) :
    distinct (ids ++ [id]) = if id ∈ ids then distinct ids else distinct ids ++ [id] := by
  rw [distinct_eq, distinct_eq, List.reverse_concat]
  by_cases hid : id ∈ ids
  · rw [if_pos hid, List.dedup_cons_of_mem (List.mem_reverse.mpr hid)]
  · rw [if_neg hid, List.dedup_cons_of_notMem (mt List.mem_reverse.mp hid), List.reverse_cons]

theorem distinct_pairwise (ids : List String) :
    (distinct ids).Pairwise fun a b => ids.idxOf a < ids.idxOf b := by
  induction ids using List.reverseRecOn with
  | nil => exact .nil
  | append_singleton ids id ih =>
    have hearlier : (distinct ids).Pairwise
        fun a b => (ids ++ [id]).idxOf a < (ids ++ [id]).idxOf b := by
      refine ih.imp_of_mem fun {a b} ha hb hlt => ?_
      rw [List.idxOf_append_of_mem (mem_distinct_iff.mp ha),
        List.idxOf_append_of_mem (mem_distinct_iff.mp hb)]
      exact hlt
    rw [distinct_concat]
    by_cases hid : id ∈ ids
    · rw [if_pos hid]
      exact hearlier
    · rw [if_neg hid, List.pairwise_append]
      refine ⟨hearlier, List.pairwise_singleton _ _, ?_⟩
      intro a ha b hb
      have hmem := mem_distinct_iff.mp ha
      rw [List.mem_singleton.mp hb, List.idxOf_append_of_mem hmem, List.idxOf_append_of_notMem hid]
      exact Nat.lt_add_right _ (List.idxOf_lt_length_of_mem hmem)

theorem distinct_again (before after : List String) (id : String) :
    distinct (before ++ id :: id :: after) = distinct (before ++ id :: after) := by
  have hagain : (id :: id :: before.reverse).dedup = (id :: before.reverse).dedup :=
    List.dedup_cons_of_mem List.mem_cons_self
  have htwice : (before ++ id :: id :: after).reverse =
      after.reverse ++ id :: id :: before.reverse := by simp
  have honce : (before ++ id :: after).reverse = after.reverse ++ id :: before.reverse := by simp
  rw [distinct_eq, distinct_eq, htwice, honce, List.dedup_append, hagain, ← List.dedup_append]

/-- Every element is counted under one key, so weighted counts add up to the weights of all. -/
theorem sum_weight_mul_countP {α κ : Type} [DecidableEq κ] {keys : List κ} (hkeys : keys.Nodup)
    (key : α → κ) (weight : κ → Nat) {as : List α} (h : ∀ a ∈ as, key a ∈ keys) :
    (keys.map fun k => weight k * as.countP (key · == k)).sum =
      (as.map fun a => weight (key a)).sum := by
  induction as with
  | nil => simp
  | cons a as ih =>
    obtain ⟨ha, has⟩ := List.forall_mem_cons.mp h
    have hsingle : (keys.map fun k => weight k * if (key a == k) = true then 1 else 0).sum =
        weight (key a) := by
      rw [List.sum_map_eq_nsmul_single (key a)]
      · simp [List.count_eq_one_of_mem hkeys ha]
      · intro k hk _
        simp [Ne.symm hk]
    simp only [List.countP_cons, mul_add, List.sum_map_add, ih has, hsingle, List.map_cons,
      List.sum_cons]
    exact Nat.add_comm _ _

theorem sum_countP {α κ : Type} [DecidableEq κ] {keys : List κ} (hkeys : keys.Nodup)
    (key : α → κ) {as : List α} (h : ∀ a ∈ as, key a ∈ keys) :
    (keys.map fun k => as.countP (key · == k)).sum = as.length := by
  have hsum := sum_weight_mul_countP hkeys key (fun _ => 1) h
  simpa only [one_mul, List.map_const', List.sum_replicate_nat, mul_one] using hsum

namespace Report

theorem map_fst_byRule (r : Report) :
    r.byRule.map (·.1) = distinct (r.policy.rules.map (·.id)) := by
  rw [byRule, List.map_map]
  exact List.map_id _

variable {r r' : Report}

theorem bySeverity_eq_of_perm (h : r'.record.violations.Perm r.record.violations) :
    r'.bySeverity = r.bySeverity := by
  simp only [bySeverity, h.countP_eq]

theorem byRule_perm (hrules : r'.policy.rules.Perm r.policy.rules)
    (h : r'.record.violations.Perm r.record.violations) : r'.byRule.Perm r.byRule := by
  simp only [byRule, h.countP_eq]
  exact (distinct_perm (hrules.map _)).map _

theorem byRule_eq_of_perm
    (hids : distinct (r'.policy.rules.map (·.id)) = distinct (r.policy.rules.map (·.id)))
    (h : r'.record.violations.Perm r.record.violations) : r'.byRule = r.byRule := by
  simp only [byRule, hids, h.countP_eq]

end Report

end ClauseAudit
