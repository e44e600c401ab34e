import ClauseAudit.Logging.Record
import ClauseAudit.Proofs.Json.Lines

/-!
# Lines of JSON for records

The line of a record is printable and holds one object, which tells the level, logger and message of
the record. Values that are not the record's own come after its fields and only under other names,
so they change none of these.
-/

namespace ClauseAudit.Logging

open Json

/-- A line that holds an object with the level, logger and message of a record. -/
structure Tells (line levelName logger message : String) : Prop where
  printable : ∀ c ∈ line.toList, Printable c
  fields : ∃ fields, Json.read line = .ok (.obj fields) ∧
    fields.lookup "level" = some (.str levelName) ∧ fields.lookup "name" = some (.str logger) ∧
    fields.lookup "message" = some (.str message)

namespace Record

variable (r : Record)

def own : Fields :=
  [("level", .str (levelName r.level)), ("name", .str r.logger), ("message", .str r.message),
    ("time", .str (Time.universalText r.time))]
  ++ (match r.failure with
    | some f => [("exc_info", .str f.line)]
    | none => [])

def others : Fields := r.extras.filter fun f => f.1 != hiddenName && !r.own.any (·.1 == f.1)

private theorem toJson_eq : r.toJson = .obj (r.own ++ r.others) := rfl

private theorem nodup_own : (r.own.map (·.1)).Nodup := by
  unfold own
  cases r.failure <;> simp

private theorem finite_own : ∀ f ∈ r.own, f.2.Finite := by
  unfold own
  cases r.failure <;> simp [Value.Finite.str]

variable {r}

private theorem name_ne_of_mem_others {f g : String × Value} (hf : f ∈ r.own) (hg : g ∈ r.others) :
    f.1 ≠ g.1 := by
  intro heq
  have hkept := (List.mem_filter.mp hg).2
  rw [Bool.and_eq_true, Bool.not_eq_true', List.any_eq_false] at hkept
  exact hkept.2 f hf (beq_iff_eq.mpr heq)

theorem finite_toJson (h : (Value.obj r.extras).Finite) : r.toJson.Finite := by
  cases h with
  | obj hnames hvalues =>
    have hothers : ∀ g ∈ r.others, g.2.Finite := fun g hg => hvalues g (List.mem_of_mem_filter hg)
    have hnodup : (r.others.map (·.1)).Nodup := hnames.sublist (List.filter_sublist.map _)
    rw [toJson_eq]
    refine .obj ?_ (List.forall_mem_append.mpr ⟨r.finite_own, hothers⟩)
    rw [List.map_append, List.nodup_append]
    refine ⟨r.nodup_own, hnodup, fun n hn m hm => ?_⟩
    obtain ⟨f, hf, rfl⟩ := List.mem_map.mp hn
    obtain ⟨g, hg, rfl⟩ := List.mem_map.mp hm
    exact name_ne_of_mem_others hf hg

/-- Whatever values come with a record, its line tells the record. -/
theorem tells_jsonLine (h : (Value.obj r.extras).Finite) :
    Tells r.jsonLine (levelName r.level) r.logger r.message := by
  have hfinite := finite_toJson h
  refine ⟨Style.within_compact.print hfinite 0, ?_⟩
  have hread := read_text_of_finite Style.lawful_compact hfinite
  rw [toJson_eq, Value.reread, rereadFields_eq_map] at hread
  exact ⟨_, hread, rfl, rfl, rfl⟩

end Record

end ClauseAudit.Logging
