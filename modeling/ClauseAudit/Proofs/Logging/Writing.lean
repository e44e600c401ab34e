import ClauseAudit.Proofs.Logging.Course
import ClauseAudit.Proofs.Logging.Record

/-!
# One line for each record

A message is written by the nearest logger that was set up, which hands nothing on, so it is written
at most once. Whether it is written, and in which form, the first set-ups tell.
-/

namespace ClauseAudit.Logging

namespace Registry

def Entry.record (e : Entry) (message : String) : Record :=
  { level := e.level, logger := canonicalName e.logger, message, time := e.time,
    failure := e.failure, extras := e.extras }

/-- What is written for a message: its line in one of the forms, or nothing. -/
def Entry.written (e : Entry) (message : String) : Option Bool → String
  | some structured => (e.record message).line structured ++ "\n"
  | none => ""

private theorem Entry.written_eq {e : Entry} {message : String}
    (h : Json.Template.fill? e.template.plainText e.args = some message) (form : Option Bool) :
    e.written message form = form.elim "" e.line := by
  cases form with
  | none => rfl
  | some structured =>
    rw [Entry.written, Option.elim_some, Entry.line, h]
    rfl

/-- The form in which a message is to be written, if it is: that of the nearest set-up. -/
def due? (s : String → Option Setup) (e : Entry) : Option Bool :=
  if enables s (canonicalName e.logger) e.level then
    (nearestSetup? s (canonicalName e.logger)).map (·.structured)
  else none

def form? (r : Registry) (e : Entry) : Option Bool :=
  if r.isEnabled e.logger e.level then (r.chain e.logger).findSome? fun l => l.handlers.head?
  else none

private theorem handlers_eq {ls : List Logger} (h : ∀ l ∈ ls, ∃ unset s, l.Shows unset s) :
    handlers ls = (ls.findSome? fun l => l.handlers.head?).toList := by
  induction ls with
  | nil => rfl
  | cons l ls ih =>
    obtain ⟨⟨unset, s, hl⟩, hls⟩ := List.forall_mem_cons.mp h
    rw [handlers, hl.handlers, hl.propagates, List.findSome?_cons, hl.handlers, ih hls]
    cases s <;> rfl

section Settled

variable {r : Registry} {s : String → Option Setup} {names : List String} {e : Entry}

private theorem Shown.log_eq (h : r.Shown s) (haccepted : ∀ f ∈ e.extras, f.1 ∉ reservedNames) :
    r.log e = .ok (((r.enter e.logger).form? e).elim "" e.line) := by
  have hnone : (e.extras.find? fun f => reservedNames.contains f.1) = none := by
    rw [List.find?_eq_none]
    intro f hf
    simpa using haccepted f hf
  have hhandlers : handlers ((r.enter e.logger).chain e.logger) = _ :=
    handlers_eq fun l hl => (h.enter e.logger).shows_of_mem_chain hl
  rw [log, form?, hnone, hhandlers]
  cases (r.enter e.logger).isEnabled e.logger e.level with
  | false => rfl
  | true =>
    cases ((r.enter e.logger).chain e.logger).findSome? fun l => l.handlers.head? with
    | none => rfl
    | some structured => simp [String.join]

private theorem Shown.form?_eq (h : r.Shown s) (hhonest : r.Honest s names)
    (hlinked : r.Linked names)
    (horderly : Orderly names (canonicalName e.logger)) (hgiven : canonicalName e.logger ∈ names) :
    r.form? e = due? s e := by
  have hnearest : ((r.chain e.logger).findSome? fun l => l.handlers.head?) =
      (nearestSetup? s (canonicalName e.logger)).map (·.structured) := by
    rw [nearestSetup?, hlinked.findSome?_chain horderly hgiven rfl, List.map_findSome?]
    refine findSome?_congr fun n hn => ?_
    have hhandlers := (h.shows n).handlers
    rw [canonicalName_eq_self (ne_empty_of_mem_lineage (canonicalName_ne_empty _) hn)] at hhandlers
    rw [hhandlers, Function.comp_apply]
    cases s n <;> rfl
  rw [form?, due?, h.isEnabled_eq hhonest hlinked horderly hgiven, hnearest]

end Settled

/-- After any calls every logger is as its first set-up left it, with one handler at most. A message
is written at most once, and, where its logger's names were given in good order, exactly if its
level is enabled by the first set-ups and there is one along the name. In the form of JSON its line
tells the record. -/
theorem one_line_for_record (calls : List Call) :
    (∀ name, ((run calls).logger name).handlers.length ≤ 1 ∧
      ((run calls).logger name).Shows (firstLevel (canonicalName name))
        (firstSetup? calls (canonicalName name))) ∧
    ∀ (e : Entry) (message : String),
      Json.Template.fill? e.template.plainText e.args = some message →
      (∀ f ∈ e.extras, f.1 ∉ reservedNames) → (Json.Value.obj e.extras).Finite →
        (∃ form, (run calls).log e = .ok (e.written message form)) ∧
        (Orderly (calls.map Call.name ++ [canonicalName e.logger]) (canonicalName e.logger) →
          (run calls).log e = .ok (e.written message (due? (firstSetup? calls) e))) ∧
        Tells (e.record message).jsonLine (levelName e.level) (canonicalName e.logger) message := by
  refine ⟨fun name => ?_, fun e message hmessage haccepted hextras => ⟨?_, fun horderly => ?_, ?_⟩⟩
  · have hshows := shows_run calls name
    refine ⟨?_, hshows⟩
    rw [hshows.handlers]
    exact Option.length_toList_le
  · rw [(shown_run calls).log_eq haccepted, ← Entry.written_eq hmessage]
    exact ⟨_, rfl⟩
  · have hform := ((shown_run calls).enter e.logger).form?_eq
      ((honest_run calls).enter e.logger (canonicalName e.logger))
      ((linked_run calls).enter e.logger) horderly (List.mem_append_right _ List.mem_cons_self)
    rw [(shown_run calls).log_eq haccepted, hform, Entry.written_eq hmessage]
  · exact Record.tells_jsonLine hextras

def auditCalls : List Call :=
  [.setUp "audit.rules" { level := "warn", structured := false }, .setUp "audit" {},
    .setUp "audit.rules" { level := "DEBUG" }]

/-- A message with a line break, and with a value that has the name of a field of its record. -/
def auditEntry : Entry :=
  { logger := "audit.clauses", level := 20, template := .str "%s read", args := [.str "a\nb"]
    extras := [("level", .int 3), ("share", .real (.finite false 1 (-1)))], time := 0 }

theorem auditEntry_written :
    Orderly (auditCalls.map Call.name ++ ["audit.clauses"]) "audit.clauses" ∧
    (run auditCalls).log auditEntry = .ok (auditEntry.written "a\nb read" (some true)) ∧
    Tells (auditEntry.record "a\nb read").jsonLine "INFO" "audit.clauses" "a\nb read" := by
  have horderly : Orderly (auditCalls.map Call.name ++ ["audit.clauses"]) "audit.clauses" := by
    have hnone : ∀ u ∈ auditCalls.map Call.name ++ ["audit.clauses"], u ∉ rootStarts := by decide
    exact ⟨by decide, fun _ _ u hu hstart => absurd hstart (hnone u hu)⟩
  have hextras : (Json.Value.obj auditEntry.extras).Finite :=
    .obj (by decide) (by simp [auditEntry, Json.Value.Finite.int, Json.Value.Finite.real])
  obtain ⟨_, hdue, htells⟩ := (one_line_for_record auditCalls).2 auditEntry "a\nb read" rfl
    (by decide) hextras
  exact ⟨horderly, hdue horderly, htells⟩

/-- A message that is due by the first set-ups and of which nothing is written. -/
structure Lost (calls : List Call) (e : Entry) : Prop where
  text : (Json.Template.fill? e.template.plainText e.args).isSome = true
  accepted : ∀ f ∈ e.extras, f.1 ∉ reservedNames
  due : (due? (firstSetup? calls) e).isSome = true
  nothing : (run calls).log e = .ok ""

/-- A logger is set up before the one above it, with whose name the root's name begins. -/
def lateCalls : List Call := [.setUp "r.x" { level := "NOTSET" }, .setUp "r" {}]

def lateEntry : Entry := { logger := "r.x", level := 20, template := .str "m", time := 0 }

/-- The only logger that is set up stands above a name with two dots in a row. -/
def dottedCalls : List Call := [.setUp "a" {}]

def dottedEntry : Entry := { logger := "a..b", level := 40, template := .str "m", time := 0 }

/-- Without good order messages can get lost. -/
theorem messages_lost : Lost lateCalls lateEntry ∧ Lost dottedCalls dottedEntry :=
  ⟨⟨rfl, by decide, by decide +kernel, rfl⟩, ⟨rfl, by decide, by decide +kernel, rfl⟩⟩

end Registry

end ClauseAudit.Logging
