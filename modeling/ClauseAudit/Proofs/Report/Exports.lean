import ClauseAudit.Proofs.Files.Tree
import ClauseAudit.Proofs.Json.Lines
import ClauseAudit.Proofs.Table.Csv
import ClauseAudit.Proofs.Table.Exact
import ClauseAudit.Proofs.Text.Utf8
import ClauseAudit.Report.Summary

/-!
# Exports of the findings

Pattern sources, remediations and snippets are arbitrary text. A table of findings gives all of it
back from each of its forms: fields between commas, an array of objects, objects on lines.
-/

namespace ClauseAudit

namespace Violation

def fields (v : Violation) : List String :=
  [v.ruleId, v.clauseType, v.severity.name, Text.decimal v.severity.weight, v.reason,
   v.remediation, v.snippet]

def record (v : Violation) : Json.Value :=
  .obj [("rule_id", .str v.ruleId), ("clause_type", .str v.clauseType),
    ("severity", .str v.severity.name), ("weight", .int v.severity.weight),
    ("reason", .str v.reason), ("remediation", .str v.remediation),
    ("clause_snippet", .str v.snippet)]

private theorem plain_record (v : Violation) : v.record.Plain := by
  refine .obj (by simp) ?_
  simp [Json.Value.Plain.str, Json.Value.Plain.int]

private theorem exact_table (vs : List Violation) : (table vs).Exact := by
  constructor
  · intro r hr
    obtain ⟨v, _, rfl⟩ := List.mem_map.mp hr
    rfl
  · intro r hr
    obtain ⟨v, _, rfl⟩ := List.mem_map.mp hr
    simp [cells, Json.Value.Plain.str, Json.Value.Plain.int]

private theorem records_table (vs : List Violation) : (table vs).records = vs.map record := by
  rw [Table.records, (exact_table vs).settled_eq, table, List.map_map]
  rfl

/-- Reading a text in a format gives findings back. -/
def ReadFrom (vs : List Violation) (text : String) (jsonLines : Bool) : Table.Format → Prop
  | .csv => Table.Csv.records ',' '"' text = columns :: vs.map fields
  | .lines => Json.readLines text = .ok (vs.map record)
  | .json =>
    if jsonLines then Json.readLines text = .ok (vs.map record)
    else Json.read text = .ok (.arr (vs.map record))

private theorem records_csv (vs : List Violation) : Table.Csv.records ',' '"'
    (Table.Csv.Options.text { header := some (columns.map .str) } (table vs)) =
      columns :: vs.map fields := by
  let o : Table.Csv.Options := { header := some (columns.map .str) }
  have ho : o.Lawful := by constructor <;> decide
  have hlines : o.lines (table vs) = columns.map .str :: vs.map cells :=
    (exact_table vs).lines_eq o
  have hread := Table.Csv.records_text (t := table vs) ho (by
    rw [hlines]
    simp [columns, cells])
  rw [hlines] at hread
  have hfields : (vs.map cells).map (·.map o.cellText) = vs.map fields := by
    rw [List.map_map]
    rfl
  exact hread.trans (congrArg (columns :: ·) hfields)

private theorem readLines_table (vs : List Violation) :
    Json.readLines (table vs).linesText = .ok (vs.map record) := by
  rw [Table.linesText, records_table]
  apply Json.readLines_joined Json.Style.lawful_record Json.Style.oneLine_record
  intro v hv
  obtain ⟨v, _, rfl⟩ := List.mem_map.mp hv
  exact v.plain_record

private theorem read_jsonText (vs : List Violation) :
    Json.read (table vs).jsonText = .ok (.arr (vs.map record)) := by
  rw [Table.jsonText, records_table]
  apply Json.read_text Json.Style.lawful_record
  refine .arr fun v hv => ?_
  obtain ⟨v, _, rfl⟩ := List.mem_map.mp hv
  exact v.plain_record

private theorem exists_textIn (vs : List Violation) (format : Table.Format) (jsonLines : Bool) :
    ∃ text, (table vs).textIn format [] jsonLines = .ok text ∧
      ReadFrom vs text jsonLines format := by
  have hnames : ¬((table vs).columns.eraseDups.length != (table vs).columns.length) := by
    have hdistinct : columns.eraseDups = columns := by decide
    simp [table, hdistinct]
  cases format with
  | csv =>
    refine ⟨_, ?_, records_csv vs⟩
    rw [Table.textIn, (exact_table vs).requestedText_eq]
    rfl
  | lines => exact ⟨_, by rw [Table.textIn, if_neg hnames], readLines_table vs⟩
  | json =>
    cases jsonLines with
    | true => exact ⟨_, by rw [Table.textIn, if_neg hnames, if_pos rfl], readLines_table vs⟩
    | false => exact ⟨_, by rw [Table.textIn, if_neg hnames]; rfl, read_jsonText vs⟩

end Violation

/-- The exports of the findings can be read back exactly: in every format they have a text, which
gives back one record for each finding with all it says, and where it was written as a file the file
holds it. -/
theorem Record.exports_read_back (r : Record) :
    (∀ format jsonLines, ∃ text,
      (Violation.table r.violations).textIn format [] jsonLines = .ok text ∧
        Violation.ReadFrom r.violations text jsonLines format) ∧
    ∀ tree tree' path given jsonLines,
      (Violation.table r.violations).write tree path given [] jsonLines = .ok tree' →
        ∃ format bytes text, Table.Format.ofName? (Table.formatName given path) = some format ∧
          tree'.read path = .ok bytes ∧ Text.readUtf8 bytes = .ok text ∧
          Violation.ReadFrom r.violations text jsonLines format := by
  refine ⟨Violation.exists_textIn r.violations, ?_⟩
  intro tree tree' path given jsonLines h
  obtain ⟨above, format, text, _, hformat, htext, hwrite⟩ := Table.write_eq_ok_iff.mp h
  obtain ⟨text', htext', hread⟩ := Violation.exists_textIn r.violations format jsonLines
  obtain rfl : text = text' := Except.ok.inj (htext.symm.trans htext')
  have hbytes := Files.Tree.read_of_write hwrite
  exact ⟨format, _, text, hformat, hbytes, Text.readUtf8_toUTF8 text, hread⟩

/-- A result with all signs that could be misread. -/
def crookedRecord : Record where
  clausesAnalyzed := 1
  violations := [{ ruleId := "a, \"b\"", clauseType := "PAYMENT", severity := .high
                   reason := "Required pattern missing: /a\\/b\"/", remediation := ""
                   snippet := "Fees,\r\n\"due\"\n\n\\u0001" }]
  riskScore := 20
  verdict := "safe"

theorem crookedRecord_reads_back : ∃ tree',
    (Violation.table crookedRecord.violations).write { current := [], nodes := [] }
      (.ofText "violations.csv") none [] false = .ok tree' ∧
    ∃ format bytes text,
      Table.Format.ofName? (Table.formatName none (.ofText "violations.csv")) = some format ∧
      tree'.read (.ofText "violations.csv") = .ok bytes ∧ Text.readUtf8 bytes = .ok text ∧
      Violation.ReadFrom crookedRecord.violations text false format := by
  obtain ⟨hexists, hfiles⟩ := crookedRecord.exports_read_back
  obtain ⟨text, htext, _⟩ := hexists .csv false
  have hformat : Table.Format.ofName? (Table.formatName none (.ofText "violations.csv")) =
      some .csv := by
    decide +kernel
  have habove : Files.Tree.makeAll { current := [], nodes := [] }
      (Files.Path.ofText "violations.csv").parent = .ok { current := [], nodes := [] } := rfl
  have hput : Files.Tree.write { current := [], nodes := [] } (Files.Path.ofText "violations.csv")
      text.toUTF8.toList =
        .ok { current := [], nodes := [(["violations.csv"], .file text.toUTF8.toList)] } := rfl
  have hwrite := Table.write_eq_ok_iff.mpr ⟨_, .csv, text, habove, hformat, htext, hput⟩
  exact ⟨_, hwrite, hfiles _ _ _ _ _ hwrite⟩

end ClauseAudit
