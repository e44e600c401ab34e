import ClauseAudit.Json.Value

/-!
# Settings

All that a run can be told from outside, in four sections. Every setting has a default.
-/

namespace ClauseAudit

structure Environment where
  projectName : String := "policylab"
  timezone : String := "UTC"
  deriving DecidableEq, Repr

structure LogSettings where
  level : String := "INFO"
  /-- Write records as JSON and not as plain lines. -/
  structured : Bool := true
  deriving DecidableEq, Repr

/-- Where policy texts lie and compiled policies go. -/
structure BatchSettings where
  inputDir : String := "input"
  outputDir : String := "output"
  pattern : String := "*.policy.dsl"
  deriving DecidableEq, Repr

structure ApiSettings where
  host : String := "0.0.0.0"
  port : Int := 4014
  corsOrigins : List String := ["*"]
  maxDslChars : Int := 100000
  maxContractChars : Int := 1000000
  deriving DecidableEq, Repr

structure Settings where
  env : Environment := {}
  logging : LogSettings := {}
  batch : BatchSettings := {}
  api : ApiSettings := {}
  deriving DecidableEq, Repr

def Settings.toJson (s : Settings) : Json.Value :=
  .obj [("env", .obj [("project_name", .str s.env.projectName), ("timezone", .str s.env.timezone)]),
    ("logging", .obj [("level", .str s.logging.level),
      ("structured_json", .bool s.logging.structured)]),
    ("batch", .obj [("input_dir", .str s.batch.inputDir), ("output_dir", .str s.batch.outputDir),
      ("pattern", .str s.batch.pattern)]),
    ("api", .obj [("host", .str s.api.host), ("port", .int s.api.port),
      ("cors_origins", .arr (s.api.corsOrigins.map .str)),
      ("max_dsl_chars", .int s.api.maxDslChars),
      ("max_contract_chars", .int s.api.maxContractChars)])]

end ClauseAudit
