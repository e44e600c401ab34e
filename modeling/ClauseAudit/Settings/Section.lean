import ClauseAudit.Settings.Basic
import ClauseAudit.Settings.Field

/-!
# Sections of settings

Reads sections from their fields. Unknown fields are passed over.
-/

namespace ClauseAudit

/-- The sections with their names in files and in messages. -/
inductive Section where
  | env
  | logging
  | batch
  | api
  deriving DecidableEq, Repr

namespace Section

def name : Section → String
  | env => "env"
  | logging => "logging"
  | batch => "batch"
  | api => "api"

def model : Section → String
  | env => "EnvCfg"
  | logging => "LoggingCfg"
  | batch => "BatchCfg"
  | api => "ApiCfg"

end Section

def Environment.ofFields (fields : Json.Fields) : Checked Environment :=
  let d : Environment := {}
  Checked.ap ((Field.get fields "project_name" Field.text d.projectName).map Environment.mk)
    (Field.get fields "timezone" Field.text d.timezone)

def LogSettings.ofFields (fields : Json.Fields) : Checked LogSettings :=
  let d : LogSettings := {}
  Checked.ap ((Field.get fields "level" Field.text d.level).map LogSettings.mk)
    (Field.get fields "structured_json" Field.truth d.structured)

def BatchSettings.ofFields (fields : Json.Fields) : Checked BatchSettings :=
  let d : BatchSettings := {}
  Checked.ap (Checked.ap ((Field.get fields "input_dir" Field.text d.inputDir).map BatchSettings.mk)
    (Field.get fields "output_dir" Field.text d.outputDir))
    (Field.get fields "pattern" Field.text d.pattern)

def ApiSettings.ofFields (fields : Json.Fields) : Checked ApiSettings :=
  let d : ApiSettings := {}
  let c := (Field.get fields "host" Field.text d.host).map ApiSettings.mk
  let c := Checked.ap c (Field.get fields "port" Field.port d.port)
  let c := Checked.ap c (Field.get fields "cors_origins" Field.texts d.corsOrigins)
  let c := Checked.ap c (Field.get fields "max_dsl_chars" Field.positive d.maxDslChars)
  Checked.ap c (Field.get fields "max_contract_chars" Field.positive d.maxContractChars)

def Section.read (s : Section) (fields : Json.Fields) (ofFields : Json.Fields → Checked α) :
    Checked α :=
  match fields.lookup s.name with
  | none => ofFields []
  | some (.obj inner) => Checked.under (.field s.name) (ofFields inner)
  | some _ => Checked.under (.field s.name) (.fail (.notSection s.model))

def Settings.ofFields (fields : Json.Fields) : Checked Settings :=
  let c := (Section.env.read fields Environment.ofFields).map Settings.mk
  let c := Checked.ap c (Section.logging.read fields LogSettings.ofFields)
  let c := Checked.ap c (Section.batch.read fields BatchSettings.ofFields)
  Checked.ap c (Section.api.read fields ApiSettings.ofFields)

end ClauseAudit
