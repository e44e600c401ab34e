import ClauseAudit.Files.Tree
import ClauseAudit.Settings.Section
import ClauseAudit.Text.Blank
import ClauseAudit.Text.Case
import ClauseAudit.Toml.Reader

/-!
# Loading settings

Settings come from a TOML file. A file that cannot be read at first is read once more without
white space and invisible characters around it. Relative directories are seen from the directory
of the file, or from the one above when the file lies in a directory for configuration.
-/

namespace ClauseAudit

inductive SettingsFault where
  | file (fault : Files.Fault)
  | encoding (fault : Text.Utf8Fault)
  | unreadable (path : Files.Path) (beginning : String)
  | longInteger (digits : Nat)
  | notTable (place : Section) (kind : String)
  | issues (issues : List Issue)
  /-- A path with a null character. -/
  | nullCharacter

def SettingsFault.message : SettingsFault → String
  | file fault => fault.message
  | encoding fault => fault.message
  | unreadable path beginning =>
    "Failed to parse TOML at " ++ path.text ++ " after BOM/cleanup. First chars: "
      ++ Text.quoted beginning
  | longInteger digits => Text.tooManyDigits digits
  | notTable place kind =>
    "policylab.config_model.model." ++ place.model
      ++ "() argument after ** must be a mapping, not " ++ kind
  | issues is => Text.decimal is.length ++ " validation error(s)"
  | nullCharacter => "embedded null byte"

namespace Toml

def Value.kindName : Value → String
  | .str _ => "str"
  | .int _ => "int"
  | .real _ => "float"
  | .bool _ => "bool"
  | .moment .date => "datetime.date"
  | .moment .time => "datetime.time"
  | .moment .dateTime => "datetime.datetime"
  | .arr _ => "list"
  | .table _ => "dict"

mutual

/-- A value as settings take it. No setting takes a date or time, nor an object. -/
def Value.plain : Value → Json.Value
  | .str s => .str s
  | .int i => .int i
  | .real x => .real x
  | .bool b => .bool b
  | .moment _ => .obj []
  | .arr items => .arr (plainItems items)
  | .table fields => .obj (plainFields fields)

def plainItems : List Value → List Json.Value
  | [] => []
  | v :: rest => v.plain :: plainItems rest

def plainFields : List (String × Value) → Json.Fields
  | [] => []
  | (name, v) :: rest => (name, v.plain) :: plainFields rest

end

end Toml

namespace Settings

/-- Characters without width that editors leave at the front of files. -/
def invisible : List Nat := [0xFEFF, 0x200B, 0x200C, 0x200D, 0x2060]

def byteOrderMark : Char := Char.ofNat 0xFEFF

/-- A text without a byte order mark, white space at its ends, and then invisible characters at
its front; all line ends are line feeds. -/
def clean (text : String) : String :=
  let cs := match text.toList with
    | c :: rest => if c = byteOrderMark then rest else c :: rest
    | [] => []
  let cs := Text.stripChars (Text.unifyLineEnds cs)
  String.ofList (cs.dropWhile fun c => invisible.contains c.toNat)

/-- The first characters of a text, with line feeds spelled out. -/
def beginning (text : String) : String :=
  String.ofList ((text.toList.take 80).flatMap fun c => if c = '\n' then ['\\', 'n'] else [c])

def readFields (path : Files.Path) (bytes : List UInt8) : Except SettingsFault Toml.Fields :=
  match Text.readUtf8 bytes with
  | .error fault => .error (.encoding fault)
  | .ok text =>
    match Toml.read text with
    | .ok fields => .ok fields
    | .error (.longInteger digits) => .error (.longInteger digits)
    | .error .malformed =>
      let cleaned := clean text
      match Toml.read cleaned with
      | .ok fields => .ok fields
      | .error (.longInteger digits) => .error (.longInteger digits)
      | .error .malformed => .error (.unreadable path (beginning cleaned))

def readSection (s : Section) (fields : Toml.Fields) (ofFields : Json.Fields → Checked α) :
    Except SettingsFault α :=
  match fields.lookup s.name with
  | none => (ofFields []).mapError .issues
  | some (.table inner) => (ofFields (Toml.plainFields inner)).mapError .issues
  | some v => .error (.notTable s v.kindName)

/-- The directory from which a file's directories are seen. -/
def baseDirectory (path : Files.Path) : Files.Path :=
  if Text.lower path.parent.name == "config" then path.parent.parent else path.parent

/-- A directory seen from the base directory. -/
def absolute (base : Files.Path) (directory : String) : String :=
  let p := Files.Path.ofText directory
  if p.isAbsolute then p.text else (Files.Path.resolve base p).text

/-- Paths with null characters cannot be followed. -/
def hasNull (path : String) : Bool := path.toList.contains (Char.ofNat 0)

/-- The directory has to be followed from the base directory, and cannot be. -/
def leadsNowhere (directory : String) : Bool :=
  !(Files.Path.ofText directory).isAbsolute && hasNull directory

/-- Settings with absolute directories. -/
def placeDirectories (base : Files.Path) (s : Settings) : Settings :=
  { s with batch := { s.batch with
    inputDir := absolute base s.batch.inputDir, outputDir := absolute base s.batch.outputDir } }

/-- Settings from the file at an absolute path. -/
def ofFile (tree : Files.Tree) (path : Files.Path) : Except SettingsFault Settings := do
  let bytes ← (tree.read path).mapError .file
  let fields ← readFields path bytes
  let env ← readSection .env fields Environment.ofFields
  let logging ← readSection .logging fields LogSettings.ofFields
  let batch ← readSection .batch fields BatchSettings.ofFields
  let api ← readSection .api fields ApiSettings.ofFields
  if leadsNowhere batch.inputDir || leadsNowhere batch.outputDir then .error .nullCharacter
  return placeDirectories (baseDirectory path) { env, logging, batch, api }

def defaultPath : String := "config/config.toml"

/-- The settings file: the one that is given, or else the one that the environment names, or else
the default one. -/
def chosenPath (fromEnvironment path : Option String) : String :=
  ((path.filter (!·.isEmpty)) <|> fromEnvironment).getD defaultPath

/-- Settings from the chosen file. Only a default file that nothing names may be missing, which
leaves the defaults. -/
def load (tree : Files.Tree) (fromEnvironment path : Option String) :
    Except SettingsFault Settings :=
  let here : Files.Path := ⟨"/", tree.current⟩
  let chosen := chosenPath fromEnvironment path
  let final := Files.Path.resolve here (.ofText chosen)
  if hasNull chosen then .error .nullCharacter
  else if path.isNone && fromEnvironment.isNone && !tree.exists? final then .ok {}
  else ofFile tree final

end Settings

end ClauseAudit
