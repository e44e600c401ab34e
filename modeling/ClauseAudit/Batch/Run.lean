import ClauseAudit.Batch.Envelope
import ClauseAudit.Batch.OutputName
import ClauseAudit.Files.Glob
import ClauseAudit.Logging.Registry

/-!
# Batch runs

A run compiles every policy text of a directory, in the order of their paths, into a file of the
output directory, and logs what became of it.
-/

namespace ClauseAudit.Batch

structure Item where
  sourceFile : String
  outputPath : String
  /-- The diagnostic of a text that does not compile. -/
  diagnostic : Option String
  deriving DecidableEq, Repr

structure Summary where
  inputDir : String
  outputDir : String
  items : List Item
  deriving DecidableEq, Repr

namespace Summary

def processed (s : Summary) : Nat := s.items.length

def failed (s : Summary) : Nat := s.items.countP (·.diagnostic.isSome)

end Summary

inductive Fault where
  | file (fault : Files.Fault)
  | pattern (fault : Files.Glob.Fault)
  | literal (fault : LiteralFault)

structure State where
  tree : Files.Tree
  lines : List String := []
  items : List Item := []

/-- Where a run logs to, and when it runs. -/
structure Context where
  registry : Logging.Registry
  logger : String
  /-- The instant of universal time. -/
  now : Int

namespace Context

/-- Logs a message with values of the run; their names are never taken. -/
def log (c : Context) (level : Int) (message : String) (extras : Json.Fields) : List String :=
  match c.registry.log
      { logger := c.logger, level, template := .str message, extras, time := c.now } with
  | .ok line => if line.isEmpty then [] else [line]
  | .error _ => []

end Context

/-- The text of a policy file. Bytes that are not UTF-8 are replaced. -/
def fileText (bytes : List UInt8) : String := Text.withLineFeeds (Text.repairUtf8 bytes)

/-- Compiles one file. What was done before a fault stays done. -/
def step (c : Context) (output : Files.Path) (s : State) (path : Files.Path) :
    State × Option Fault :=
  match s.tree.read path with
  | .error fault => (s, some (.file fault))
  | .ok bytes =>
    match Envelope.ofText path.name (fileText bytes) (Time.universalText c.now) with
    | .error fault => (s, some (.literal fault))
    | .ok envelope =>
      let target := output.join (.ofText (outputName path.name))
      match s.tree.store target envelope.bytes with
      | (tree, some fault) => ({ s with tree }, some (.file fault))
      | (tree, none) =>
        let message := envelope.outcome.message?
        let lines := match message with
          | none => c.log 20 "compiled policy file"
              [("source_file", .str path.name), ("output", .str target.text)]
          | some m => c.log 30 "policy compile failed"
              [("source_file", .str path.name), ("error", .str m)]
        ({ tree, lines := s.lines ++ lines
           items := s.items ++ [⟨path.name, target.text, message⟩] }, none)

/-- Compiles files up to the first fault. -/
def steps (c : Context) (output : Files.Path) (s : State) :
    List Files.Path → State × Option Fault
  | [] => (s, none)
  | path :: rest =>
    match step c output s path with
    | (s, none) => steps c output s rest
    | (s, some fault) => (s, some fault)

/-- Makes both directories and compiles the files that the pattern stands for. -/
def run (c : Context) (tree : Files.Tree) (input output pattern : String) :
    State × Except Fault Summary :=
  let source := Files.Path.ofText input
  let target := Files.Path.ofText output
  match tree.makeAll source with
  | .error fault => ({ tree }, .error (.file fault))
  | .ok tree =>
    match tree.makeAll target with
    | .error fault => ({ tree }, .error (.file fault))
    | .ok tree =>
      match Files.Glob.files tree source pattern with
      | .error fault => ({ tree }, .error (.pattern fault))
      | .ok paths =>
        match steps c target { tree } paths with
        | (s, some fault) => (s, .error fault)
        | (s, none) =>
          let summary : Summary := ⟨source.text, target.text, s.items⟩
          let lines := c.log 20 ("processed " ++ Text.decimal summary.processed ++ " file(s)")
            [("processed", .int summary.processed), ("failed", .int summary.failed)]
          ({ s with lines := s.lines ++ lines }, .ok summary)

end ClauseAudit.Batch
