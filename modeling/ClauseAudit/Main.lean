import ClauseAudit.Command.Compile
import ClauseAudit.Command.Serve
import ClauseAudit.Command.ShowSettings
import ClauseAudit.Command.Simulate
import ClauseAudit.Time.Calendar
import Std.Time.DateTime.Timestamp

/-!
# The program

Runs the command that the first argument names: `compile`, `simulate`, `settings` or `serve`. Files
are read into a tree before a command runs, and what it changed is written after it. The service
reads requests from standard input, one JSON object a line, and answers each with a line.
-/

namespace ClauseAudit.Program

open ClauseAudit Command

def placeText (place : Files.Place) : String := String.join (place.map ("/" ++ ·))

/-- Takes what stands at a place into the tree. -/
def enter (tree : Files.Tree) (place : Files.Place) : IO Files.Tree := do
  let path := (← IO.currentDir) / placeText place
  if ← path.isDir then return tree.put place .directory
  else if ← path.pathExists then
    return tree.put place (.file (← IO.FS.readBinFile path).toList)
  else return tree

/-- Takes everything on the way along some parts into the tree. -/
def follow (tree : Files.Tree) (place : Files.Place) : List String → IO (Files.Tree × Files.Place)
  | [] => return (tree, place)
  | part :: rest => do
    let next := if part == ".." then place.dropLast else place ++ [part]
    follow (← enter tree next) next rest

/-- Takes everything below a place into the tree. -/
partial def enterBelow (tree : Files.Tree) (place : Files.Place) : IO Files.Tree := do
  let path := (← IO.currentDir) / placeText place
  if !(← path.isDir) then return tree
  let mut tree := tree
  for entry in ← path.readDir do
    let below := place ++ [entry.fileName]
    tree ← enterBelow (← enter tree below) below
  return tree

/-- Takes what a path leads to into the tree, with all below it if it is a directory. -/
def visit (tree : Files.Tree) (path : String) : IO Files.Tree := do
  let p := Files.Path.ofText path
  let (tree, place) ← follow tree (if p.isAbsolute then [] else tree.current) p.parts
  enterBelow tree place

/-- The tree with nothing but the way to the current directory. -/
def startTree : IO Files.Tree := do
  let here := (Files.Path.ofText (← IO.currentDir).toString).parts
  let (tree, _) ← follow { current := here, nodes := [] } [] here
  return tree

def save (place : Files.Place) : Files.Node → IO Unit
  | .directory => do IO.FS.createDirAll ((← IO.currentDir) / placeText place)
  | .file bytes => do
    IO.FS.writeBinFile ((← IO.currentDir) / placeText place) (ByteArray.mk bytes.toArray)

/-- Nothing changed at a place. -/
def isSame : Option Files.Node → Files.Node → Bool
  | some .directory, .directory => true
  | some (.file a), .file b => a == b
  | _, _ => false

/-- Writes what a command changed. -/
def saveChanges (before after : Files.Tree) : IO Unit := do
  for (place, node) in after.nodes do
    if !isSame (before.at? place) node then save place node

def instant : IO Int := do
  let now := (← Std.Time.Timestamp.now).toNanosecondsSinceUnixEpoch.val
  let epoch : Time.Civil := ⟨1970, 1, 1, 0, 0, 0, 0⟩
  return epoch.micros + now / 1000

def world (config : Option String) : IO World := do
  let settingsFile ← IO.getEnv "POLICYLAB_CFG"
  let tree ← visit (← startTree) (Settings.chosenPath settingsFile config)
  return { tree, settingsFile, now := ← instant }

def finish (w : World) (o : Outcome) : IO UInt32 := do
  saveChanges w.tree o.tree
  (← IO.getStdout).putStr o.output
  (← IO.getStderr).putStr o.diagnostics
  match o.result with
  | .ok code => return code.toUInt32
  | .error fault => do
    (← IO.getStderr).putStrLn fault.message
    return 1

def compile (a : Arguments) : IO UInt32 := do
  let w ← world (a.value? "config")
  let tree ← match w.settings (a.value? "config") with
    | .error _ => pure w.tree
    | .ok settings =>
      let batch := Compile.batchSettings settings.batch a
      visit (← visit w.tree batch.inputDir) batch.outputDir
  let w := { w with tree }
  finish w (Compile.run w a)

def simulate (a : Arguments) : IO UInt32 := do
  let tree ← (a.operands ++ (a.nonempty? "out-dir").toList).foldlM visit (← startTree)
  let w : World := { tree, settingsFile := none, now := ← instant }
  finish w (Simulate.run w a)

def showSettings : IO UInt32 := do
  let w ← world none
  finish w (ShowSettings.run w)

def request (line : String) : Option Api.Request := do
  let v ← (Json.read line).toOption
  let text := fun name => (v.get? name).bind (·.str?)
  let body := (text "body").map fun t =>
    (⟨t, (text "type").getD "application/json"⟩ : Api.Body)
  return { method := ← text "method", path := ← text "path", body }

/-- The line that answers a request, with what it logged before it. -/
def respond (service : Api.Service) (r : Api.Request) : String :=
  let reply := service.serve r
  let answer : Json.Value := match reply.response with
    | .ok response => .obj [("status", .int response.status), ("body", response.body)]
    | .error crash => .obj [("status", .int 500), ("body", .str crash.message)]
  String.join reply.lines ++ answer.text .compact ++ "\n"

/-- Serves requests until the input ends; lines that hold none are passed over. -/
partial def serveLines (service : Api.Service) (input output : IO.FS.Stream) : IO Unit := do
  let line ← input.getLine
  if line.isEmpty then return
  if let some r := request line then
    output.putStr (respond { service with now := ← instant } r)
    output.flush
  serveLines service input output

def serve (a : Arguments) : IO UInt32 := do
  let w ← world (a.value? "config")
  match Serve.service w a with
  | .error fault => do
    (← IO.getStderr).putStrLn fault.message
    return 1
  | .ok (service, address) => do
    (← IO.getStderr).putStrLn
      (Serve.title ++ " at " ++ address.host ++ ":" ++ Text.signedDecimal address.port)
    serveLines service (← IO.getStdin) (← IO.getStdout)
    return 0

def commands : List (String × Grammar × (Arguments → IO UInt32)) :=
  [("compile", Compile.grammar, compile), ("simulate", Simulate.grammar, simulate),
   ("settings", ⟨[], 0⟩, fun _ => showSettings), ("serve", Serve.grammar, serve)]

/-- The options and operands of a command, in short. -/
def usage (name : String) (g : Grammar) : String :=
  let option := fun (o : OptionSpec) =>
    " [--" ++ o.name ++ (if o.takes = .nothing then "]" else " VALUE]")
  "usage: " ++ name ++ String.join (g.options.map option)
    ++ String.join (List.replicate g.operands " FILE")

def run (name : String) (args : List String) : IO UInt32 := do
  match commands.lookup name with
  | none => do
    (← IO.getStderr).putStrLn
      ("commands: " ++ String.intercalate ", " (commands.map (·.1)))
    return 2
  | some (grammar, command) =>
    match grammar.read args with
    | .ok a => command a
    | .error stop => do
      (← IO.getStderr).putStrLn (usage name grammar)
      return stop.exitCode.toUInt32

end ClauseAudit.Program

def main (args : List String) : IO UInt32 := do
  ClauseAudit.Program.run (args.headD "") args.tail
