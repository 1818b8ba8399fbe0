import PacketDispatch.Console.Arguments
import PacketDispatch.Console.Report
import PacketDispatch.Json.Printer
import PacketDispatch.Settings.Basic
import PacketDispatch.World.Handlers

/-!
# The console

What a command does in its folder: it reads the settings, or writes those that it starts with, then
answers one question or serves. Serving itself is left to the program around it, and so are the
files, which are reached by their paths.
-/

namespace PacketDispatch
namespace Console

/-- What reading a path gives: nothing is there, something is there that cannot be read, or
bytes. -/
inductive Found
  | missing
  | unreadable
  | bytes (content : List UInt8)
  deriving DecidableEq, Repr

/-- Reading and writing files by path; writing tells whether it was possible. -/
structure Files (m : Type → Type) where
  read : String → m Found
  write : String → List UInt8 → m Bool

/-- What a run is for. -/
inductive Mode
  | serve
  | describe (id : Opcode)
  | summary
  | replay (path : String)
  deriving DecidableEq, Repr

/-- How a command ends: with something printed, without a meaning, with a failure, or as a server
with its settings. -/
inductive Ended
  | printed (text : String)
  | misused
  | failed (reason : String)
  | serving (settings : Settings)
  deriving DecidableEq, Repr

/-- The name of the file with the settings when none is given. -/
def defaultConfig : String := "worldserver.toml"

/-- What is printed for the version. -/
def versionText : String := "World Server 0.1.0\n"

/-- What is printed for help. -/
def helpText : String :=
  String.join (List.map (fun line => line ++ "\n") [
    "Opcode dispatch and admission control host for the world server",
    "",
    "Usage: worldserver [OPTIONS]",
    "",
    "Options:",
    "  -c, --config <FILE>      Configuration file path [default: worldserver.toml]",
    "  -l, --log-level <LEVEL>  Log level (trace, debug, info, warn, error)",
    "      --json-logs          Output logs in JSON format",
    "      --describe <OPCODE>  Print the descriptor of an opcode (hex with 0x prefix, or decimal)",
    "      --summary            Print the opcode table summary",
    "      --replay <FILE>      Dispatch the packets of a JSON trace file",
    "  -h, --help               Print help",
    "  -V, --version            Print version"])

/-- The mode that options ask for; the opcode of `--describe` must be one. -/
def modeOf (g : Given) : Except String Mode :=
  match g.value? .describe with
  | some text =>
    match Opcode.parse text with
    | .ok id => .ok (.describe id)
    | .error fault => .error (Opcode.parseMessage text fault)
  | none =>
    if g.has .summary then .ok .summary
    else
      match g.value? .replay with
      | some path => .ok (.replay path)
      | none => .ok .serve

/-- The settings in a file. A file that is missing is written with the settings that a server starts
with. -/
def loadSettings [Monad m] (files : Files m) (processors : Nat) (path : String) :
    m (Except String Settings) := do
  match ← files.read path with
  | .bytes content =>
    match Settings.ofBytes content with
    | .ok settings => return .ok settings
    | .error fault => return .error (fault.message path)
  | .unreadable => return .error (Settings.FileFault.unreadable.message path)
  | .missing =>
    let settings : Settings := {}
    if ← files.write path (settings.fileText processors).toUTF8.data.toList then
      return .ok settings
    else return .error ("writing " ++ path)

/-- The settings after the options that change them. -/
def override (g : Given) (s : Settings) : Settings :=
  let level := (g.value? .logLevel).getD s.logging.level
  { s with logging := ⟨level, s.logging.jsonFormat || g.has .jsonLogs⟩ }

/-- Settings may ask that every row of the manifest is registered. -/
def checkLoad (s : Settings) (l : Manifest.Load σ) : Except String Unit :=
  if !l.isClean && s.dispatch.strictManifest then
    .error (Text.decimal l.failures.length ++ " opcode manifest entries failed to register")
  else .ok ()

/-- The world that settings describe, with a table. -/
def buildWorld (s : Settings.Dispatch) (processors : Nat) (t : Table WorldSession) :
    Except SizeFault (World WorldSession) :=
  (Engine.ofSizes .standard (s.permits processors) s.worldQueueCapacity).map fun e =>
    World.start (e.withTable t) s.worldDrainBudget

/-- The records in what reading the path of a trace gave. -/
def traceOf (path : String) : Found → Except String (List Replay.Record)
  | .bytes content =>
    match String.fromUTF8? ⟨content.toArray⟩ with
    | some text =>
      match Replay.parseTrace text with
      | some records => .ok records
      | none => .error ("parsing trace " ++ path)
    | none => .error ("reading trace " ++ path)
  | .missing | .unreadable => .error ("reading trace " ++ path)

/-- A trace is replayed in the world that settings describe. -/
def replay (s : Settings) (processors : Nat) (t : Table WorldSession)
    (records : List Replay.Record) : Except String Replay.Run :=
  match buildWorld s.dispatch processors t with
  | .error fault => .error fault.message
  | .ok world =>
    match Replay.run .eager s.dispatch.graceMs records world with
    | .error fault => .error fault.message
    | .ok r => .ok r

/-- A value is printed over several lines. -/
def printed (v : Json) : Ended :=
  .printed (v.indented ++ "\n")

/-- The end of a replay: its counts, or why it failed. -/
def replayEnd (s : Settings) (processors : Nat) (t : Table WorldSession) (path : String)
    (found : Found) : Ended :=
  match traceOf path found with
  | .error reason => .failed reason
  | .ok records =>
    match replay s processors t records with
    | .error reason => .failed reason
    | .ok r => printed r.report

/-- A mode is run with settings that were checked. -/
def runMode [Monad m] (files : Files m) (processors : Nat) (l : Manifest.Load WorldSession)
    (mode : Mode) (s : Settings) : m Ended := do
  match checkLoad s l with
  | .error reason => return .failed reason
  | .ok () =>
    match mode with
    | .serve => return .serving s
    | .describe id => return printed (l.table.description id)
    | .summary => return printed l.overview
    | .replay path => return replayEnd s processors l.table path (← files.read path)

/-- A run with options: the mode is settled first, then the settings, then they are checked. -/
def runGiven [Monad m] (files : Files m) (processors : Nat) (g : Given) : m Ended := do
  match modeOf g with
  | .error reason => return .failed reason
  | .ok mode =>
    match ← loadSettings files processors ((g.value? .config).getD defaultConfig) with
    | .error reason => return .failed reason
    | .ok settings =>
      let settings := override g settings
      match settings.validate with
      | .error reason => return .failed reason
      | .ok () => runMode files processors WorldSession.opening mode settings

/-- A command runs with the files that it reaches, on a machine with some processors. -/
def run [Monad m] (files : Files m) (processors : Nat) (args : List String) : m Ended :=
  match read args with
  | .misuse => return .misused
  | .request .help => return .printed helpText
  | .request .version => return .printed versionText
  | .run g => runGiven files processors g

/-- The lines with which a server begins. -/
def servingLines (s : Settings) (processors : Nat) (summary : Table.Summary) : List Line :=
  List.map (fun text => ⟨.info, text⟩) [
    "🚀 World server v0.1.0",
    "📋 Configuration Summary:",
    "  📚 Opcodes: " ++ Text.decimal summary.total ++ " (" ++ Text.decimal summary.client ++
      " client, " ++ Text.decimal summary.server ++ " server)",
    "  🏊 Worker permits: " ++ Text.decimal (s.dispatch.permits processors),
    "  🌍 World queue: " ++ Text.decimal s.dispatch.worldQueueCapacity ++ " slots, " ++
      Text.decimal s.dispatch.tickIntervalMs ++ "ms tick",
    "  ⏱️ Logout grace window: " ++ Text.decimal s.dispatch.logoutGraceSecs ++ "s",
    "🌍 World loop started (" ++ Text.decimal s.dispatch.tickIntervalMs ++ "ms tick, budget " ++
      Text.decimal s.dispatch.worldDrainBudget ++ ")",
    "✅ World server is running",
    "🛑 Press Ctrl+C to gracefully shutdown"]

/-- The exit code of a command that has ended. -/
def Ended.exitCode : Ended → Nat
  | .printed _ | .serving _ => 0
  | .failed _ => 1
  | .misused => 2

end Console
end PacketDispatch
