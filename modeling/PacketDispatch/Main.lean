import PacketDispatch.Console.Basic

/-!
# The program

The command line around the console: it reaches real files, prints how a command ended, and serves.
-/

namespace PacketDispatch

/-- The files of the machine. -/
def machineFiles : Console.Files IO where
  read path := do
    try
      return .bytes (← IO.FS.readBinFile path).data.toList
    catch
      | .noFileOrDirectory .. => return .missing
      | _ => return .unreadable
  write path content := do
    try
      IO.FS.writeBinFile path ⟨content.toArray⟩
      return true
    catch _ => return false

/-- How many processors the machine says it has. -/
def countProcessors : IO Nat := do
  try
    let info ← IO.FS.lines "/proc/cpuinfo"
    return max 1 (info.toList.countP fun line => line.startsWith "processor")
  catch _ => return 1

/-- Lines are written for whoever watches the server. -/
def showLines (lines : List String) : IO Unit := do
  for line in lines do
    IO.eprintln line

/-- The world ticks until the program is stopped. -/
partial def tickForever (interval : UInt32) (world : World WorldSession) : IO Unit := do
  IO.sleep interval
  let (_, world) := world.tick
  let scene := world.engine.scene
  showLines (Note.shown scene.notes)
  let quiet := { scene with notes := [] }
  tickForever interval { world with engine := { world.engine with scene := quiet } }

/-- The server runs. -/
def serve (settings : Settings) (processors : Nat) : IO UInt32 := do
  let table := WorldSession.opening.table
  match Console.buildWorld settings.dispatch processors table with
  | .error fault =>
    IO.eprintln ("Error: " ++ fault.message)
    return 1
  | .ok world =>
    showLines ((Console.servingLines settings processors table.summary).map Line.render)
    tickForever (UInt32.ofNat settings.dispatch.tickIntervalMs) world
    return 0

/-- One command is run, and how it ended is printed. -/
def runCommand (args : List String) : IO UInt32 := do
  let processors ← countProcessors
  let ended ← Console.run machineFiles processors args
  match ended with
  | .printed text => IO.print text
  | .misused => IO.eprintln "error: the arguments make no sense together; try '--help'"
  | .failed reason => IO.eprintln ("Error: " ++ reason)
  | .serving settings => return ← serve settings processors
  return UInt32.ofNat ended.exitCode

end PacketDispatch

/-- The command line of the world server. -/
def main (args : List String) : IO UInt32 :=
  PacketDispatch.runCommand args
