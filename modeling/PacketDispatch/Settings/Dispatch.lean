import PacketDispatch.Schedule.Size
import PacketDispatch.Session.Login
import PacketDispatch.Settings.Value
import PacketDispatch.Text.Numeral

/-!
# Dispatch settings

The sizes of the pool and the world queue, and the times of ticks and grace windows. Every field has
a default; validation refuses sizes from which nothing can be built.
-/

namespace PacketDispatch
namespace Settings

/-- Dispatch settings. Without `workerPermits` the pool has four permits for each processor; a
budget of zero is no budget. -/
structure Dispatch where
  workerPermits : Option Nat := none
  worldQueueCapacity : Nat := 4096
  worldDrainBudget : Nat := 0
  tickIntervalMs : Nat := 50
  logoutGraceSecs : Nat := 20
  strictManifest : Bool := false
  deriving DecidableEq, Repr

/-- Why settings are refused. -/
inductive Fault
  | zero (field : String)
  | tooLarge (field : String) (value max : Nat)
  deriving DecidableEq, Repr

/-- The wording of a refusal. -/
def Fault.message : Fault → String
  | .zero field => s!"{field} must be greater than zero"
  | .tooLarge field value max => s!"{field} is {value}, the maximum is {max}"

/-- A size from which something is built is neither zero nor too large. -/
def checkSize (field : String) (value : Nat) : Except Fault Unit :=
  if value = 0 then .error (.zero field)
  else if maxSize < value then .error (.tooLarge field value maxSize)
  else .ok ()

namespace Dispatch

/-- The permits of the pool on a machine with some processors. -/
def permits (s : Dispatch) (processors : Nat) : Nat :=
  s.workerPermits.getD (4 * processors)

/-- The length of the grace window in milliseconds. -/
def graceMs (s : Dispatch) : Nat :=
  s.logoutGraceSecs * 1000

/-- A pool, a queue and a clock can be built from the settings. The default number of permits is
right on every machine. -/
def validate (s : Dispatch) : Except Fault Unit := do
  match s.workerPermits with
  | some permits => checkSize "worker_permits" permits
  | none => .ok ()
  checkSize "world_queue_capacity" s.worldQueueCapacity
  if s.tickIntervalMs = 0 then .error (.zero "tick_interval_ms")

/-- The settings in a table or a list; fields that are missing have their defaults. -/
def ofValue? (v : Value) : Option Dispatch :=
  let d : Dispatch := {}
  if v.hasParts then do
    let workerPermits ←
      v.field "worker_permits" 0 (fun part => part.count?.map some) d.workerPermits
    let worldQueueCapacity ← v.field "world_queue_capacity" 1 Value.count? d.worldQueueCapacity
    let worldDrainBudget ← v.field "world_drain_budget" 2 Value.count? d.worldDrainBudget
    let tickIntervalMs ← v.field "tick_interval_ms" 3 Value.count? d.tickIntervalMs
    let logoutGraceSecs ← v.field "logout_grace_secs" 4 Value.count? d.logoutGraceSecs
    let strictManifest ← v.field "strict_manifest" 5 Value.flag? d.strictManifest
    some ⟨workerPermits, worldQueueCapacity, worldDrainBudget, tickIntervalMs, logoutGraceSecs,
      strictManifest⟩
  else none

/-- How many fields there are. -/
def fieldCount : Nat := 6

/-- The settings in a JSON value; a list may not have more items than there are fields. -/
def ofJson? (v : Json) : Option Dispatch :=
  match v with
  | .array items => if items.length ≤ fieldCount then ofValue? (.ofJson v) else none
  | _ => ofValue? (.ofJson v)

/-- The settings as lines of a file, on a machine with some processors. -/
def fileLines (s : Dispatch) (processors : Nat) : List String :=
  ["[dispatch]",
    "worker_permits = " ++ Text.decimal (s.permits processors),
    "world_queue_capacity = " ++ Text.decimal s.worldQueueCapacity,
    "world_drain_budget = " ++ Text.decimal s.worldDrainBudget,
    "tick_interval_ms = " ++ Text.decimal s.tickIntervalMs,
    "logout_grace_secs = " ++ Text.decimal s.logoutGraceSecs,
    "strict_manifest = " ++ (if s.strictManifest then "true" else "false")]

end Dispatch
end Settings
end PacketDispatch
