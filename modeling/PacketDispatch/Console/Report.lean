import PacketDispatch.Engine.Tally
import PacketDispatch.Json.Basic
import PacketDispatch.Manifest.Load
import PacketDispatch.Replay.Basic
import PacketDispatch.Table.Summary
import PacketDispatch.Text.Numeral

/-!
# Reports

What the command line prints, as JSON: a descriptor, a table with the failures of its manifest, and
the counts of a replay.
-/

namespace PacketDispatch

/-- A summary of a table; what does not occur is left out. -/
def Table.Summary.toJson (s : Table.Summary) : Json :=
  .ofMembers [
    ("total", .ofNat s.total),
    ("client", .ofNat s.client),
    ("server", .ofNat s.server),
    ("by_status", .ofMembers (s.byRequirement.entries.map fun p => (p.1, .ofNat p.2))),
    ("by_concurrency", .ofMembers (s.byLane.entries.map fun p => (p.1, .ofNat p.2)))]

/-- A tally. -/
def Tally.toJson (t : Tally) : Json :=
  .ofMembers [
    ("received", .ofNat t.received),
    ("completed", .ofNat t.completed),
    ("scheduled", .ofNat t.scheduled),
    ("ignored", .ofNat t.ignored),
    ("handler_failures", .ofNat t.handlerFailures),
    ("unknown", .ofNat t.unknown),
    ("denied", .ofNat t.denied),
    ("decode_failures", .ofNat t.decodeFailures),
    ("saturated", .ofNat t.saturated),
    ("sessions_gone", .ofNat t.sessionsGone),
    ("drops_by_opcode",
      .ofMembers (t.drops.map fun d => (Text.decimal d.1.toNat, .ofNat d.2)))]

/-- The counts of a replay. -/
def Replay.Summary.toJson (s : Replay.Summary) : Json :=
  .ofMembers [
    ("records", .ofNat s.records),
    ("sessions", .ofNat s.sessions),
    ("completed", .ofNat s.completed),
    ("scheduled", .ofNat s.scheduled),
    ("ignored", .ofNat s.ignored),
    ("handler_failed", .ofNat s.handlerFailed),
    ("dropped", .ofNat s.dropped),
    ("skipped", .ofNat s.skipped)]

/-- What a table says of an opcode: its label, and what is registered under it. -/
def Table.description (t : Table σ) (id : Opcode) : Json :=
  let heading := [("label", Json.ofText (t.label id)), ("id", .ofNat id.toNat)]
  match t.lookup id with
  | none => .ofMembers heading
  | some d =>
    .ofMembers (heading ++ [
      ("name", .ofText d.name),
      ("direction", .ofText d.origin.name),
      ("status", .ofText d.requirement.text),
      ("concurrency", .ofText d.lane.text),
      ("handler", .ofText d.handler.name)])

/-- The table of a manifest and what went wrong in loading it. -/
def Manifest.Load.overview (l : Manifest.Load σ) : Json :=
  .ofMembers [
    ("table", l.table.summary.toJson),
    ("registered", .ofNat l.registered),
    ("failures", .array (l.failures.map fun f => .ofText f.message)),
    ("direction_mismatches", .array (l.mismatches.map fun id => .ofText (l.table.label id)))]

/-- The counts of a replay and of the engine that it ran on. -/
def Replay.Run.report (r : Replay.Run) : Json :=
  .ofMembers [
    ("replay", r.summary.toJson),
    ("stats", r.world.engine.scene.tally.toJson)]

end PacketDispatch
