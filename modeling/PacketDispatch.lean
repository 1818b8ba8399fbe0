import PacketDispatch.Console.Arguments
import PacketDispatch.Console.Basic
import PacketDispatch.Console.Report
import PacketDispatch.Engine.Background
import PacketDispatch.Engine.Basic
import PacketDispatch.Engine.Outcome
import PacketDispatch.Engine.Scene
import PacketDispatch.Engine.Tally
import PacketDispatch.Gate
import PacketDispatch.Handler.Basic
import PacketDispatch.Handler.Bindings
import PacketDispatch.Journal
import PacketDispatch.Json.Basic
import PacketDispatch.Json.Parser
import PacketDispatch.Json.Printer
import PacketDispatch.Main
import PacketDispatch.Manifest.Load
import PacketDispatch.Manifest.Production
import PacketDispatch.Manifest.Production.Page0
import PacketDispatch.Manifest.Production.Page1
import PacketDispatch.Manifest.Production.Page2
import PacketDispatch.Manifest.Production.Page3
import PacketDispatch.Manifest.Production.Page4
import PacketDispatch.Manifest.Production.Page5
import PacketDispatch.Manifest.Row
import PacketDispatch.Opcode
import PacketDispatch.Proofs.Console.Building
import PacketDispatch.Proofs.Engine.Agreement
import PacketDispatch.Proofs.Engine.Arrival
import PacketDispatch.Proofs.Engine.Awaiting
import PacketDispatch.Proofs.Engine.Calls
import PacketDispatch.Proofs.Engine.Caught
import PacketDispatch.Proofs.Engine.Clients
import PacketDispatch.Proofs.Engine.Counters
import PacketDispatch.Proofs.Engine.Draining
import PacketDispatch.Proofs.Engine.Drops
import PacketDispatch.Proofs.Engine.Gauge
import PacketDispatch.Proofs.Engine.Journal
import PacketDispatch.Proofs.Engine.Placement
import PacketDispatch.Proofs.Engine.Precedence
import PacketDispatch.Proofs.Engine.Presence
import PacketDispatch.Proofs.Engine.Resizing
import PacketDispatch.Proofs.Engine.Rest
import PacketDispatch.Proofs.Engine.Unseen
import PacketDispatch.Proofs.Handler.Preparation
import PacketDispatch.Proofs.Handler.Resolution
import PacketDispatch.Proofs.Manifest.Loading
import PacketDispatch.Proofs.Manifest.Production
import PacketDispatch.Proofs.Opcode.Grammar
import PacketDispatch.Proofs.Opcode.Labels
import PacketDispatch.Proofs.Replay.Accounting
import PacketDispatch.Proofs.Replay.Completion
import PacketDispatch.Proofs.Replay.Conversation
import PacketDispatch.Proofs.Replay.Course
import PacketDispatch.Proofs.Replay.Forecast
import PacketDispatch.Proofs.Replay.Interleaving
import PacketDispatch.Proofs.Replay.Roster
import PacketDispatch.Proofs.Replay.Sizing
import PacketDispatch.Proofs.Replay.Skipping
import PacketDispatch.Proofs.Replay.Turns
import PacketDispatch.Proofs.Schedule.Custody
import PacketDispatch.Proofs.Schedule.Mapped
import PacketDispatch.Proofs.Schedule.Outstanding
import PacketDispatch.Proofs.Schedule.Passing
import PacketDispatch.Proofs.Schedule.Permits
import PacketDispatch.Proofs.Session.Coherence
import PacketDispatch.Proofs.Session.Grace
import PacketDispatch.Proofs.Session.History
import PacketDispatch.Proofs.Table.Census
import PacketDispatch.Proofs.Table.Firsts
import PacketDispatch.Proofs.Table.Registration
import PacketDispatch.Proofs.Table.Sentinel
import PacketDispatch.Proofs.Text.Numerals
import PacketDispatch.Proofs.Text.Trimming
import PacketDispatch.Proofs.Traffic.Balance
import PacketDispatch.Proofs.Traffic.Basic
import PacketDispatch.Proofs.Traffic.Breaking
import PacketDispatch.Proofs.Traffic.Bystanders
import PacketDispatch.Proofs.Traffic.Continuation
import PacketDispatch.Proofs.Traffic.Deferral
import PacketDispatch.Proofs.Traffic.Delivery
import PacketDispatch.Proofs.Traffic.Departure
import PacketDispatch.Proofs.Traffic.Dropping
import PacketDispatch.Proofs.Traffic.Installation
import PacketDispatch.Proofs.Traffic.Ledger
import PacketDispatch.Proofs.Traffic.Order
import PacketDispatch.Proofs.Traffic.Reckoning
import PacketDispatch.Proofs.Traffic.Spoofing
import PacketDispatch.Proofs.Wire.Bounds
import PacketDispatch.Proofs.Wire.Failing
import PacketDispatch.Proofs.Wire.LittleEndian
import PacketDispatch.Proofs.Wire.Packing
import PacketDispatch.Proofs.Wire.Positions
import PacketDispatch.Proofs.Wire.ReadBack
import PacketDispatch.Proofs.Wire.Text
import PacketDispatch.Proofs.Wire.Trailing
import PacketDispatch.Proofs.World.Conduct
import PacketDispatch.Proofs.World.Decoding
import PacketDispatch.Proofs.World.Journal
import PacketDispatch.Proofs.World.Packets
import PacketDispatch.Proofs.World.Prospects
import PacketDispatch.Proofs.World.Settling
import PacketDispatch.Proofs.World.Ticking
import PacketDispatch.Proofs.World.Turns
import PacketDispatch.Proofs.World.Verdict
import PacketDispatch.Rehearsal.Errand
import PacketDispatch.Rehearsal.FileTree
import PacketDispatch.Rehearsal.Script
import PacketDispatch.Rehearsal.Stage
import PacketDispatch.Rehearsal.Town
import PacketDispatch.Replay.Basic
import PacketDispatch.Replay.Record
import PacketDispatch.Schedule.Pool
import PacketDispatch.Schedule.Size
import PacketDispatch.Schedule.Ticking
import PacketDispatch.Schedule.WorldQueue
import PacketDispatch.Session.Id
import PacketDispatch.Session.Login
import PacketDispatch.Session.Phase
import PacketDispatch.Settings.Basic
import PacketDispatch.Settings.Dispatch
import PacketDispatch.Settings.Logging
import PacketDispatch.Settings.Value
import PacketDispatch.Table.Basic
import PacketDispatch.Table.Summary
import PacketDispatch.Text.Base64
import PacketDispatch.Text.Blank
import PacketDispatch.Text.Numeral
import PacketDispatch.Text.Quoted
import PacketDispatch.Text.Shown
import PacketDispatch.Toml.Basic
import PacketDispatch.Toml.Lexeme
import PacketDispatch.Toml.Number
import PacketDispatch.Toml.Parser
import PacketDispatch.Toml.Tree
import PacketDispatch.Wire.Envelope
import PacketDispatch.Wire.Packet
import PacketDispatch.Wire.Reader
import PacketDispatch.World.Basic
import PacketDispatch.World.Handlers
import PacketDispatch.World.Session
