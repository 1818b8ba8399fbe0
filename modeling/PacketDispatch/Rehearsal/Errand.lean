import PacketDispatch.Journal
import PacketDispatch.Schedule.Ticking

/-!
# Errands

Scripted jobs for a world queue without an engine. An errand marks that it runs, pushes further
errands and marks how that went, and ends as it is told.
-/

namespace PacketDispatch
namespace Rehearsal

/-- How an errand ends: like any job, or by breaking out of the pass. -/
inductive Finale
  | ends (e : JobEnd Unit)
  | breaksOut
  deriving DecidableEq, Repr

/-- A scripted job: its number, how it ends, and the errands that it pushes before that. -/
inductive Errand
  | mk (number : Nat) (finale : Finale) (next : List Errand)

namespace Errand

/-- The number of an errand. -/
def number : Errand → Nat
  | .mk number _ _ => number

/-- How an errand ends. -/
def finale : Errand → Finale
  | .mk _ finale _ => finale

/-- The errands that an errand pushes. -/
def next : Errand → List Errand
  | .mk _ _ next => next

mutual

/-- How many errands there are in an errand, itself included. -/
def size : Errand → Nat
  | .mk _ _ next => 1 + sizeAll next

/-- How many errands there are in a list of them. -/
def sizeAll : List Errand → Nat
  | [] => 0
  | e :: rest => size e + sizeAll rest

end

/-- What the marks say of a push. -/
def pushText : Except ScheduleError (WorldQueue Errand) → String
  | .ok _ => "ok"
  | .error error => error.message

/-- Errands are pushed one after another; each push is marked. -/
def pushAll (q : WorldQueue Errand) : List Errand → WorldQueue Errand × List Remark
  | [] => (q, [])
  | e :: rest =>
    let pushed := q.push e
    let mark := Remark.mark ("push " ++ Text.decimal e.number ++ " " ++ pushText pushed)
    let (q, marks) := pushAll (pushed.toOption.getD q) rest
    (q, mark :: marks)

/-- What the report of a broken pass says. -/
def brokenText : String := "job panicked"

/-- An errand runs; what it writes is added to what was written before. -/
def run : JobRunner Errand (List Remark) Unit :=
  fun e q written =>
    let (q, marks) := pushAll q e.next
    let written := written ++ .mark ("run " ++ Text.decimal e.number) :: marks
    match e.finale with
    | .ends ended => ⟨q, written, .ok ended⟩
    | .breaksOut => ⟨q, written, .error brokenText⟩

/-- Lines are written. -/
def note (lines : List Line) (written : List Remark) : List Remark :=
  written ++ lines.map .line

/-- The errands that wait and all that they may push: no more ticks are needed to settle. -/
def outstanding (q : WorldQueue Errand) : Nat :=
  sizeAll q.pending

end Errand

/-- The marks among remarks. -/
def marksOf (remarks : List Remark) : List String :=
  remarks.filterMap fun r =>
    match r with
    | .mark text => some text
    | .line _ => none

/-- The log lines among remarks. -/
def linesOf (remarks : List Remark) : List String :=
  remarks.filterMap fun r =>
    match r with
    | .line l => some l.render
    | .mark _ => none

/-- A world loop over errands. -/
abbrev ErrandLoop := WorldLoop Errand (List Remark)

namespace ErrandLoop

/-- A loop over an empty queue. -/
def start (budget capacity : Nat) : Except SizeFault ErrandLoop :=
  (WorldQueue.create capacity).map fun q => WorldLoop.start budget q []

/-- An errand is pushed. -/
def push (l : ErrandLoop) (e : Errand) : Except ScheduleError Unit × ErrandLoop :=
  match l.queue.push e with
  | .ok q => (.ok (), { l with queue := q })
  | .error error => (.error error, l)

/-- Errands are pushed one after another. -/
def pushAll (l : ErrandLoop) : List Errand → List (Except ScheduleError Unit) × ErrandLoop
  | [] => ([], l)
  | e :: rest =>
    let (result, l) := l.push e
    let (results, l) := pushAll l rest
    (result :: results, l)

/-- A pass with a budget of its own, outside of any tick. -/
def pass (l : ErrandLoop) (budget : Nat) : Except String PassReport × ErrandLoop :=
  let p := l.queue.pass Errand.run budget l.state
  match p.broken with
  | some reason => (.error reason, { l with queue := p.queue, state := p.state })
  | none =>
    (.ok p.report,
      { l with queue := p.queue, state := Errand.note (p.report.budgetLines budget) p.state })

/-- A tick. -/
def tickOnce (l : ErrandLoop) : Except String PassReport × ErrandLoop :=
  let t := l.tick Errand.run Errand.note
  (t.result, t.loop)

/-- Ticks until nothing waits, or an errand breaks out. -/
def settleAll (l : ErrandLoop) : ErrandLoop × Option String :=
  l.settle Errand.run Errand.note (Errand.outstanding l.queue)

/-- The queue is closed and what waits is run. -/
def stop (l : ErrandLoop) : ErrandLoop × Option String :=
  l.shutDown Errand.run Errand.note (Errand.outstanding l.queue)

/-- The queue takes no more errands. -/
def close (l : ErrandLoop) : ErrandLoop :=
  { l with queue := l.queue.close }

end ErrandLoop
end Rehearsal
end PacketDispatch
