import PacketDispatch.Schedule.Size

/-!
# The world queue

A bounded queue of jobs that the world thread runs in order, a pass at a time. A job is accepted or
refused at once; closing the queue refuses later jobs and keeps those that wait. A pass without a
budget runs the jobs that wait when it starts, and none that are pushed while it runs.

The queue is a bounded channel of the runtime library. What `create`, `size`, `isEmpty`, `push`,
`pop?` and `close` do is taken from its documentation: sending and receiving do not wait; an attempt
to send finds the channel closed before it finds it full; what is sent is received once, in the
order of sending; a channel that is closed at its receiving end still gives out what it holds. The
refusals, the limit of a pass, its loop and its report are the queue's own.
-/

namespace PacketDispatch

/-- Why a job is refused. -/
inductive ScheduleError
  | saturated
  | closed
  deriving DecidableEq, Repr

/-- The wording of a refusal. -/
def ScheduleError.message : ScheduleError → String
  | .saturated => "Scheduler is at capacity"
  | .closed => "Scheduler has shut down"

/-- Jobs that wait, oldest first, with the room there is for them. -/
structure WorldQueue (J : Type) where
  capacity : Nat
  isOpen : Bool
  pending : List J

namespace WorldQueue

/-- An open queue without jobs. -/
def empty (capacity : Nat) : WorldQueue J :=
  ⟨capacity, true, []⟩

/-- An open queue without jobs, of a capacity that must be neither zero nor too large for the
channel. -/
def create (capacity : Nat) : Except SizeFault (WorldQueue J) :=
  if capacity = 0 then .error .noRoom
  else if maxSize < capacity then .error .tooLarge
  else .ok (empty capacity)

/-- How many jobs wait. -/
def size (q : WorldQueue J) : Nat :=
  q.pending.length

/-- No job waits. -/
def isEmpty (q : WorldQueue J) : Bool :=
  q.pending.isEmpty

/-- A job goes to the end, unless the queue is closed or, being open, full. That closed comes first
is the channel's answer, which the queue turns into a refusal. -/
def push (q : WorldQueue J) (job : J) : Except ScheduleError (WorldQueue J) :=
  if !q.isOpen then .error .closed
  else if q.capacity ≤ q.size then .error .saturated
  else .ok { q with pending := q.pending ++ [job] }

/-- The oldest job and the queue without it: what an attempt to receive gives, also on a channel
that is closed. -/
def pop? (q : WorldQueue J) : Option (J × WorldQueue J) :=
  match q.pending with
  | [] => none
  | job :: rest => some (job, { q with pending := rest })

/-- The queue takes no more jobs: its channel is closed at the receiving end, and keeps what it
holds. -/
def close (q : WorldQueue J) : WorldQueue J :=
  { q with isOpen := false }

end WorldQueue

/-- How a job ends. -/
inductive JobEnd (ε : Type)
  | completed
  | failed (error : ε)
  | sessionGone
  deriving DecidableEq, Repr

namespace JobEnd

/-- The job completed. -/
def isCompleted : JobEnd ε → Bool
  | .completed => true
  | _ => false

/-- The job failed. -/
def isFailed : JobEnd ε → Bool
  | .failed _ => true
  | _ => false

/-- The job was discarded because its session was gone. -/
def isGone : JobEnd ε → Bool
  | .sessionGone => true
  | _ => false

end JobEnd

/-- What running a job leaves: the queue, which the job may have pushed to, the state around it, and
its end, or the reason why it broke out of the pass. -/
structure Ran (J S ε : Type) where
  queue : WorldQueue J
  state : S
  ended : Except String (JobEnd ε)

/-- How jobs run in a state around the queue. -/
abbrev JobRunner (J S ε : Type) : Type :=
  J → WorldQueue J → S → Ran J S ε

/-- What a pass leaves: the queue and the state, the jobs that ended with their ends, oldest first,
and the reason why a job broke out of the pass, if one did. -/
structure Pass (J S ε : Type) where
  queue : WorldQueue J
  state : S
  ran : List (J × JobEnd ε)
  broken : Option String

namespace WorldQueue

/-- Jobs run from the front until `limit` of them have run, none waits, or one breaks out. -/
def runUpTo (run : JobRunner J S ε) : Nat → WorldQueue J → S → Pass J S ε
  | 0, q, s => ⟨q, s, [], none⟩
  | limit + 1, q, s =>
    match q.pop? with
    | none => ⟨q, s, [], none⟩
    | some (job, q') =>
      let r := run job q' s
      match r.ended with
      | .error reason => ⟨r.queue, r.state, [], some reason⟩
      | .ok e =>
        let p := runUpTo run limit r.queue r.state
        { p with ran := (job, e) :: p.ran }

/-- How many jobs a pass may run: its budget, or without one the jobs that wait at its start. -/
def passLimit (budget : Nat) (q : WorldQueue J) : Nat :=
  if budget = 0 then q.size else budget

/-- A pass over the queue. A budget of zero is no budget. -/
def pass (run : JobRunner J S ε) (budget : Nat) (q : WorldQueue J) (s : S) : Pass J S ε :=
  runUpTo run (passLimit budget q) q s

end WorldQueue

/-- The counts of a pass. -/
structure PassReport where
  executed : Nat
  completed : Nat
  failed : Nat
  sessionsGone : Nat
  remaining : Nat
  deriving DecidableEq, Repr

/-- The report of a pass that no job broke out of. -/
def Pass.report (p : Pass J S ε) : PassReport where
  executed := p.ran.length
  completed := p.ran.countP fun r => r.2.isCompleted
  failed := p.ran.countP fun r => r.2.isFailed
  sessionsGone := p.ran.countP fun r => r.2.isGone
  remaining := p.queue.size

end PacketDispatch
