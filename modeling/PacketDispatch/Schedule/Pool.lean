import PacketDispatch.Schedule.WorldQueue

/-!
# The worker pool

A job that the pool accepts holds a permit until it has ended. It waits for a thread, runs, and
ends; closing the pool refuses later jobs and cancels none.

The permits are those of a counting semaphore and the threads are those for blocking work, both of
the runtime library. What they do is taken from its documentation: an attempt to take a permit does
not wait, and finds the semaphore closed before it finds it empty; a permit that is dropped goes
back, however its job ended; closing the semaphore takes no permit back; a job that is handed to the
threads is run once, when one of them is free. What the pool adds is the order of things: a job gets
its permit before it is handed over and keeps it until it has ended, and the two ways in which there
is none become the two refusals.
-/

namespace PacketDispatch

/-- A job on a pool thread: its call has been made and `ended` says how, but it keeps its permit and
its thread until it is let go; one that lingers waits to be told. -/
structure Running (J ε : Type) where
  job : J
  ended : JobEnd ε
  lingers : Bool

/-- A pool: the permits it was made with, those that are free, and the accepted jobs that have not
ended, oldest first. The free permits and whether it is open are the state of the semaphore, the
jobs that of the threads. -/
structure Pool (J ε : Type) where
  capacity : Nat
  free : Nat
  isOpen : Bool
  waiting : List J
  running : List (Running J ε)

namespace Pool

/-- An open pool without jobs. -/
def start (permits : Nat) : Pool J ε :=
  ⟨permits, permits, true, [], []⟩

/-- An open pool without jobs, with a number of permits that must not be too large for the
semaphore. A pool without permits refuses every job. -/
def create (permits : Nat) : Except SizeFault (Pool J ε) :=
  if maxSize < permits then .error .tooLarge else .ok (start permits)

/-- How many accepted jobs have not ended. -/
def unfinished (p : Pool J ε) : Nat :=
  p.waiting.length + p.running.length

/-- A job takes a permit and waits for a thread, unless the pool is closed or, being open, has no
permit left. That closed comes first is the semaphore's answer; the pool turns it into a refusal, or
hands the job over together with its permit. -/
def spawn (p : Pool J ε) (job : J) : Except ScheduleError (Pool J ε) :=
  if !p.isOpen then .error .closed
  else if p.free = 0 then .error .saturated
  else .ok { p with free := p.free - 1, waiting := p.waiting ++ [job] }

/-- The waiting job at a place, and the pool in which it no longer waits. Which job is next is up to
the threads. -/
def take? (p : Pool J ε) (place : Nat) : Option (J × Pool J ε) :=
  match p.waiting[place]? with
  | some job => some (job, { p with waiting := p.waiting.eraseIdx place })
  | none => none

/-- A job that no longer waits is on a thread. -/
def run (p : Pool J ε) (job : J) (ended : JobEnd ε) (lingers : Bool) : Pool J ε :=
  { p with running := p.running ++ [⟨job, ended, lingers⟩] }

/-- The running job at a place, and the pool after it has ended and given its permit back: the pool
lets the permit end with the job, and the semaphore counts what is dropped as free. -/
def finish? (p : Pool J ε) (place : Nat) : Option (Running J ε × Pool J ε) :=
  match p.running[place]? with
  | some r =>
    some (r, { p with free := p.free + 1, running := p.running.eraseIdx place })
  | none => none

/-- Jobs that linger are told to go on. -/
def release (p : Pool J ε) : Pool J ε :=
  { p with running := p.running.map fun r => { r with lingers := false } }

/-- How many running jobs linger. -/
def lingering (p : Pool J ε) : Nat :=
  p.running.countP fun r => r.lingers

/-- The pool takes no more jobs: its semaphore is closed, which leaves the permits where they
are. -/
def close (p : Pool J ε) : Pool J ε :=
  { p with isOpen := false }

end Pool
end PacketDispatch
