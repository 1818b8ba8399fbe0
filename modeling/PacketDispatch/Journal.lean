/-!
# The journal

What a run writes down for whoever watches it: log lines with a level, and the marks that handlers
leave when they keep a trace of their calls.
-/

namespace PacketDispatch

/-- How much a log line matters. -/
inductive Level
  | trace
  | debug
  | info
  | warn
  | error
  deriving DecidableEq, Repr

/-- The word of a level in front of its lines. -/
def Level.text : Level → String
  | .trace => "TRACE"
  | .debug => "DEBUG"
  | .info => "INFO"
  | .warn => "WARN"
  | .error => "ERROR"

/-- One log line. -/
structure Line where
  level : Level
  text : String
  deriving DecidableEq, Repr

/-- The line with its level in front. -/
def Line.render (l : Line) : String :=
  l.level.text ++ " " ++ l.text

/-- An entry of the journal: a log line, or the mark that a handler leaves of a call. -/
inductive Remark
  | line (l : Line)
  | mark (text : String)
  deriving DecidableEq, Repr

/-- Where an entry was written: on the thread that dispatches and ticks, or on a pool thread. -/
inductive Thread
  | caller
  | pool
  deriving DecidableEq, Repr

/-- An entry with the thread it was written on. -/
structure Note where
  thread : Thread
  remark : Remark
  deriving DecidableEq, Repr

namespace Note

/-- The log line of an entry. -/
def line? (n : Note) : Option Line :=
  match n.remark with
  | .line l => some l
  | .mark _ => none

/-- The mark of an entry. -/
def mark? (n : Note) : Option String :=
  match n.remark with
  | .mark text => some text
  | .line _ => none

/-- The marks of a journal, oldest first. -/
def marks (notes : List Note) : List String :=
  notes.filterMap mark?

/-- The log lines of one thread, oldest first. -/
def linesOn (thread : Thread) (notes : List Note) : List String :=
  (notes.filter fun n => n.thread = thread).filterMap fun n => n.line?.map Line.render

/-- The log lines as they are shown: those of the calling thread in order, then those of the pool,
which have no order among themselves, sorted by their text. -/
def shown (notes : List Note) : List String :=
  linesOn .caller notes ++ (linesOn .pool notes).mergeSort fun a b => a ≤ b

end Note
end PacketDispatch
