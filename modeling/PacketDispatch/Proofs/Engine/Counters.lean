import PacketDispatch.Engine.Tally

/-!
# The counters

An outcome moves two counters of a tally, and the end of a job moves one.  A dropped message is also
counted for its opcode, when a table could hold that opcode.
-/

namespace PacketDispatch

/-- The counters of a tally, but for those of single opcodes. -/
inductive Counter
  | received
  | completed
  | scheduled
  | ignored
  | handlerFailures
  | unknown
  | denied
  | decodeFailures
  | saturated
  | sessionsGone
  deriving DecidableEq, Repr

/-- The counter of messages dropped for a reason. -/
def DropReason.counter : DropReason → Counter
  | .unknownOpcode _ => .unknown
  | .denied _ _ _ _ => .denied
  | .undecodable _ _ => .decodeFailures
  | .saturated _ _ => .saturated

/-- The counter of messages with an outcome. -/
def Outcome.counter : Outcome → Counter
  | .completed => .completed
  | .scheduled _ => .scheduled
  | .ignored => .ignored
  | .handlerFailed _ => .handlerFailures
  | .dropped reason => reason.counter

/-- The counter of jobs with an end. -/
def JobEnd.counter : JobEnd HandlerError → Counter
  | .completed => .completed
  | .failed _ => .handlerFailures
  | .sessionGone => .sessionsGone

/-- The counters that the ends of jobs move. -/
def Counter.ofJobs : List Counter :=
  [.completed, .handlerFailures, .sessionsGone]

namespace JobEnd

variable (ended : JobEnd HandlerError)

theorem isCompleted_eq : ended.isCompleted = decide (ended.counter = .completed) := by
  cases ended <;> rfl

theorem isFailed_eq : ended.isFailed = decide (ended.counter = .handlerFailures) := by
  cases ended <;> rfl

theorem isGone_eq : ended.isGone = decide (ended.counter = .sessionsGone) := by
  cases ended <;> rfl

end JobEnd

namespace Tally

/-- What a counter says. -/
def count (c : Tally) : Counter → Nat
  | .received => c.received
  | .completed => c.completed
  | .scheduled => c.scheduled
  | .ignored => c.ignored
  | .handlerFailures => c.handlerFailures
  | .unknown => c.unknown
  | .denied => c.denied
  | .decodeFailures => c.decodeFailures
  | .saturated => c.saturated
  | .sessionsGone => c.sessionsGone

/-- How many drops a list has for an opcode. -/
def dropsIn (id : Opcode) : List (Opcode × Nat) → Nat
  | [] => 0
  | (k, n) :: rest => (if k = id then n else 0) + dropsIn id rest

/-- How often messages of an opcode were dropped. -/
def dropsOf (c : Tally) (id : Opcode) : Nat :=
  dropsIn id c.drops

variable (c : Tally)

@[simp] theorem count_countDrop (id : Opcode) (k : Counter) :
    (c.countDrop id).count k = c.count k := by
  unfold countDrop
  split <;> cases k <;> rfl

theorem count_countReason (reason : DropReason) (k : Counter) :
    (c.countReason reason).count k = c.count k + if k = reason.counter then 1 else 0 := by
  cases reason <;> cases k <;> rfl

/-- An outcome moves the counter of received messages and its own, and no other. -/
theorem count_recordOutcome (id : Opcode) (outcome : Outcome) (k : Counter) :
    (c.recordOutcome id outcome).count k =
      c.count k + if k = .received ∨ k = outcome.counter then 1 else 0 := by
  cases outcome with
  | dropped reason =>
      rw [recordOutcome, count_countReason, count_countDrop]
      cases reason <;> cases k <;> rfl
  | completed | scheduled lane | ignored | handlerFailed error => cases k <;> rfl

/-- The end of a job moves its own counter and no other. -/
theorem count_recordJob (ended : JobEnd HandlerError) (k : Counter) :
    (c.recordJob ended).count k = c.count k + if k = ended.counter then 1 else 0 := by
  cases ended <;> cases k <;> rfl

/-! ## Drops of single opcodes -/

/-- One more drop for an opcode is one more for it, wherever the list has it, and none for
another. -/
theorem dropsIn_bump (id other : Opcode) (drops : List (Opcode × Nat)) :
    dropsIn other (bump id drops) = dropsIn other drops + if other = id then 1 else 0 := by
  induction drops with
  | nil => simp [bump, dropsIn, eq_comm]
  | cons p rest ih =>
      obtain ⟨k, n⟩ := p
      -- The list need not be sorted: a second entry for the opcode counts like the first.
      by_cases hk : k = id
      · subst hk
        by_cases h : other = k
        · simp only [bump, dropsIn, h, if_true]
          omega
        · simp [bump, dropsIn, h, Ne.symm h]
      · by_cases hlt : id.toNat < k.toNat
        · simp only [bump, dropsIn, hk, hlt, if_true, if_false, eq_comm (a := id)]
          omega
        · simp only [bump, dropsIn, hk, hlt, if_false, ih]
          omega

@[simp] theorem dropsOf_countReason (reason : DropReason) (id : Opcode) :
    (c.countReason reason).dropsOf id = c.dropsOf id := by
  cases reason <;> rfl

theorem dropsOf_countDrop (id other : Opcode) :
    (c.countDrop id).dropsOf other =
      c.dropsOf other + if other = id ∧ id.toNat < opcodeLimit then 1 else 0 := by
  unfold countDrop
  split
  · rename_i hlimit
    simpa [dropsOf, hlimit] using dropsIn_bump id other c.drops
  · rename_i hlimit
    simp [hlimit]

/-- Only a drop is counted for an opcode, and only for the opcode of the message, when a table could
hold it. -/
theorem dropsOf_recordOutcome (id other : Opcode) (outcome : Outcome) :
    (c.recordOutcome id outcome).dropsOf other =
      c.dropsOf other +
        if outcome.isDropped = true ∧ other = id ∧ id.toNat < opcodeLimit then 1 else 0 := by
  cases outcome with
  | dropped reason =>
      rw [recordOutcome, dropsOf_countReason, dropsOf_countDrop]
      simp only [Outcome.isDropped, true_and]
      rfl
  | completed | scheduled lane | ignored | handlerFailed error => rfl

end Tally
end PacketDispatch
