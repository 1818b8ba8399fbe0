import Mathlib.Data.List.Nodup
import PacketDispatch.Proofs.Engine.Counters
import PacketDispatch.Replay.Basic

/-!
# The books of a replay

A replay keeps a list of its sessions, a log of the messages it dispatched and a summary of their
outcomes.  The sessions have different numbers and sit in the order in which they began, each knows
how many of the messages in the log are its own, and the summary counts the outcomes in the log.
-/

namespace PacketDispatch

/-- An outcome is of one of the five kinds that a summary counts. -/
theorem Outcome.kinds (outcome : Outcome) :
    (if outcome.counter = .completed then 1 else 0) +
      (if outcome.counter = .scheduled then 1 else 0) +
      (if outcome.counter = .ignored then 1 else 0) +
      (if outcome.counter = .handlerFailures then 1 else 0) +
      (if outcome.isDropped then 1 else 0) = 1 := by
  cases outcome with
  | dropped reason => cases reason <;> rfl
  | completed | scheduled lane | ignored | handlerFailed error => rfl

namespace Replay

/-! ## Sessions -/

/-- The numbers of the sessions, in the order in which they began. -/
def numbersOf (members : List Member) : List UInt32 :=
  members.map Member.number

/-- The sessions of a replay fit its log. -/
structure Roster (members : List Member) (log : List Dispatched) : Prop where
  nodup : (numbersOf members).Nodup
  places : ∀ m ∈ members, (numbersOf members)[m.ref]? = some m.number
  sent : ∀ m ∈ members, m.sent = log.countP fun d => d.record.session = m.number

theorem numbersOf_append (members : List Member) (m : Member) :
    numbersOf (members ++ [m]) = numbersOf members ++ [m.number] := by
  simp [numbersOf]

@[simp] theorem length_numbersOf (members : List Member) :
    (numbersOf members).length = members.length :=
  List.length_map _

theorem number_mem_numbersOf {members : List Member} {m : Member} (h : m ∈ members) :
    m.number ∈ numbersOf members :=
  List.mem_map_of_mem h

/-- A session after one more message of some session. -/
def Member.countSent (number : UInt32) (m : Member) : Member :=
  if m.number = number then { m with sent := m.sent + 1 } else m

@[simp] theorem Member.number_countSent (number : UInt32) (m : Member) :
    (m.countSent number).number = m.number := by
  unfold countSent
  split <;> rfl

@[simp] theorem Member.ref_countSent (number : UInt32) (m : Member) :
    (m.countSent number).ref = m.ref := by
  unfold countSent
  split <;> rfl

theorem Member.sent_countSent (number : UInt32) (m : Member) :
    (m.countSent number).sent = m.sent + if number = m.number then 1 else 0 := by
  unfold countSent
  by_cases h : m.number = number
  · rw [if_pos h, if_pos h.symm]
  · rw [if_neg h, if_neg (Ne.symm h)]
    rfl

@[simp] theorem numbersOf_map_countSent (number : UInt32) (members : List Member) :
    numbersOf (members.map (Member.countSent number)) = numbersOf members := by
  simp [numbersOf, Function.comp_def]

namespace Roster

variable {members : List Member} {log : List Dispatched}

theorem empty : Roster [] [] :=
  ⟨List.nodup_nil, nofun, nofun⟩

/-- Two sessions at one place have one number. -/
theorem ref_eq_iff (h : Roster members log) {m k : Member} (hm : m ∈ members)
    (hk : k ∈ members) : m.ref = k.ref ↔ m.number = k.number := by
  have hplace := h.places m hm
  constructor
  · intro href
    rw [href, h.places k hk] at hplace
    exact (Option.some.inj hplace).symm
  · intro hnumber
    rw [hnumber, ← h.places k hk] at hplace
    have hlt := (List.getElem?_eq_some_iff.mp (h.places k hk)).1
    exact ((List.getElem?_inj hlt h.nodup).mp hplace.symm).symm

/-- A session that begins takes the next place, and none of the messages is its own. -/
theorem enroll (h : Roster members log) {number : UInt32} (new : number ∉ numbersOf members)
    (unsent : ∀ d ∈ log, d.record.session ≠ number) :
    Roster (members ++ [⟨number, members.length, 0⟩]) log := by
  refine ⟨?_, ?_, ?_⟩
  · rw [numbersOf_append]
    exact List.nodup_append.mpr ⟨h.nodup, List.nodup_singleton _, by
      intro n hn k hk
      rw [List.mem_singleton.mp hk]
      rintro rfl
      exact new hn⟩
  · intro m hm
    rw [numbersOf_append]
    rcases List.mem_append.mp hm with hold | hnew
    · have hplace := h.places m hold
      rw [List.getElem?_append_left (List.getElem?_eq_some_iff.mp hplace).1]
      exact hplace
    · obtain rfl := List.mem_singleton.mp hnew
      rw [List.getElem?_append_right (Nat.le_of_eq (length_numbersOf members))]
      simp
  · intro m hm
    rcases List.mem_append.mp hm with hold | hnew
    · exact h.sent m hold
    · obtain rfl := List.mem_singleton.mp hnew
      refine (List.countP_eq_zero.mpr ?_).symm
      intro d hd
      simpa using unsent d hd

/-- One more message in the log is one more for its session. -/
theorem send (h : Roster members log) (d : Dispatched) :
    Roster (members.map (Member.countSent d.record.session)) (log ++ [d]) := by
  refine ⟨?_, ?_, ?_⟩
  · rw [numbersOf_map_countSent]
    exact h.nodup
  · intro m hm
    obtain ⟨m, hold, rfl⟩ := List.mem_map.mp hm
    rw [numbersOf_map_countSent, Member.ref_countSent, Member.number_countSent]
    exact h.places m hold
  · intro m hm
    obtain ⟨m, hold, rfl⟩ := List.mem_map.mp hm
    rw [Member.sent_countSent, Member.number_countSent, List.countP_append, ← h.sent m hold,
      List.countP_singleton]
    simp only [decide_eq_true_eq]

end Roster

/-- The session with a number is found among those that began, or it begins now. -/
theorem Run.member_cases (r : Run) (number : UInt32) (grace : Nat) :
    (∃ m ∈ r.members, m.number = number ∧ r.member number grace = (m, r)) ∨
      number ∉ numbersOf r.members ∧
        r.member number grace =
          (⟨number, r.world.engine.scene.seats.length, 0⟩,
            { r with
              world := { r.world with
                engine := (r.world.engine.connect
                  ⟨SessionId.ofNumber number.toNat, number, Login.authed grace⟩).2 }
              members := r.members ++ [⟨number, r.world.engine.scene.seats.length, 0⟩] }) := by
  cases hfound : r.members.find? fun m => m.number == number with
  | some m =>
      refine Or.inl ⟨m, List.mem_of_find?_eq_some hfound, ?_, ?_⟩
      · simpa using List.find?_some hfound
      · simp only [Run.member, hfound]
  | none =>
      refine Or.inr ⟨?_, ?_⟩
      · intro hmem
        obtain ⟨m, hm, rfl⟩ := List.mem_map.mp hmem
        simpa using List.find?_eq_none.mp hfound m hm
      · simp only [Run.member, hfound]
        rfl

/-- The sessions after that are those before and the one with the number. -/
theorem Run.member_numbers (r : Run) (number : UInt32) (grace : Nat) (n : UInt32) :
    n ∈ numbersOf (r.member number grace).2.members ↔
      n ∈ numbersOf r.members ∨ n = number := by
  rcases r.member_cases number grace with ⟨m, hm, rfl, hmember⟩ | ⟨-, hmember⟩
  · rw [hmember]
    refine ⟨Or.inl, ?_⟩
    rintro (hn | rfl)
    · exact hn
    · exact number_mem_numbersOf hm
  · rw [hmember, numbersOf_append, List.mem_append, List.mem_singleton]

theorem Run.member_summary (r : Run) (number : UInt32) (grace : Nat) :
    (r.member number grace).2.summary = r.summary := by
  rcases r.member_cases number grace with ⟨m, -, -, hmember⟩ | ⟨-, hmember⟩ <;> rw [hmember]

theorem Run.member_log (r : Run) (number : UInt32) (grace : Nat) :
    (r.member number grace).2.log = r.log := by
  rcases r.member_cases number grace with ⟨m, -, -, hmember⟩ | ⟨-, hmember⟩ <;> rw [hmember]

/-! ## The summary -/

attribute [ext] Summary

@[simp] theorem Summary.skipped_count (summary : Summary) (outcome : Outcome) :
    (summary.count outcome).skipped = summary.skipped := by
  cases outcome <;> rfl

/-- A summary counts the outcomes in a log. -/
structure Summary.Tells (summary : Summary) (log : List Dispatched) : Prop where
  completed : summary.completed = log.countP fun d => d.outcome.counter = .completed
  scheduled : summary.scheduled = log.countP fun d => d.outcome.counter = .scheduled
  ignored : summary.ignored = log.countP fun d => d.outcome.counter = .ignored
  handlerFailed : summary.handlerFailed =
    log.countP fun d => d.outcome.counter = .handlerFailures
  dropped : summary.dropped = log.countP fun d => d.outcome.isDropped

namespace Summary.Tells

variable {summary : Summary} {log : List Dispatched}

theorem zero : Tells .zero [] :=
  ⟨rfl, rfl, rfl, rfl, rfl⟩

theorem count (h : Tells summary log) (d : Dispatched) :
    Tells (summary.count d.outcome) (log ++ [d]) := by
  obtain ⟨record, sequence, outcome⟩ := d
  cases outcome with
  | dropped reason =>
      cases reason <;>
        exact ⟨by simp [Summary.count, h.completed, Outcome.counter, DropReason.counter],
          by simp [Summary.count, h.scheduled, Outcome.counter, DropReason.counter],
          by simp [Summary.count, h.ignored, Outcome.counter, DropReason.counter],
          by simp [Summary.count, h.handlerFailed, Outcome.counter, DropReason.counter],
          by simp [Summary.count, h.dropped, Outcome.isDropped]⟩
  | completed | scheduled lane | ignored | handlerFailed error =>
      exact ⟨by simp [Summary.count, h.completed, Outcome.counter],
        by simp [Summary.count, h.scheduled, Outcome.counter],
        by simp [Summary.count, h.ignored, Outcome.counter],
        by simp [Summary.count, h.handlerFailed, Outcome.counter],
        by simp [Summary.count, h.dropped, Outcome.isDropped]⟩

/-- Every message is counted for its outcome. -/
theorem sum_eq_length (h : Tells summary log) :
    summary.completed + summary.scheduled + summary.ignored + summary.handlerFailed +
      summary.dropped = log.length := by
  rw [h.completed, h.scheduled, h.ignored, h.handlerFailed, h.dropped]
  clear h
  induction log with
  | nil => rfl
  | cons d rest ih =>
      have hkinds := d.outcome.kinds
      simp only [List.countP_cons, List.length_cons, decide_eq_true_eq]
      omega

end Summary.Tells
end Replay
end PacketDispatch
