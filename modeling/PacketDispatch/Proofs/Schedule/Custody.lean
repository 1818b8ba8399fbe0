import PacketDispatch.Proofs.Schedule.Passing
import Mathlib.Data.List.Infix

/-!
# The custody of jobs in the world queue

A world queue in service: jobs are pushed, the world thread drains the queue in passes, and at some
time it is closed.  While a job runs, jobs may be pushed, by it or by others.  A log keeps what was
done to the queue, each entry with the queue that it left; the jobs that wait are those of the log
that were accepted and not taken yet, in their order.
-/

namespace PacketDispatch

variable {J ε : Type}

namespace WorldQueue

variable {q q' : WorldQueue J} {job : J}

theorem push_eq_ok_iff : q.push job = .ok q' ↔
    q.isOpen = true ∧ q.pending.length < q.capacity ∧
      q' = { q with pending := q.pending ++ [job] } := by
  unfold push size
  cases q.isOpen with
  | false => simp
  | true =>
      by_cases hfull : q.capacity ≤ q.pending.length
      · simp [hfull, Nat.not_lt.mpr hfull]
      · simp [hfull, Nat.not_le.mp hfull, eq_comm]

theorem exists_push_eq_ok_iff :
    (∃ q', q.push job = .ok q') ↔ q.isOpen = true ∧ q.pending.length < q.capacity := by
  simp only [push_eq_ok_iff]
  exact ⟨fun ⟨_, hopen, hroom, _⟩ => ⟨hopen, hroom⟩, fun ⟨hopen, hroom⟩ => ⟨_, hopen, hroom, rfl⟩⟩

/-- An open queue is saturated when it is full. -/
theorem push_eq_saturated_iff :
    q.push job = .error .saturated ↔ q.isOpen = true ∧ q.capacity ≤ q.pending.length := by
  unfold push size
  cases q.isOpen with
  | false => simp
  | true => by_cases hfull : q.capacity ≤ q.pending.length <;> simp [hfull]

/-- A closed queue refuses as closed, whether or not it is full. -/
theorem push_eq_closed_iff : q.push job = .error .closed ↔ q.isOpen = false := by
  unfold push size
  cases q.isOpen with
  | false => simp
  | true => by_cases hfull : q.capacity ≤ q.pending.length <;> simp [hfull]

end WorldQueue

/-! ## The log of a queue -/

/-- What is done to a queue: a job is pushed, with the answer to that, the world thread takes a job
to run it, or the queue is closed. -/
inductive Deed (J : Type)
  | pushed (job : J) (answer : Except ScheduleError Unit)
  | took (job : J)
  | closed

namespace Deed

/-- The job that a deed put into the queue. -/
def accepted? : Deed J → Option J
  | .pushed job (.ok _) => some job
  | _ => none

/-- The job that a deed took from the queue. -/
def taken? : Deed J → Option J
  | .took job => some job
  | _ => none

/-- The deed closed the queue. -/
def closes : Deed J → Bool
  | .closed => true
  | _ => false

end Deed

/-- A deed with the queue that it left. -/
structure Entry (J : Type) where
  deed : Deed J
  queue : WorldQueue J

namespace Entry

variable (log : List (Entry J)) (e : Entry J)

/-- The jobs that were accepted, in their order. -/
def accepted : List J :=
  log.filterMap fun e => e.deed.accepted?

/-- The jobs that were taken to run, in their order. -/
def taken : List J :=
  log.filterMap fun e => e.deed.taken?

/-- The jobs that were accepted and not taken yet, in their order. -/
def waiting : List J :=
  (accepted log).drop (taken log).length

/-- The queue has been closed. -/
def hasClosed : Bool :=
  log.any fun e => e.deed.closes

@[simp] theorem accepted_append (rest : List (Entry J)) :
    accepted (log ++ rest) = accepted log ++ accepted rest :=
  List.filterMap_append

@[simp] theorem taken_append (rest : List (Entry J)) :
    taken (log ++ rest) = taken log ++ taken rest :=
  List.filterMap_append

@[simp] theorem accepted_singleton : accepted [e] = e.deed.accepted?.toList := by
  cases h : e.deed.accepted? <;> simp [accepted, h]

@[simp] theorem taken_singleton : taken [e] = e.deed.taken?.toList := by
  cases h : e.deed.taken? <;> simp [taken, h]

theorem hasClosed_concat : hasClosed (log ++ [e]) = (hasClosed log || e.deed.closes) := by
  simp [hasClosed]

/-- What was accepted and not taken is what waits. -/
theorem waiting_eq {log : List (Entry J)} {pending : List J}
    (h : taken log ++ pending = accepted log) : waiting log = pending := by
  rw [waiting, ← h, List.drop_left]

/-- An entry of a log with one more entry is that one or stands in the log. -/
theorem mem_concat_cases {log past future : List (Entry J)} {last e : Entry J}
    (h : log ++ [last] = past ++ e :: future) :
    (past = log ∧ e = last) ∨ ∃ earlier, log = past ++ e :: earlier := by
  rcases List.eq_nil_or_concat future with rfl | ⟨earlier, final, rfl⟩
  · obtain ⟨hlog, hlast⟩ := List.append_inj' h rfl
    exact Or.inl ⟨hlog.symm, (List.singleton_inj.mp hlast).symm⟩
  · rw [List.concat_eq_append, ← List.cons_append, ← List.append_assoc] at h
    exact Or.inr ⟨earlier, (List.append_inj' h rfl).1⟩

end Entry

open Entry

/-- What a push is answered when so many jobs wait. -/
structure Answers (capacity : Nat) (closed : Bool) (waiting : Nat)
    (answer : Except ScheduleError Unit) : Prop where
  ok : answer = .ok () ↔ closed = false ∧ waiting < capacity
  saturated : answer = .error .saturated ↔ closed = false ∧ waiting = capacity
  closed : answer = .error .closed ↔ closed = true

/-- An entry follows a log as it must: the queue that it left has the jobs that wait, no more than
there is room for, a job that was taken is the one that waited longest, and a push was answered by
whether the queue had been closed and how many jobs waited. -/
structure Entry.Lawful (capacity : Nat) (past : List (Entry J)) (e : Entry J) : Prop where
  pending : e.queue.pending = waiting (past ++ [e])
  bounded : e.queue.pending.length ≤ capacity
  took : ∀ job, e.deed = .took job → (waiting past).head? = some job
  answered : ∀ job answer, e.deed = .pushed job answer →
    Answers capacity (hasClosed past) (waiting past).length answer

/-! ## A queue in service -/

/-- What is pushed while a job runs, and how the job comes out in the end. What is pushed next may
depend on the answers so far. -/
inductive Conduct (J ε : Type)
  | ends (ended : Except String (JobEnd ε))
  | pushes (job : J) (next : Except ScheduleError Unit → Conduct J ε)

/-- What may happen to a queue between jobs: a push, a pass with a budget, a part of a pass, and
closing. -/
inductive QueueEvent (J : Type)
  | push (job : J)
  | drain (budget : Nat)
  | proceed (limit : Nat)
  | close

/-- The event is a whole pass. -/
def QueueEvent.isDrain : QueueEvent J → Bool
  | .drain _ => true
  | _ => false

/-- A queue with the log of what was done to it. -/
structure QueueService (J : Type) where
  queue : WorldQueue J
  log : List (Entry J)

namespace QueueService

/-- A queue before its first event. -/
def opening (capacity : Nat) : QueueService J :=
  ⟨WorldQueue.empty capacity, []⟩

/-- A deed is done and leaves a queue. -/
def record (s : QueueService J) (deed : Deed J) (queue : WorldQueue J) : QueueService J :=
  ⟨queue, s.log ++ [⟨deed, queue⟩]⟩

/-- A job is pushed, with the answer to that. -/
def push (s : QueueService J) (job : J) : Except ScheduleError Unit × QueueService J :=
  match s.queue.push job with
  | .ok queue => (.ok (), s.record (.pushed job (.ok ())) queue)
  | .error error => (.error error, s.record (.pushed job (.error error)) s.queue)

/-- The world thread takes a job and leaves the rest. -/
def take (s : QueueService J) (job : J) (rest : List J) : QueueService J :=
  s.record (.took job) { s.queue with pending := rest }

/-- The queue is closed. -/
def close (s : QueueService J) : QueueService J :=
  s.record .closed s.queue.close

/-- What is pushed while a job runs is pushed, one job after another. -/
def play (s : QueueService J) : Conduct J ε → Except String (JobEnd ε) × QueueService J
  | .ends ended => (ended, s)
  | .pushes job next => (s.push job).2.play (next (s.push job).1)

/-- Jobs run as their conducts say, which may depend on the job and on all that was done before. -/
def runner (conduct : List (Entry J) → J → Conduct J ε) : JobRunner J (List (Entry J)) ε :=
  fun job q log =>
    let played := QueueService.play ⟨q, log ++ [⟨.took job, q⟩]⟩ (conduct log job)
    ⟨played.2.queue, played.2.log, played.1⟩

/-- What a pass leaves, or a part of one. -/
def ofPass (p : Pass J (List (Entry J)) ε) : QueueService J :=
  ⟨p.queue, p.state⟩

/-- One event. -/
def step (conduct : List (Entry J) → J → Conduct J ε) (s : QueueService J) :
    QueueEvent J → QueueService J
  | .push job => (s.push job).2
  | .drain budget => ofPass (s.queue.pass (runner conduct) budget s.log)
  | .proceed limit => ofPass (s.queue.runUpTo (runner conduct) limit s.log)
  | .close => s.close

/-- Events happen one after another. -/
def run (conduct : List (Entry J) → J → Conduct J ε) (s : QueueService J)
    (events : List (QueueEvent J)) : QueueService J :=
  events.foldl (step conduct) s

variable (conduct : List (Entry J) → J → Conduct J ε) {s s' : QueueService J}

/-- A pass is a part of a pass that may take as many jobs as the pass. -/
theorem step_drain (s : QueueService J) (budget : Nat) :
    s.step conduct (.drain budget) =
      s.step conduct (.proceed (WorldQueue.passLimit budget s.queue)) := rfl

/-- The oldest job is taken and runs; if it does not break out, the pass goes on. -/
theorem runUpTo_of_pending_cons {job : J} {rest : List J} (limit : Nat)
    (h : s.queue.pending = job :: rest) :
    s.queue.runUpTo (runner conduct) (limit + 1) s.log =
      let played := (s.take job rest).play (conduct s.log job)
      match played.1 with
      | .error reason => ⟨played.2.queue, played.2.log, [], some reason⟩
      | .ok e =>
        let p := played.2.queue.runUpTo (runner conduct) limit played.2.log
        { p with ran := (job, e) :: p.ran } := by
  have hpop : s.queue.pop? = some (job, { s.queue with pending := rest }) := by
    simp [WorldQueue.pop?, h]
  rw [WorldQueue.runUpTo, hpop]
  rfl

/-- A part of a pass does nothing, or takes the oldest job; then it is over or goes on. -/
theorem proceed_succ_cases (s : QueueService J) (limit : Nat) :
    s.queue.pending = [] ∧ s.step conduct (.proceed (limit + 1)) = s ∨
      ∃ job rest, s.queue.pending = job :: rest ∧
        let played := (s.take job rest).play (conduct s.log job)
        (s.step conduct (.proceed (limit + 1)) = played.2 ∨
          s.step conduct (.proceed (limit + 1)) = played.2.step conduct (.proceed limit)) := by
  cases hpending : s.queue.pending with
  | nil =>
      refine Or.inl ⟨rfl, ?_⟩
      rw [step, WorldQueue.runUpTo_of_pending_nil _ _ _ hpending]
      rfl
  | cons job rest =>
      refine Or.inr ⟨job, rest, rfl, ?_⟩
      simp only [step, runUpTo_of_pending_cons conduct limit hpending]
      cases ((s.take job rest).play (conduct s.log job)).1 with
      | error reason => exact Or.inl rfl
      | ok ended => exact Or.inr rfl

/-! ### What lasts between closings -/

/-- A property that lasts while jobs are pushed and taken. -/
structure Lasts (P : QueueService J → Prop) : Prop where
  push : ∀ s job, P s → P (s.push job).2
  take : ∀ s job rest, s.queue.pending = job :: rest → P s → P (s.take job rest)

namespace Lasts

variable {P : QueueService J → Prop}

theorem play (lasts : Lasts P) (c : Conduct J ε) (h : P s) : P (s.play c).2 := by
  induction c generalizing s with
  | ends ended => exact h
  | pushes job next ih => exact ih (s.push job).1 (lasts.push s job h)

theorem proceed (lasts : Lasts P) (limit : Nat) (h : P s) :
    P (s.step conduct (.proceed limit)) := by
  induction limit generalizing s with
  | zero => exact h
  | succ limit ih =>
      rcases s.proceed_succ_cases conduct limit with
        ⟨-, hsame⟩ | ⟨job, rest, hpending, hbroken | hgoesOn⟩
      · rw [hsame]
        exact h
      · rw [hbroken]
        exact lasts.play _ (lasts.take s job rest hpending h)
      · rw [hgoesOn]
        exact ih (lasts.play _ (lasts.take s job rest hpending h))

/-- What also survives closing survives every event. -/
theorem step (lasts : Lasts P) (close : ∀ s, P s → P s.close) (event : QueueEvent J) (h : P s) :
    P (s.step conduct event) := by
  cases event with
  | push job => exact lasts.push s job h
  | drain budget => exact step_drain conduct s budget ▸ lasts.proceed conduct _ h
  | proceed limit => exact lasts.proceed conduct limit h
  | close => exact close s h

theorem run (lasts : Lasts P) (close : ∀ s, P s → P s.close) (events : List (QueueEvent J))
    (h : P s) : P (s.run conduct events) :=
  List.foldlRecOn (motive := P) events (QueueService.step conduct) h
    fun _ hs event _ => lasts.step conduct close event hs

end Lasts

/-! ### Custody -/

theorem answers_push (job : J) (h : s.queue.pending.length ≤ s.queue.capacity) :
    Answers s.queue.capacity (!s.queue.isOpen) s.queue.pending.length (s.push job).1 := by
  unfold push
  split
  · rename_i queue hpush
    obtain ⟨hopen, hroom, -⟩ := WorldQueue.push_eq_ok_iff.mp hpush
    constructor <;> simp [hopen, hroom, hroom.ne]
  · rename_i error hpush
    cases error with
    | saturated =>
        obtain ⟨hopen, hfull⟩ := WorldQueue.push_eq_saturated_iff.mp hpush
        constructor <;> simp [hopen, Nat.le_antisymm h hfull]
    | closed =>
        have hclosed := WorldQueue.push_eq_closed_iff.mp hpush
        constructor <;> simp [hclosed]

/-- What a queue in service keeps: its capacity and whether it was closed, the jobs that wait are
those that were accepted and not taken, they are no more than there is room for, and every entry of
the log follows the earlier ones as it must. -/
structure Kept (capacity : Nat) (s : QueueService J) : Prop where
  sized : s.queue.capacity = capacity
  isOpen : s.queue.isOpen = !hasClosed s.log
  pending : taken s.log ++ s.queue.pending = accepted s.log
  bounded : s.queue.pending.length ≤ capacity
  lawful : ∀ past e future, s.log = past ++ e :: future → e.Lawful capacity past

namespace Kept

variable {capacity : Nat}

theorem opening (capacity : Nat) : Kept capacity (opening capacity : QueueService J) where
  sized := rfl
  isOpen := rfl
  pending := rfl
  bounded := Nat.zero_le capacity
  lawful := by simp [QueueService.opening]

/-- A deed is in order if the queue keeps the jobs it had, with the one that was accepted and
without the one that was taken. -/
theorem record (h : Kept capacity s) {deed : Deed J} {queue : WorldQueue J}
    (hcapacity : queue.capacity = s.queue.capacity)
    (hopen : queue.isOpen = (s.queue.isOpen && !deed.closes))
    (hpending : deed.taken?.toList ++ queue.pending =
      s.queue.pending ++ deed.accepted?.toList)
    (hbounded : queue.pending.length ≤ capacity)
    (hanswered : ∀ job answer, deed = .pushed job answer →
      Answers capacity (!s.queue.isOpen) s.queue.pending.length answer) :
    Kept capacity (s.record deed queue) := by
  have hlog : taken (s.log ++ [⟨deed, queue⟩]) ++ queue.pending =
      accepted (s.log ++ [⟨deed, queue⟩]) := by
    rw [taken_append, accepted_append, taken_singleton, accepted_singleton, List.append_assoc,
      hpending, ← List.append_assoc, h.pending]
  refine ⟨hcapacity.trans h.sized, ?_, hlog, hbounded, ?_⟩
  · simp only [QueueService.record, hasClosed_concat, hopen, h.isOpen, Bool.not_or]
  · intro past e future hsplit
    rcases mem_concat_cases hsplit with ⟨rfl, rfl⟩ | ⟨earlier, hearlier⟩
    · -- The new entry: what waited before it is what the queue still had then.
      have hwaiting : waiting s.log = s.queue.pending := waiting_eq h.pending
      have hclosed : hasClosed s.log = !s.queue.isOpen := by simp [h.isOpen]
      refine ⟨(waiting_eq hlog).symm, hbounded, fun job hjob => ?_, fun job answer hdeed => ?_⟩
      · obtain rfl : deed = .took job := hjob
        have hfirst : job :: queue.pending = s.queue.pending := by
          simpa [Deed.taken?, Deed.accepted?] using hpending
        rw [hwaiting, ← hfirst, List.head?_cons]
      · rw [hwaiting, hclosed]
        exact hanswered job answer hdeed
    · exact h.lawful past e earlier hearlier

theorem push (h : Kept capacity s) (job : J) : Kept capacity (s.push job).2 := by
  have hbounded := h.bounded
  have hanswers := answers_push job (h.sized.symm ▸ h.bounded)
  rw [h.sized] at hanswers
  unfold QueueService.push at hanswers ⊢
  split at hanswers
  · rename_i queue hpush
    obtain ⟨-, hroom, rfl⟩ := WorldQueue.push_eq_ok_iff.mp hpush
    rw [h.sized] at hroom
    refine h.record rfl (by simp [Deed.closes]) rfl (by simpa using Nat.succ_le_of_lt hroom) ?_
    rintro _ _ ⟨⟩
    exact hanswers
  · refine h.record rfl (by simp [Deed.closes]) (by simp [Deed.taken?, Deed.accepted?])
      hbounded ?_
    rintro _ _ ⟨⟩
    exact hanswers

theorem take (h : Kept capacity s) {job : J} {rest : List J}
    (hpending : s.queue.pending = job :: rest) : Kept capacity (s.take job rest) := by
  have hbounded := h.bounded
  rw [hpending, List.length_cons] at hbounded
  refine h.record rfl (by simp [Deed.closes]) ?_ (Nat.le_of_succ_le hbounded) nofun
  simp [hpending, Deed.taken?, Deed.accepted?]

theorem close (h : Kept capacity s) : Kept capacity s.close :=
  h.record rfl (by simp [Deed.closes, WorldQueue.close])
    (by simp [Deed.taken?, Deed.accepted?, WorldQueue.close]) h.bounded nofun

theorem run (h : Kept capacity s) (events : List (QueueEvent J)) :
    Kept capacity (s.run conduct events) :=
  Lasts.run conduct ⟨fun _ job hs => hs.push job, fun _ _ _ hpending hs => hs.take hpending⟩
    (fun _ hs => hs.close) events h

end Kept

/-! ### Closing -/

theorem isOpen_push (s : QueueService J) (job : J) :
    (s.push job).2.queue.isOpen = s.queue.isOpen := by
  unfold push
  split
  · rename_i queue hpush
    rw [(WorldQueue.push_eq_ok_iff.mp hpush).2.2]
    rfl
  · rfl

/-- Nothing but closing closes a queue. -/
theorem lasts_isOpen (isOpen : Bool) :
    Lasts fun s : QueueService J => s.queue.isOpen = isOpen where
  push s job h := (s.isOpen_push job).trans h
  take _ _ _ _ h := h

theorem isOpen_step (s : QueueService J) (event : QueueEvent J) :
    (s.step conduct event).queue.isOpen = true ↔ s.queue.isOpen = true ∧ event ≠ .close := by
  cases event with
  | push job => simp [step, isOpen_push]
  | drain budget =>
      simp [step_drain, (lasts_isOpen s.queue.isOpen).proceed conduct _ rfl]
  | proceed limit =>
      simp [(lasts_isOpen s.queue.isOpen).proceed conduct limit rfl]
  | close => simp [step, close, record, WorldQueue.close]

/-- A queue is open as long as nobody has closed it. -/
theorem isOpen_run (s : QueueService J) (events : List (QueueEvent J)) :
    (s.run conduct events).queue.isOpen = true ↔ s.queue.isOpen = true ∧ .close ∉ events := by
  induction events generalizing s with
  | nil => simp [run]
  | cons event events ih =>
      refine (ih (s.step conduct event)).trans ?_
      rw [isOpen_step, List.mem_cons, not_or, and_assoc, ne_comm]

/-- A closed queue winds down: it stays closed, only keeps jobs that waited, and accepts none. -/
structure Winds (s s' : QueueService J) : Prop where
  closed : s'.queue.isOpen = false
  pending : s'.queue.pending <:+ s.queue.pending
  log : ∃ since, s'.log = s.log ++ since ∧ accepted since = []

namespace Winds

theorem refl (h : s.queue.isOpen = false) : Winds s s :=
  ⟨h, List.suffix_rfl, [], (List.append_nil s.log).symm, rfl⟩

/-- One more deed that accepts nothing. -/
theorem record (h : Winds s s') {deed : Deed J} {queue : WorldQueue J}
    (hclosed : queue.isOpen = false) (hpending : queue.pending <:+ s'.queue.pending)
    (hdeed : deed.accepted? = none) : Winds s (s'.record deed queue) := by
  obtain ⟨since, hlog, hsince⟩ := h.log
  refine ⟨hclosed, hpending.trans h.pending, since ++ [⟨deed, queue⟩], ?_, ?_⟩
  · simp [QueueService.record, hlog]
  · simp [hsince, hdeed]

theorem lasts (s : QueueService J) : Lasts (Winds s) where
  push s' job h := by
    have hpush : s'.queue.push job = .error .closed :=
      WorldQueue.push_eq_closed_iff.mpr h.closed
    simp only [QueueService.push, hpush]
    exact h.record h.closed List.suffix_rfl rfl
  take s' job rest hpending h := by
    refine h.record h.closed ?_ rfl
    rw [hpending]
    exact List.suffix_cons job rest

theorem close (h : Winds s s') : Winds s s'.close :=
  h.record rfl List.suffix_rfl rfl

/-- A pass over a closed queue takes a job, if one waits. -/
theorem length_drain (h : s.queue.isOpen = false) (budget : Nat) :
    (s.step conduct (.drain budget)).queue.pending.length ≤ s.queue.pending.length - 1 := by
  have hlasts := (lasts s).step conduct (fun _ hs => hs.close) (.drain budget) (refl h)
  cases hpending : s.queue.pending with
  | nil => simpa [hpending] using hlasts.pending.length_le
  | cons job rest =>
      obtain ⟨limit, hlimit⟩ :=
        WorldQueue.exists_passLimit_eq_succ (q := s.queue) budget (by simp [hpending])
      have htaken : Winds (s.take job rest) (s.take job rest) := refl h
      rw [step_drain, hlimit]
      rcases s.proceed_succ_cases conduct limit with
        ⟨hnone, -⟩ | ⟨job', rest', hfirst, hcases⟩
      · simp [hpending] at hnone
      · obtain ⟨rfl, rfl⟩ := List.cons.inj (hpending.symm.trans hfirst)
        have hplayed := (lasts _).play (conduct s.log job) htaken
        rcases hcases with hbroken | hgoesOn
        · rw [hbroken]
          exact hplayed.pending.length_le
        · rw [hgoesOn]
          exact ((lasts _).proceed conduct limit hplayed).pending.length_le

/-- A closed queue is empty after as many passes as there were jobs in it. -/
theorem pending_run {later : List (QueueEvent J)} (h : s.queue.isOpen = false)
    (hdrains : s.queue.pending.length ≤ later.countP QueueEvent.isDrain) :
    (s.run conduct later).queue.pending = [] := by
  induction later generalizing s with
  | nil => exact List.length_eq_zero_iff.mp (Nat.le_zero.mp hdrains)
  | cons event later ih =>
      have hnext := (lasts s).step conduct (fun _ hs => hs.close) event (refl h)
      refine ih hnext.closed ?_
      cases event with
      | drain budget =>
          have hless := length_drain conduct h budget
          simp only [List.countP_cons, QueueEvent.isDrain, if_true] at hdrains
          omega
      | push _ | proceed _ | close =>
          simp only [List.countP_cons, QueueEvent.isDrain] at hdrains
          exact hnext.pending.length_le.trans hdrains

end Winds

/-! ### Nothing is lost -/

/-- A refused push changes nothing but the log, to which it adds no accepted job. -/
theorem push_of_refused {job : J} {error : ScheduleError}
    (h : s.queue.push job = .error error) :
    s.push job = (.error error, s.record (.pushed job (.error error)) s.queue) := by
  simp only [push, h]

/-- Whatever is pushed, run and closed, also while jobs run, no more jobs wait than there is room
for. A job is accepted exactly when the queue was never closed and has room, refused as saturated
when it was never closed and is full, and refused as closed once it was closed, full or not. A
refused push leaves the queue as it was. The jobs that were taken to run, and then those that wait,
are the accepted ones in their order, so none runs twice and no refused one runs; this holds after
every single deed, and each took the job that had waited longest. Once the queue is closed, as many
passes as jobs wait run each of these once, and nothing else. -/
theorem queue_bounded_and_lossless (capacity : Nat) (conduct : List (Entry J) → J → Conduct J ε)
    (events : List (QueueEvent J)) :
    let s := (opening capacity).run conduct events
    s.queue.pending.length ≤ capacity ∧
      taken s.log ++ s.queue.pending = accepted s.log ∧
      (∀ job, (∃ q, s.queue.push job = .ok q) ↔
        .close ∉ events ∧ s.queue.pending.length < capacity) ∧
      (∀ job, s.queue.push job = .error .saturated ↔
        .close ∉ events ∧ s.queue.pending.length = capacity) ∧
      (∀ job, s.queue.push job = .error .closed ↔ .close ∈ events) ∧
      (∀ job error, s.queue.push job = .error error →
        s.push job = (.error error, s.record (.pushed job (.error error)) s.queue)) ∧
      (∀ past e future, s.log = past ++ e :: future → e.Lawful capacity past) ∧
      (.close ∈ events → ∀ later : List (QueueEvent J),
        s.queue.pending.length ≤ later.countP QueueEvent.isDrain →
          ∃ since, (s.run conduct later).log = s.log ++ since ∧ accepted since = [] ∧
            taken since = s.queue.pending ∧ (s.run conduct later).queue.pending = []) := by
  intro s
  have kept : Kept capacity s := (Kept.opening capacity).run conduct events
  have hopen : s.queue.isOpen = true ↔ .close ∉ events :=
    ((opening capacity).isOpen_run conduct events).trans (and_iff_right rfl)
  have hclosed : s.queue.isOpen = false ↔ .close ∈ events := by
    rw [← Bool.not_eq_true, hopen, not_not]
  refine ⟨kept.bounded, kept.pending, fun job => ?_, fun job => ?_, fun job => ?_,
    fun job error => push_of_refused, kept.lawful, fun hclose later hdrains => ?_⟩
  · rw [WorldQueue.exists_push_eq_ok_iff, hopen, kept.sized]
  · rw [WorldQueue.push_eq_saturated_iff, hopen, kept.sized, kept.bounded.ge_iff_eq]
  · rw [WorldQueue.push_eq_closed_iff, hclosed]
  · have hwinds : Winds s (s.run conduct later) :=
      (Winds.lasts s).run conduct (fun _ hs => hs.close) later (Winds.refl (hclosed.mpr hclose))
    have hempty := Winds.pending_run conduct (hclosed.mpr hclose) hdrains
    obtain ⟨since, hlog, hsince⟩ := hwinds.log
    refine ⟨since, hlog, hsince, ?_, hempty⟩
    have hlater := (kept.run conduct later).pending
    rw [hempty, List.append_nil, hlog, taken_append, accepted_append, hsince, List.append_nil,
      ← kept.pending] at hlater
    exact List.append_cancel_left hlater

/-- Job 0 pushes job 7, and job 1 breaks out of its pass. -/
def pushingConduct : List (Entry Nat) → Nat → Conduct Nat Unit
  | _, 0 => .pushes 7 fun _ => .ends (.ok .completed)
  | _, 1 => .ends (.error "")
  | _, _ => .ends (.ok .completed)

/-- Room for two jobs: the third comes too early, and the queue is closed when it is full again. -/
def fullEvents : List (QueueEvent Nat) :=
  [.push 0, .push 1, .push 2, .drain 1, .close]

theorem queue_bounded_and_lossless_full :
    let s := (opening 2).run pushingConduct fullEvents
    taken s.log = [0] ∧ s.queue.pending = [1, 7] ∧ accepted s.log = [0, 1, 7] ∧
      s.queue.push 9 = .error .closed ∧
      s.push 9 = (.error .closed, s.record (.pushed 9 (.error .closed)) s.queue) ∧
      ∃ since, (s.run pushingConduct [.drain 0, .push 9, .drain 0]).log = s.log ++ since ∧
        accepted since = [] ∧ taken since = [1, 7] := by
  intro s
  obtain ⟨-, -, -, -, hclosed, hrefused, -, hlater⟩ :=
    queue_bounded_and_lossless 2 pushingConduct fullEvents
  have hclose : .close ∈ fullEvents := by simp [fullEvents]
  have hpush : s.queue.push 9 = .error .closed := (hclosed 9).mpr hclose
  obtain ⟨since, hlog, haccepted, htaken, -⟩ :=
    hlater hclose [.drain 0, .push 9, .drain 0] (by decide)
  exact ⟨rfl, rfl, rfl, hpush, hrefused 9 .closed hpush, since, hlog, haccepted, htaken⟩

end QueueService
end PacketDispatch
