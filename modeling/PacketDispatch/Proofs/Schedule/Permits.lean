import PacketDispatch.Schedule.Pool
import Mathlib.Data.List.Perm.Basic

/-!
# The permits of the pool

A pool in service: jobs are spawned, threads take them up and end them, and at some time the pool is
closed.  A job that is accepted holds a permit until it has ended, whichever way it ends, so free
permits and unfinished jobs always add up to the permits that the pool was made with.  What happens
is any list of events; beside the pool a run keeps its history.
-/

namespace PacketDispatch

variable {J ε : Type}

/-! ## Operations -/

namespace Pool

variable {p p' : Pool J ε} {job : J} {place : Nat} {r : Running J ε}

/-- Free permits and accepted jobs that have not ended are all permits. -/
def Balanced (p : Pool J ε) : Prop :=
  p.free + p.unfinished = p.capacity

/-- What changes when a job is accepted: it takes a permit and waits. -/
structure Accepts (p : Pool J ε) (job : J) (p' : Pool J ε) : Prop where
  isOpen : p.isOpen = true
  permit : 0 < p.free
  result : p' = { p with free := p.free - 1, waiting := p.waiting ++ [job] }

theorem spawn_eq_ok_iff : p.spawn job = .ok p' ↔ p.Accepts job p' := by
  unfold spawn
  constructor
  · intro h
    split at h
    · cases h
    · split at h
      · cases h
      · rename_i hopen hfree
        exact ⟨by simpa using hopen, Nat.pos_of_ne_zero hfree, (Except.ok.inj h).symm⟩
  · rintro ⟨hopen, hpermit, rfl⟩
    simp [hopen, Nat.ne_of_gt hpermit]

theorem exists_spawn_eq_ok_iff :
    (∃ p', p.spawn job = .ok p') ↔ p.isOpen = true ∧ 0 < p.free := by
  simp only [spawn_eq_ok_iff]
  exact ⟨fun ⟨_, h⟩ => ⟨h.isOpen, h.permit⟩, fun ⟨hopen, hpermit⟩ => ⟨_, hopen, hpermit, rfl⟩⟩

/-- An open pool is saturated when it has no permit left. -/
theorem spawn_eq_saturated_iff :
    p.spawn job = .error .saturated ↔ p.isOpen = true ∧ p.free = 0 := by
  unfold spawn
  cases p.isOpen with
  | false => simp
  | true => by_cases h : p.free = 0 <;> simp [h]

/-- A closed pool refuses as closed, whether or not it has permits left. -/
theorem spawn_eq_closed_iff : p.spawn job = .error .closed ↔ p.isOpen = false := by
  unfold spawn
  cases p.isOpen with
  | false => simp
  | true => by_cases h : p.free = 0 <;> simp [h]

theorem Balanced.accepts (h : p.Balanced) (accepts : p.Accepts job p') : p'.Balanced := by
  obtain ⟨-, hpermit, rfl⟩ := accepts
  simp only [Balanced, unfinished, List.length_append, List.length_singleton] at h ⊢
  omega

/-- What changes when the waiting job at a place gets a thread. -/
structure Starts (p : Pool J ε) (place : Nat) (r : Running J ε) (p' : Pool J ε) : Prop where
  found : p.waiting[place]? = some r.job
  result : p' = { p with waiting := p.waiting.eraseIdx place, running := p.running ++ [r] }

theorem starts_of_take? {taken : Pool J ε} (h : p.take? place = some (job, taken))
    (ended : JobEnd ε) (lingers : Bool) :
    p.Starts place ⟨job, ended, lingers⟩ (taken.run job ended lingers) := by
  unfold take? at h
  split at h
  · rename_i found hfound
    obtain ⟨rfl, rfl⟩ := Prod.mk.inj (Option.some.inj h)
    exact ⟨hfound, rfl⟩
  · cases h

theorem Balanced.starts (h : p.Balanced) (starts : p.Starts place r p') : p'.Balanced := by
  obtain ⟨hfound, rfl⟩ := starts
  have hplace := (List.getElem?_eq_some_iff.mp hfound).1
  simp only [Balanced, unfinished, List.length_append, List.length_singleton,
    List.length_eraseIdx_of_lt hplace] at h ⊢
  omega

/-- What changes when the running job at a place ends: its permit is free again. -/
structure Ends (p : Pool J ε) (place : Nat) (r : Running J ε) (p' : Pool J ε) : Prop where
  found : p.running[place]? = some r
  result : p' = { p with free := p.free + 1, running := p.running.eraseIdx place }

theorem ends_of_finish? (h : p.finish? place = some (r, p')) : p.Ends place r p' := by
  unfold finish? at h
  split at h
  · rename_i found hfound
    obtain ⟨rfl, rfl⟩ := Prod.mk.inj (Option.some.inj h)
    exact ⟨hfound, rfl⟩
  · cases h

theorem Balanced.ends (h : p.Balanced) (ends : p.Ends place r p') : p'.Balanced := by
  obtain ⟨hfound, rfl⟩ := ends
  have hplace := (List.getElem?_eq_some_iff.mp hfound).1
  simp only [Balanced, unfinished, List.length_eraseIdx_of_lt hplace] at h ⊢
  omega

theorem balanced_start (permits : Nat) : (start permits : Pool J ε).Balanced := rfl

end Pool

/-! ## A pool in service -/

/-- What may happen to a pool. Threads take up waiting jobs at any place, and running jobs come to
their end in any order: a job ends as it should, or it breaks off. -/
inductive PoolEvent (J ε : Type)
  | spawn (job : J)
  | start (place : Nat) (ended : JobEnd ε) (lingers : Bool)
  | finish (place : Nat)
  | breakOff (place : Nat)
  | release
  | close

/-- The event is a thread's doing: nothing is spawned, and the pool is not closed. -/
def PoolEvent.byThread : PoolEvent J ε → Bool
  | .start _ _ _ | .finish _ | .breakOff _ => true
  | _ => false

/-- A pool with its history: the jobs it accepted, those it refused with the reasons, those that got
a thread, and those that came to their end. A job that broke off has no end of its own. -/
structure PoolService (J ε : Type) where
  pool : Pool J ε
  accepted : List J
  refused : List (J × ScheduleError)
  started : List J
  ended : List (J × Option (JobEnd ε))

namespace PoolService

/-- A pool before its first event. -/
def opening (permits : Nat) : PoolService J ε :=
  ⟨Pool.start permits, [], [], [], []⟩

/-- A job is spawned. -/
def spawn (s : PoolService J ε) (job : J) : PoolService J ε :=
  match s.pool.spawn job with
  | .ok p => { s with pool := p, accepted := s.accepted ++ [job] }
  | .error error => { s with refused := s.refused ++ [(job, error)] }

/-- The waiting job at a place gets a thread. -/
def start (s : PoolService J ε) (place : Nat) (ended : JobEnd ε) (lingers : Bool) :
    PoolService J ε :=
  match s.pool.take? place with
  | none => s
  | some (job, p) =>
      { s with pool := p.run job ended lingers, started := s.started ++ [job] }

/-- The running job at a place comes to its end; breaking off leaves nothing of the end it should
have had. -/
def finish (s : PoolService J ε) (place : Nat) (breaksOff : Bool) : PoolService J ε :=
  match s.pool.finish? place with
  | none => s
  | some (r, p) =>
      { s with
        pool := p
        ended := s.ended ++ [(r.job, if breaksOff then none else some r.ended)] }

/-- One event. -/
def step (s : PoolService J ε) : PoolEvent J ε → PoolService J ε
  | .spawn job => s.spawn job
  | .start place ended lingers => s.start place ended lingers
  | .finish place => s.finish place false
  | .breakOff place => s.finish place true
  | .release => { s with pool := s.pool.release }
  | .close => { s with pool := s.pool.close }

/-- Events happen one after another. -/
def run (s : PoolService J ε) (events : List (PoolEvent J ε)) : PoolService J ε :=
  events.foldl step s

variable {s s' : PoolService J ε}

/-! ### The accounts of a pool -/

/-- The accounts of a pool: its permits balance, every accepted job waits or has got a thread, once,
and every job that has got a thread is on it or has come to its end. -/
structure Accounted (permits : Nat) (s : PoolService J ε) : Prop where
  capacity : s.pool.capacity = permits
  balanced : s.pool.Balanced
  accepted : (s.started ++ s.pool.waiting).Perm s.accepted
  started : (s.ended.map Prod.fst ++ s.pool.running.map Running.job).Perm s.started

namespace Accounted

variable {permits : Nat}

theorem opening (permits : Nat) :
    Accounted permits (PoolService.opening permits : PoolService J ε) :=
  ⟨rfl, Pool.balanced_start permits, .refl _, .refl _⟩

theorem spawn (h : Accounted permits s) (job : J) : Accounted permits (s.spawn job) := by
  unfold PoolService.spawn
  split
  · rename_i p hspawn
    have haccepts := Pool.spawn_eq_ok_iff.mp hspawn
    have hbalanced := h.balanced.accepts haccepts
    obtain ⟨-, -, rfl⟩ := haccepts
    refine ⟨h.capacity, hbalanced, ?_, h.started⟩
    simp only [← List.append_assoc]
    exact h.accepted.append_right _
  · exact ⟨h.capacity, h.balanced, h.accepted, h.started⟩

theorem start (h : Accounted permits s) (place : Nat) (ended : JobEnd ε) (lingers : Bool) :
    Accounted permits (s.start place ended lingers) := by
  unfold PoolService.start
  split
  · exact h
  · rename_i job p htake
    have hstarts := Pool.starts_of_take? htake ended lingers
    have hbalanced := h.balanced.starts hstarts
    obtain ⟨hfound, hresult⟩ := hstarts
    rw [hresult] at hbalanced ⊢
    -- Threads take jobs from any place, so a pool keeps its jobs but not their order.
    have hwaiting : (job :: s.pool.waiting.eraseIdx place).Perm s.pool.waiting := by
      obtain ⟨hplace, hjob⟩ := List.getElem?_eq_some_iff.mp hfound
      simp only at hjob
      rw [← hjob]
      exact List.getElem_cons_eraseIdx_perm hplace
    refine ⟨h.capacity, hbalanced, ?_, ?_⟩
    · rw [List.append_assoc]
      exact (hwaiting.append_left s.started).trans h.accepted
    · rw [List.map_append, ← List.append_assoc]
      exact h.started.append_right _

theorem finish (h : Accounted permits s) (place : Nat) (breaksOff : Bool) :
    Accounted permits (s.finish place breaksOff) := by
  unfold PoolService.finish
  split
  · exact h
  · rename_i r p hfinish
    have hends := Pool.ends_of_finish? hfinish
    have hbalanced := h.balanced.ends hends
    obtain ⟨hfound, rfl⟩ := hends
    have hrunning : (r.job :: (s.pool.running.eraseIdx place).map Running.job).Perm
        (s.pool.running.map Running.job) := by
      obtain ⟨hplace, hr⟩ := List.getElem?_eq_some_iff.mp hfound
      rw [← hr]
      exact (List.getElem_cons_eraseIdx_perm hplace).map Running.job
    refine ⟨h.capacity, hbalanced, h.accepted, ?_⟩
    rw [List.map_append, List.append_assoc]
    exact (hrunning.append_left _).trans h.started

theorem step (h : Accounted permits s) (event : PoolEvent J ε) :
    Accounted permits (s.step event) := by
  cases event with
  | spawn job => exact h.spawn job
  | start place ended lingers => exact h.start place ended lingers
  | finish place => exact h.finish place false
  | breakOff place => exact h.finish place true
  | release =>
      have hbalanced : s.pool.release.Balanced := by
        simpa [Pool.Balanced, Pool.unfinished, Pool.release] using h.balanced
      refine ⟨h.capacity, hbalanced, h.accepted, ?_⟩
      simpa [PoolService.step, Pool.release, Function.comp_def] using h.started
  | close => exact ⟨h.capacity, h.balanced, h.accepted, h.started⟩

theorem run (h : Accounted permits s) (events : List (PoolEvent J ε)) :
    Accounted permits (s.run events) :=
  List.foldlRecOn (motive := Accounted permits) events PoolService.step h
    fun _ hs event _ => hs.step event

/-- Accepted jobs are those that came to their end and those that have not. -/
theorem length_accepted (h : Accounted permits s) :
    s.accepted.length = s.ended.length + s.pool.unfinished := by
  have haccepted := h.accepted.length_eq
  have hstarted := h.started.length_eq
  simp only [List.length_append, List.length_map] at haccepted hstarted
  simp only [Pool.unfinished]
  omega

end Accounted

/-! ### Closing -/

theorem isOpen_step (s : PoolService J ε) (event : PoolEvent J ε) :
    (s.step event).pool.isOpen = true ↔ s.pool.isOpen = true ∧ event ≠ .close := by
  cases event with
  | spawn job =>
      simp only [step, spawn]
      split
      · rename_i p hspawn
        rw [(Pool.spawn_eq_ok_iff.mp hspawn).result]
        simp
      · simp
  | start place ended lingers =>
      simp only [step, start]
      split
      · simp
      · rename_i job p htake
        rw [(Pool.starts_of_take? htake ended lingers).result]
        simp
  | finish place | breakOff place =>
      simp only [step, finish]
      split
      · simp
      · rename_i r p hfinish
        rw [(Pool.ends_of_finish? hfinish).result]
        simp
  | release => simp [step, Pool.release]
  | close => simp [step, Pool.close]

/-- A pool is open as long as nobody has closed it. -/
theorem isOpen_run (s : PoolService J ε) (events : List (PoolEvent J ε)) :
    (s.run events).pool.isOpen = true ↔ s.pool.isOpen = true ∧ .close ∉ events := by
  induction events generalizing s with
  | nil => simp [run]
  | cons event events ih =>
      refine (ih (s.step event)).trans ?_
      rw [isOpen_step, List.mem_cons, not_or, and_assoc, ne_comm]

/-! ### Coming to an end -/

theorem accepted_step_of_byThread {event : PoolEvent J ε} (h : event.byThread = true) :
    (s.step event).accepted = s.accepted := by
  cases event with
  | start place ended lingers =>
      simp only [step, start]
      split <;> rfl
  | finish place | breakOff place =>
      simp only [step, finish]
      split <;> rfl
  | spawn job | release | close => cases h

/-- Threads alone can bring every unfinished job to its end: first those that run, then the waiting
ones, each of which runs before it ends. -/
theorem exists_run_unfinished_eq_zero (s : PoolService J ε) :
    ∃ events : List (PoolEvent J ε), (∀ event ∈ events, event.byThread = true) ∧
      (s.run events).pool.unfinished = 0 ∧ (s.run events).accepted = s.accepted := by
  induction h : 2 * s.pool.waiting.length + s.pool.running.length using Nat.strongRecOn
    generalizing s with
  | ind n ih =>
      subst h
      -- One more event by a thread leaves less to do.
      have next : ∀ event : PoolEvent J ε, event.byThread = true →
          2 * (s.step event).pool.waiting.length + (s.step event).pool.running.length <
            2 * s.pool.waiting.length + s.pool.running.length →
          ∃ events : List (PoolEvent J ε), (∀ event ∈ events, event.byThread = true) ∧
            (s.run events).pool.unfinished = 0 ∧ (s.run events).accepted = s.accepted := by
        intro event hthread hless
        obtain ⟨events, hevents, hzero, haccepted⟩ := ih _ hless (s.step event) rfl
        refine ⟨event :: events, ?_, hzero, haccepted.trans (accepted_step_of_byThread hthread)⟩
        simpa [hthread] using hevents
      cases hrunning : s.pool.running with
      | cons r rest =>
          refine next (.finish 0) rfl ?_
          simp [step, finish, Pool.finish?, hrunning]
      | nil =>
          cases hwaiting : s.pool.waiting with
          | nil => exact ⟨[], by simp, by simp [run, Pool.unfinished, hrunning, hwaiting], rfl⟩
          | cons job rest =>
              refine next (.start 0 .completed false) rfl ?_
              simp [step, start, Pool.take?, Pool.run, hrunning, hwaiting]
              omega

/-! ### Permits over a run -/

/-- A refused job changes nothing but the list of refusals. -/
theorem step_of_refused {job : J} {error : ScheduleError}
    (h : s.pool.spawn job = .error error) :
    s.step (.spawn job) = { s with refused := s.refused ++ [(job, error)] } := by
  simp only [step, spawn, h]

/-- Whatever happens to a pool, its free permits and the accepted jobs that have not come to their
end are as many as the permits it was made with. A job is accepted exactly when the pool is open
with a permit left, refused as saturated when it is open without one, and refused as closed once it
was closed, permits or not. A refused job changes nothing. The accepted jobs are those that got a
thread, each once, and those that wait for one, so no refused job ever runs and closing takes none
of the others away: threads can always bring them all to their end. When all have come to their
end, every permit is free. -/
theorem pool_never_overcommits (permits : Nat) (events : List (PoolEvent J ε)) :
    let s := (opening permits).run events
    s.pool.free + s.pool.unfinished = permits ∧
      s.accepted.length = s.ended.length + s.pool.unfinished ∧
      s.pool.unfinished ≤ permits ∧
      (∀ job, (∃ p, s.pool.spawn job = .ok p) ↔ .close ∉ events ∧ 0 < s.pool.free) ∧
      (∀ job, s.pool.spawn job = .error .saturated ↔ .close ∉ events ∧ s.pool.free = 0) ∧
      (∀ job, s.pool.spawn job = .error .closed ↔ .close ∈ events) ∧
      (∀ job error, s.pool.spawn job = .error error →
        s.step (.spawn job) = { s with refused := s.refused ++ [(job, error)] }) ∧
      (s.started ++ s.pool.waiting).Perm s.accepted ∧
      (s.ended.map Prod.fst ++ s.pool.running.map Running.job).Perm s.started ∧
      (∃ rest : List (PoolEvent J ε), (∀ event ∈ rest, event.byThread = true) ∧
        ((s.run rest).ended.map Prod.fst).Perm s.accepted ∧
        (s.run rest).pool.free = permits) ∧
      (s.ended.length = s.accepted.length → s.pool.free = permits) := by
  intro s
  have accounted : Accounted permits s := (Accounted.opening permits).run events
  have hbalance : s.pool.free + s.pool.unfinished = permits :=
    accounted.balanced.trans accounted.capacity
  have hlength := accounted.length_accepted
  have hopen : s.pool.isOpen = true ↔ .close ∉ events :=
    ((opening permits).isOpen_run events).trans (and_iff_right rfl)
  refine ⟨hbalance, hlength, by omega, fun job => ?_, fun job => ?_, fun job => ?_,
    fun job error => step_of_refused, accounted.accepted, accounted.started, ?_, fun hall => ?_⟩
  · rw [Pool.exists_spawn_eq_ok_iff, hopen]
  · rw [Pool.spawn_eq_saturated_iff, hopen]
  · rw [Pool.spawn_eq_closed_iff, ← Bool.not_eq_true, hopen, not_not]
  · obtain ⟨rest, hrest, hzero, haccepted⟩ := s.exists_run_unfinished_eq_zero
    have hlater := accounted.run rest
    have hnone : (s.run rest).pool.waiting = [] ∧ (s.run rest).pool.running = [] := by
      simpa [Pool.unfinished] using hzero
    have hended := hlater.started.append_right (s.run rest).pool.waiting
    rw [hnone.1, hnone.2, List.map_nil, List.append_nil, List.append_nil] at hended
    have htotal := hlater.accepted
    rw [hnone.1, haccepted] at htotal
    refine ⟨rest, hrest, hended.trans htotal, ?_⟩
    have hlast := hlater.balanced.trans hlater.capacity
    rwa [hzero] at hlast
  · omega

/-- Two permits and four jobs: the third comes too early, and the fourth after closing, when the
first has broken off and the second still waits. -/
def crowdedEvents : List (PoolEvent Nat Unit) :=
  [.spawn 0, .spawn 1, .spawn 2, .start 0 .completed false, .close, .breakOff 0]

theorem pool_never_overcommits_crowded :
    let s := (opening 2).run crowdedEvents
    s.pool.free = 1 ∧ s.pool.waiting = [1] ∧ s.refused = [(2, .saturated)] ∧
      s.ended = [(0, none)] ∧
      s.pool.spawn 3 = .error .closed ∧
      s.step (.spawn 3) = { s with refused := s.refused ++ [(3, .closed)] } ∧
      ∃ rest : List (PoolEvent Nat Unit), (∀ event ∈ rest, event.byThread = true) ∧
        ((s.run rest).ended.map Prod.fst).Perm s.accepted ∧ (s.run rest).pool.free = 2 := by
  intro s
  obtain ⟨-, -, -, -, -, hclosed, hrefused, -, -, hrest, -⟩ :=
    pool_never_overcommits 2 crowdedEvents
  have hspawn : s.pool.spawn 3 = .error .closed := (hclosed 3).mpr (by simp [crowdedEvents])
  exact ⟨rfl, rfl, rfl, rfl, hspawn, hrefused 3 .closed hspawn, hrest⟩

end PoolService
end PacketDispatch
