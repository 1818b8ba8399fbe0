import PacketDispatch.Proofs.Traffic.Basic
import Mathlib.Data.List.Perm.Basic

/-!
# The ledger of a run

The history of a run accounts for every job and every call: what the world thread took and what
still waits for it are the scheduled messages in the order of their arrival, the pool has the
messages that were scheduled there in some order, and the calls of each lane are those of the jobs
that ended there. The ledger lasts, whatever happens.
-/

namespace PacketDispatch

/-! ## Calls by lane -/

theorem Job.filter_callsMade {σ : Type} (j : Job σ) (lane other : Lane)
    (ended : JobEnd HandlerError) :
    (j.callsMade lane ended).filter (fun r => r.lane = other) =
      if lane = other then j.callsMade lane ended else [] := by
  cases ended <;> by_cases h : lane = other <;> simp [callsMade, h]

namespace Arrival

variable {σ : Type}

theorem filter_callsMade (t : Table σ) (a : Arrival) (other : Lane) :
    (a.callsMade t).filter (fun r => r.lane = other) =
      if other = .inPlace then a.callsMade t else [] := by
  unfold callsMade endings
  split
  · rename_i j ended _ _
    rw [List.flatMap_singleton, Job.filter_callsMade]
    cases other <;> simp
  · simp

end Arrival

namespace Traffic

variable {σ : Type}

/-- The calls that were made in a lane. -/
def callsIn (s : Traffic σ) (lane : Lane) : List (CallRecord σ) :=
  s.engine.scene.calls.filter fun r => r.lane = lane

/-- The pool jobs whose call has been made, with their ends: those that ended and those that are
still on a thread. -/
def started (s : Traffic σ) : List (Job σ × JobEnd HandlerError) :=
  s.pooled ++ s.engine.pool.running.map Running.ending

/-- The ledger of a run with a table. -/
structure Ledger (t : Table σ) (s : Traffic σ) : Prop where
  installed : s.engine.table = some t
  numbered : s.arrivals.map Arrival.ticket = List.range s.engine.dispatched
  seated : ∀ a ∈ s.arrivals, a.session < s.engine.scene.seats.length
  prepared : ∀ a ∈ s.arrivals, a.Prepared t
  world : s.drained.map Prod.fst ++ s.engine.queue.pending =
    s.arrivals.flatMap (Arrival.jobs t .world)
  pool : (s.started.map Prod.fst ++ s.engine.pool.waiting).Perm
    (s.arrivals.flatMap (Arrival.jobs t .pool))
  inPlaceCalls : s.callsIn .inPlace = s.arrivals.flatMap (Arrival.callsMade t)
  worldCalls : s.callsIn .world = s.drained.flatMap fun p => p.1.callsMade .world p.2
  poolCalls : (s.callsIn .pool).Perm (s.started.flatMap fun p => p.1.callsMade .pool p.2)
  gone : ∀ p ∈ s.drained ++ s.started, p.2.isGone = true →
    s.engine.scene.alive p.1.session = false

namespace Ledger

variable {t : Table σ} {s s' : Traffic σ}

theorem opening (scheduler : Scheduler) (permits capacity : Nat) (t : Table σ) :
    Ledger t (Traffic.opening scheduler permits capacity t) := by
  constructor <;>
    simp [Traffic.opening, start, Engine.create, Engine.withTable, Pool.start,
      WorldQueue.empty, Scene.empty, callsIn, started]

/-- Every job that ended was for a session that has a seat. -/
theorem session_lt (h : Ledger t s) {p : Job σ × JobEnd HandlerError}
    (hp : p ∈ s.drained ++ s.started) :
    p.1.session < s.engine.scene.seats.length := by
  have hjob : ∃ lane, p.1 ∈ s.arrivals.flatMap (Arrival.jobs t lane) := by
    rcases List.mem_append.mp hp with hdrained | hstarted
    · refine ⟨.world, h.world ▸ List.mem_append_left _ ?_⟩
      exact List.mem_map_of_mem hdrained
    · refine ⟨.pool, h.pool.mem_iff.mp (List.mem_append_left _ ?_)⟩
      exact List.mem_map_of_mem hstarted
  obtain ⟨lane, hmem⟩ := hjob
  obtain ⟨a, ha, hja⟩ := List.mem_flatMap.mp hmem
  rw [(Arrival.origin_of_job? (Arrival.job?_of_mem_jobs hja)).2]
  exact h.seated a ha

/-! ### Events that leave the books alone -/

/-- Two moments of a run with the same entries in the ledger. -/
structure SameBooks (s s' : Traffic σ) : Prop where
  table : s'.engine.table = s.engine.table
  dispatched : s'.engine.dispatched = s.engine.dispatched
  pending : s'.engine.queue.pending = s.engine.queue.pending
  waiting : s'.engine.pool.waiting = s.engine.pool.waiting
  running : s'.engine.pool.running = s.engine.pool.running
  calls : s'.engine.scene.calls = s.engine.scene.calls
  arrivals : s'.arrivals = s.arrivals
  drained : s'.drained = s.drained
  pooled : s'.pooled = s.pooled

/-- The ledger stays when its entries do, seats stay, and no session comes back. -/
theorem of_sameBooks (h : Ledger t s) (same : SameBooks s s')
    (seats : s.engine.scene.seats.length ≤ s'.engine.scene.seats.length)
    (gone : ∀ ref < s.engine.scene.seats.length, s.engine.scene.alive ref = false →
      s'.engine.scene.alive ref = false) :
    Ledger t s' := by
  have hstarted : s'.started = s.started := by
    simp only [started, same.pooled, same.running]
  have hcalls : ∀ lane, s'.callsIn lane = s.callsIn lane := by
    intro lane
    simp only [callsIn, same.calls]
  exact {
    installed := same.table.trans h.installed
    numbered := by rw [same.arrivals, same.dispatched, h.numbered]
    seated := by
      intro a ha
      rw [same.arrivals] at ha
      exact Nat.lt_of_lt_of_le (h.seated a ha) seats
    prepared := by simpa only [same.arrivals] using h.prepared
    world := by rw [same.drained, same.pending, same.arrivals, h.world]
    pool := by simpa only [hstarted, same.waiting, same.arrivals] using h.pool
    inPlaceCalls := by rw [hcalls, same.arrivals, h.inPlaceCalls]
    worldCalls := by rw [hcalls, same.drained, h.worldCalls]
    poolCalls := by simpa only [hstarted, hcalls] using h.poolCalls
    gone := by
      intro p hp hgone
      rw [hstarted, same.drained] at hp
      -- A later client may take a new seat; the jobs in the books are for the seats before it.
      exact gone _ (h.session_lt hp) (h.gone p hp hgone) }

theorem of_sameSeats (h : Ledger t s) (same : SameBooks s s')
    (seats : s'.engine.scene.seats = s.engine.scene.seats) :
    Ledger t s' := by
  refine h.of_sameBooks same (Nat.le_of_eq (by rw [seats])) ?_
  intro ref _ hgone
  simpa only [Scene.alive, seats] using hgone

/-! ### Events that make entries -/

theorem arrive (h : Ledger t s) (phase : Phase) (ref : SessionRef) (env : Envelope) :
    Ledger t (s.arrive phase ref env) := by
  rcases s.arrive_cases phase ref env with hsame | ⟨outcome, hbegins⟩
  · rw [hsame]
    exact h
  · generalize s.arrive phase ref env = s' at hbegins ⊢
    have hadmits := Engine.admits_of_arrive h.installed hbegins.engine
    have hseats := Scene.length_seats_congr hadmits.presence
    have halive := Scene.alive_congr hadmits.presence
    have hstarted : s'.started = s.started := by
      simp only [started, hbegins.pooled, hadmits.pool]
    -- An arrival makes calls in its own lane only, whatever became of the message.
    have hcalls : ∀ lane, s'.callsIn lane = s.callsIn lane ++
        if lane = .inPlace then (s.arrival phase ref env outcome).callsMade t else [] := by
      intro lane
      simp only [callsIn, hadmits.calls, List.filter_append, Arrival.filter_callsMade]
      rfl
    have hmem : ∀ a ∈ s'.arrivals, a ∈ s.arrivals ∨ a = s.arrival phase ref env outcome := by
      simp [hbegins.arrivals]
    exact {
      installed := hadmits.table.trans h.installed
      numbered := by
        simp [hbegins.arrivals, h.numbered, hadmits.dispatched, List.range_succ, arrival]
      seated := by
        intro a ha
        rw [hseats]
        rcases hmem a ha with hold | rfl
        · exact h.seated a hold
        · exact Scene.lt_length_of_connected hadmits.connected
      prepared := by
        intro a ha
        rcases hmem a ha with hold | rfl
        · exact h.prepared a hold
        · exact hadmits.prepared
      world := by
        rw [hbegins.drained, hadmits.queue, hbegins.arrivals, List.flatMap_append, ← h.world,
          List.flatMap_singleton, List.append_assoc]
        rfl
      pool := by
        rw [hstarted, hadmits.pool, hbegins.arrivals, List.flatMap_append,
          List.flatMap_singleton, ← List.append_assoc]
        exact h.pool.append_right _
      inPlaceCalls := by
        rw [hcalls, h.inPlaceCalls, hbegins.arrivals, List.flatMap_append,
          List.flatMap_singleton, if_pos rfl]
      worldCalls := by
        rw [hcalls, hbegins.drained, h.worldCalls]
        simp
      poolCalls := by
        rw [hcalls, hstarted]
        simpa using h.poolCalls
      gone := by
        intro p hp hgone
        rw [hbegins.drained, hstarted] at hp
        exact (halive _).trans (h.gone p hp hgone) }

/-- A job that the world thread takes moves from those that wait to those that ended. -/
theorem next (h : Ledger t s) :
    Ledger t s.next := by
  rcases s.next_cases with hsame | ⟨j, ended, htakes⟩
  · rw [hsame]
    exact h
  · generalize s.next = s' at htakes ⊢
    have hseats := Scene.length_seats_congr htakes.presence
    have halive := Scene.alive_congr htakes.presence
    have hstarted : s'.started = s.started := by
      simp only [started, htakes.pooled, htakes.pool]
    have hcalls : ∀ lane, s'.callsIn lane = s.callsIn lane ++
        if .world = lane then j.callsMade .world ended else [] := by
      intro lane
      simp only [callsIn, htakes.calls, List.filter_append, Job.filter_callsMade]
    exact {
      installed := htakes.table.trans h.installed
      numbered := by rw [htakes.arrivals, htakes.dispatched, h.numbered]
      seated := by simpa only [htakes.arrivals, hseats] using h.seated
      prepared := by simpa only [htakes.arrivals] using h.prepared
      world := by
        rw [htakes.arrivals, ← h.world, htakes.pending, htakes.drained]
        simp
      pool := by simpa only [hstarted, htakes.pool, htakes.arrivals] using h.pool
      inPlaceCalls := by
        rw [hcalls, htakes.arrivals, ← h.inPlaceCalls]
        simp
      worldCalls := by
        rw [hcalls, htakes.drained, List.flatMap_append, ← h.worldCalls]
        simp
      poolCalls := by
        rw [hcalls, hstarted]
        simpa using h.poolCalls
      gone := by
        intro p hp hgone
        rw [halive]
        rw [htakes.drained, hstarted, List.mem_append, List.mem_append] at hp
        rcases hp with (hold | hnew) | hold
        · exact h.gone p (List.mem_append_left _ hold) hgone
        · rw [List.mem_singleton.mp hnew] at hgone ⊢
          simpa [hgone] using htakes.gone
        · exact h.gone p (List.mem_append_right _ hold) hgone }

/-- A pool job that gets a thread moves from those that wait to those whose call was made. -/
theorem startPooled (h : Ledger t s) (place : Nat) :
    Ledger t (s.mapEngine fun e => e.startPooled place) := by
  rcases s.engine.startPooled_cases place with hsame | ⟨j, ended, hstarts⟩
  · simpa only [mapEngine, hsame] using h
  · have hengine : (s.mapEngine fun e => e.startPooled place).engine =
        s.engine.startPooled place := rfl
    generalize hs : (s.mapEngine fun e => e.startPooled place) = s' at hengine ⊢
    rw [← hengine] at hstarts
    have hhistory : s'.arrivals = s.arrivals ∧ s'.drained = s.drained ∧
        s'.pooled = s.pooled := by
      subst hs
      exact ⟨rfl, rfl, rfl⟩
    obtain ⟨harrivals, hdrained, hpooled⟩ := hhistory
    have hstarted : s'.started = s.started ++ [(j, ended)] := by
      simp only [started, hpooled, hstarts.running, List.append_assoc]
    -- Threads take waiting jobs from any place, so the pool keeps its jobs but not their order.
    have hwaiting : (j :: s'.engine.pool.waiting).Perm s.engine.pool.waiting := by
      obtain ⟨hplace, hj⟩ := List.getElem?_eq_some_iff.mp hstarts.found
      rw [hstarts.waiting, ← hj]
      exact List.getElem_cons_eraseIdx_perm hplace
    have hcalls : ∀ lane, s'.callsIn lane = s.callsIn lane ++
        if .pool = lane then j.callsMade .pool ended else [] := by
      intro lane
      simp only [callsIn, hstarts.calls, List.filter_append, Job.filter_callsMade]
    exact {
      installed := hstarts.table.trans h.installed
      numbered := by rw [harrivals, hstarts.dispatched, h.numbered]
      seated := by simpa only [harrivals, hstarts.seats] using h.seated
      prepared := by simpa only [harrivals] using h.prepared
      world := by rw [hdrained, hstarts.queue, harrivals, h.world]
      pool := by
        rw [harrivals]
        refine List.Perm.trans ?_ h.pool
        rw [hstarted, List.map_append, List.append_assoc]
        exact hwaiting.append_left _
      inPlaceCalls := by
        rw [hcalls, harrivals, ← h.inPlaceCalls]
        simp
      worldCalls := by
        rw [hcalls, hdrained, ← h.worldCalls]
        simp
      poolCalls := by
        rw [hcalls, hstarted, List.flatMap_append, List.flatMap_singleton, if_pos rfl]
        exact h.poolCalls.append_right _
      gone := by
        intro p hp hgone
        rw [hstarts.alive]
        rw [hdrained, hstarted, ← List.append_assoc] at hp
        rcases List.mem_append.mp hp with hold | hnew
        · exact h.gone p hold hgone
        · rw [List.mem_singleton.mp hnew] at hgone ⊢
          simpa [hgone] using hstarts.gone }

theorem finish (h : Ledger t s) (place : Nat) :
    Ledger t (s.finish place) := by
  rcases s.engine.finishPooled_cases place with ⟨hnone, hsame⟩ | ⟨r, pool, hsome, hfinishes⟩
  · simpa [Traffic.finish, hnone, hsame] using h
  · have hstarted : (s.finish place).started.Perm s.started := by
      obtain ⟨hplace, hr⟩ := List.getElem?_eq_some_iff.mp hfinishes.found
      have hrunning := (List.getElem_cons_eraseIdx_perm hplace).map Running.ending
      simp only [started, Traffic.finish, hsome, hfinishes.running, List.append_assoc]
      rw [hr, List.map_cons] at hrunning
      exact hrunning.append_left _
    have hcalls : ∀ lane, (s.finish place).callsIn lane = s.callsIn lane := by
      intro lane
      simp only [callsIn, Traffic.finish, hfinishes.calls]
    exact {
      installed := hfinishes.table.trans h.installed
      numbered := by
        simpa only [Traffic.finish, hfinishes.dispatched] using h.numbered
      seated := by
        simpa only [Traffic.finish, hfinishes.seats] using h.seated
      prepared := h.prepared
      world := by
        simpa only [Traffic.finish, hfinishes.queue] using h.world
      pool := by
        refine List.Perm.trans ?_ h.pool
        simp only [Traffic.finish, hfinishes.waiting]
        exact (hstarted.map Prod.fst).append_right _
      inPlaceCalls := by
        rw [hcalls]
        exact h.inPlaceCalls
      worldCalls := by
        rw [hcalls]
        exact h.worldCalls
      poolCalls := by
        rw [hcalls]
        exact h.poolCalls.trans (hstarted.symm.flatMap_right _)
      gone := by
        intro p hp hgone
        refine hfinishes.gone _ (h.gone p ?_ hgone)
        rcases List.mem_append.mp hp with hdrained | hp
        · exact List.mem_append_left _ hdrained
        · exact List.mem_append_right _ (hstarted.mem_iff.mp hp) }

/-! ### The ledger lasts -/

theorem note (h : Ledger t s) (lines : List Line) :
    Ledger t (s.mapEngine fun e => e.note lines) :=
  h.of_sameSeats (by constructor <;> rfl) rfl

theorem install (h : Ledger t s) (replacement : Table σ) :
    Ledger t (s.mapEngine fun e => (e.install replacement).2) := by
  have hinstall : (s.engine.install replacement).2 = s.engine.note
      [⟨.warn, "⚠️ Opcode table is already installed, ignoring replacement"⟩] := by
    simp [Engine.install, h.installed]
  simp only [mapEngine, hinstall]
  exact h.note _

theorem connect (h : Ledger t s) (session : σ) :
    Ledger t (s.mapEngine fun e => (e.connect session).2) := by
  refine h.of_sameBooks (by constructor <;> rfl) ?_ ?_
  · simp [mapEngine, Engine.connect, Scene.connect]
  · intro ref href hgone
    exact (Scene.alive_connect_of_lt session href).trans hgone

theorem disconnect (h : Ledger t s) (ref : SessionRef) :
    Ledger t (s.mapEngine fun e => e.disconnect ref) := by
  refine h.of_sameBooks (by constructor <;> rfl) ?_ ?_
  · simp [mapEngine, Engine.disconnect, Scene.disconnect, Scene.modifySeat]
  · intro other _ hgone
    exact Scene.alive_disconnect_eq_false ref hgone

theorem settle (h : Ledger t s) (place : Nat) :
    Ledger t (s.settle place) := by
  unfold Traffic.settle
  split
  · exact h
  · exact h.of_sameSeats (by constructor <;> rfl) rfl

/-- Whatever happens next, the ledger stays. -/
theorem lasts (t : Table σ) : Lasts (Ledger t) where
  note := fun _ lines h => h.note lines
  install := fun _ replacement h => h.install replacement
  connect := fun _ session h => h.connect session
  disconnect := fun _ ref h => h.disconnect ref
  arrive := fun _ phase ref env h => h.arrive phase ref env
  settle := fun _ place h => h.settle place
  next := fun _ h => h.next
  closeQueue := fun _ h => h.of_sameSeats (by constructor <;> rfl) rfl
  closePool := fun _ h => h.of_sameSeats (by constructor <;> rfl) rfl
  startPooled := fun _ place h => h.startPooled place
  finish := fun _ place h => h.finish place
  advance := fun _ _ h => h.of_sameSeats (by constructor <;> rfl) rfl

/-- The ledger of every run of a fresh engine. -/
theorem run (scheduler : Scheduler) (permits capacity : Nat) (t : Table σ)
    (events : List (Event σ)) :
    Ledger t ((Traffic.opening scheduler permits capacity t).run events) :=
  (lasts t).run events (opening scheduler permits capacity t)

end Ledger
end Traffic
end PacketDispatch
