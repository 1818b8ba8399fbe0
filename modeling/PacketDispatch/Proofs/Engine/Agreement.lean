import PacketDispatch.Proofs.Engine.Arrival

/-!
# Agreement beside one session

Two engines agree beside a session when nobody but that session could tell them apart: the other
sessions have the same seats, the same calls were made on them, and the queue and the pool hold the
same jobs.  What is done on the session itself keeps the agreement, on either side alone; what is
done on the others keeps it when it is done on both sides, and comes back with the same outcome.
The journal and the counters have no part in it.
-/

namespace PacketDispatch

variable {σ : Type} {a ref : SessionRef}

/-! ## Scenes -/

namespace Scene

variable {s s' s'' : Scene σ}

/-- The calls that were made on a session, in order. -/
def callsOn (s : Scene σ) (a : SessionRef) : List (CallRecord σ) :=
  s.calls.filter fun r => r.session = a

/-- The calls that were made on the other sessions, in order. -/
def callsBeside (s : Scene σ) (a : SessionRef) : List (CallRecord σ) :=
  s.calls.filter fun r => r.session ≠ a

/-- Two scenes that differ in one session at most. -/
structure Agree (a : SessionRef) (s s' : Scene σ) : Prop where
  seats : ∀ ref, ref ≠ a → s'.seats[ref]? = s.seats[ref]?
  length : s'.seats.length = s.seats.length
  now : s'.now = s.now
  calls : s'.callsBeside a = s.callsBeside a

namespace Agree

theorem symm (h : Agree a s s') : Agree a s' s :=
  ⟨fun ref href => (h.seats ref href).symm, h.length.symm, h.now.symm, h.calls.symm⟩

theorem trans (h : Agree a s s') (h' : Agree a s' s'') : Agree a s s'' :=
  ⟨fun ref href => (h'.seats ref href).trans (h.seats ref href), h'.length.trans h.length,
    h'.now.trans h.now, h'.calls.trans h.calls⟩

/-- Entries in the journal and counts make no difference. -/
theorem quiet (seats : s'.seats = s.seats) (now : s'.now = s.now) (calls : s'.calls = s.calls) :
    Agree a s s' :=
  ⟨fun ref _ => by rw [seats], by rw [seats], now, by rw [callsBeside, callsBeside, calls]⟩

/-- What is done on the session on the left and on the right does not touch the agreement. -/
theorem congr {r r' : Scene σ} (h : Agree a s s') (left : Agree a s r) (right : Agree a s' r') :
    Agree a r r' :=
  left.symm.trans (h.trans right)

theorem alive (h : Agree a s s') (href : ref ≠ a) : s'.alive ref = s.alive ref := by
  simp only [Scene.alive, h.seats ref href]

theorem connected (h : Agree a s s') (href : ref ≠ a) :
    s'.connected ref = s.connected ref := by
  simp only [Scene.connected, h.seats ref href]

theorem session? (h : Agree a s s') (href : ref ≠ a) :
    s'.session? ref = s.session? ref := by
  simp only [Scene.session?, h.seats ref href]

/-! ### What is done on the session itself -/

theorem modifySeat_self (a : SessionRef) (s : Scene σ) (f : Seat σ → Seat σ) :
    Agree a s (s.modifySeat a f) where
  seats := by
    intro ref href
    simp [modifySeat, Ne.symm href]
  length := by simp [modifySeat]
  now := rfl
  calls := rfl

theorem afterCall_self (s : Scene σ) (lane : Lane) (ticket : Nat) (c : Call σ) (session : σ) :
    Agree a s (s.afterCall lane ticket a c session) := by
  have hseat := modifySeat_self a s fun seat =>
    { seat with session := (c.body s.now session).session }
  exact {
    seats := hseat.seats
    length := hseat.length
    now := rfl
    calls := by simp [callsBeside, afterCall] }

theorem make_self {j : Job σ} (lane : Lane) (s : Scene σ) (hj : j.session = a) :
    Agree a s (j.make lane s).scene := by
  subst hj
  cases halive : s.alive j.session with
  | false =>
      rw [Job.make_of_gone lane halive]
      exact quiet rfl rfl rfl
  | true =>
      obtain ⟨session, present⟩ := exists_session_of_alive halive
      obtain ⟨remarks, hmake⟩ := Job.make_of_alive lane halive present
      rw [hmake]
      exact (afterCall_self s lane j.ticket j.call session).trans (quiet rfl rfl rfl)

/-! ### What is done on both sides -/

theorem modifySeat (h : Agree a s s') (ref : SessionRef) (f : Seat σ → Seat σ) :
    Agree a (s.modifySeat ref f) (s'.modifySeat ref f) where
  seats := by
    intro other hother
    simp [Scene.modifySeat, List.getElem?_modify, h.seats other hother]
  length := by simp [Scene.modifySeat, h.length]
  now := h.now
  calls := h.calls

theorem connect (h : Agree a s s') (session : σ) :
    Agree a (s.connect session).2 (s'.connect session).2 where
  seats := by
    intro ref href
    simp only [Scene.connect, List.getElem?_append, h.length, h.seats ref href]
  length := by simp [Scene.connect, h.length]
  now := h.now
  calls := h.calls

theorem afterCall (h : Agree a s s') (lane : Lane) (ticket : Nat) (ref : SessionRef)
    (c : Call σ) (session : σ) :
    Agree a (s.afterCall lane ticket ref c session) (s'.afterCall lane ticket ref c session) := by
  have hseat := h.modifySeat ref fun seat =>
    { seat with session := (c.body s.now session).session }
  exact {
    seats := by
      simp only [Scene.afterCall, h.now]
      exact hseat.seats
    length := by
      simp only [Scene.afterCall, h.now]
      exact hseat.length
    now := h.now
    calls := by
      have hcalls := h.calls
      simp only [callsBeside] at hcalls
      simp only [callsBeside, Scene.afterCall, h.now, List.filter_append, hcalls] }

/-- A job makes its call on both sides or is discarded on both sides, unless it is one of the
session itself. -/
theorem make (h : Agree a s s') (j : Job σ) (lane : Lane) :
    Agree a (j.make lane s).scene (j.make lane s').scene := by
  by_cases hj : j.session = a
  · exact h.congr (make_self lane s hj) (make_self lane s' hj)
  · cases halive : s.alive j.session with
    | false =>
        have halive' : s'.alive j.session = false := (h.alive hj).trans halive
        rw [Job.make_of_gone lane halive, Job.make_of_gone lane halive']
        exact h.congr (quiet rfl rfl rfl) (quiet rfl rfl rfl)
    | true =>
        have halive' : s'.alive j.session = true := (h.alive hj).trans halive
        obtain ⟨session, present⟩ := exists_session_of_alive halive
        have present' : s'.session? j.session = some session := (h.session? hj).trans present
        obtain ⟨remarks, hmake⟩ := Job.make_of_alive lane halive present
        obtain ⟨remarks', hmake'⟩ := Job.make_of_alive lane halive' present'
        rw [hmake, hmake']
        exact (h.afterCall lane j.ticket j.session j.call session).congr (quiet rfl rfl rfl)
          (quiet rfl rfl rfl)

end Agree
end Scene

/-! ## Engines -/

namespace Engine

variable {e e' : Engine σ} {t : Table σ} {phase : Phase} {env : Envelope}

/-- Two engines whose scenes agree beside a session, and that are the same but for their scenes. -/
structure Agree (a : SessionRef) (e e' : Engine σ) : Prop where
  table : e'.table = e.table
  scheduler : e'.scheduler = e.scheduler
  pool : e'.pool = e.pool
  queue : e'.queue = e.queue
  dispatched : e'.dispatched = e.dispatched
  scene : e.scene.Agree a e'.scene

namespace Agree

theorem note (h : Agree a e e') (lines lines' : List Line) :
    Agree a (e.note lines) (e'.note lines') :=
  ⟨h.table, h.scheduler, h.pool, h.queue, h.dispatched,
    h.scene.congr (.quiet rfl rfl rfl) (.quiet rfl rfl rfl)⟩

theorem record (h : Agree a e e') (id : Opcode) (outcome : Outcome) :
    Agree a (e.record id outcome) (e'.record id outcome) :=
  ⟨h.table, h.scheduler, h.pool, h.queue, h.dispatched,
    h.scene.congr (.quiet rfl rfl rfl) (.quiet rfl rfl rfl)⟩

theorem connect (h : Agree a e e') (session : σ) :
    Agree a (e.connect session).2 (e'.connect session).2 :=
  ⟨h.table, h.scheduler, h.pool, h.queue, h.dispatched, h.scene.connect session⟩

theorem disconnect (h : Agree a e e') (ref : SessionRef) :
    Agree a (e.disconnect ref) (e'.disconnect ref) :=
  ⟨h.table, h.scheduler, h.pool, h.queue, h.dispatched, h.scene.modifySeat ref _⟩

/-- The session itself may disconnect on one side alone. -/
theorem disconnect_self (a : SessionRef) (e : Engine σ) :
    Agree a e (e.disconnect a) :=
  ⟨rfl, rfl, rfl, rfl, rfl, .modifySeat_self a e.scene _⟩

theorem closeQueue (h : Agree a e e') :
    Agree a e.closeQueue e'.closeQueue :=
  ⟨h.table, h.scheduler, h.pool, by simp only [Engine.closeQueue, h.queue], h.dispatched,
    h.scene⟩

theorem closePool (h : Agree a e e') :
    Agree a e.closePool e'.closePool :=
  ⟨h.table, h.scheduler, by simp only [Engine.closePool, h.pool], h.queue, h.dispatched,
    h.scene⟩

theorem advance (h : Agree a e e') (ms : Nat) :
    Agree a (e.advance ms) (e'.advance ms) :=
  ⟨h.table, h.scheduler, h.pool, h.queue, h.dispatched, h.scene.seats, h.scene.length, by
    simp only [Engine.advance, h.scene.now], h.scene.calls⟩

theorem install (h : Agree a e e') (t : Table σ) :
    Agree a (e.install t).2 (e'.install t).2 := by
  cases htable : e.table with
  | none =>
      have htable' : e'.table = none := h.table.trans htable
      have hinstalled : Agree a { e with table := some t } { e' with table := some t } :=
        ⟨rfl, h.scheduler, h.pool, h.queue, h.dispatched, h.scene⟩
      simp only [Engine.install, htable, htable']
      exact hinstalled.note _ _
  | some installed =>
      have htable' : e'.table = some installed := h.table.trans htable
      simp only [Engine.install, htable, htable']
      exact h.note _ _

/-! ### Messages of the other sessions -/

theorem hasRoom_iff (h : Agree a e e') (lane : Lane) :
    e'.HasRoom lane ↔ e.HasRoom lane := by
  cases lane <;> simp [HasRoom, h.scheduler, h.pool, h.queue]

theorem withJob (h : Agree a e e') (lane : Lane) (j : Job σ) :
    Agree a (e.withJob lane j) (e'.withJob lane j) := by
  cases lane with
  | inPlace => exact h
  | pool =>
      exact ⟨h.table, h.scheduler, by simp only [Engine.withJob, h.pool], h.queue, h.dispatched,
        h.scene⟩
  | world =>
      exact ⟨h.table, h.scheduler, h.pool, by simp only [Engine.withJob, h.queue], h.dispatched,
        h.scene⟩

theorem jobOf (h : Agree a e e') (ref : SessionRef) (env : Envelope) (c : Call σ) :
    e'.jobOf ref env c = e.jobOf ref env c := by
  simp only [Engine.jobOf, h.dispatched]

/-- A message of another session goes the same way on both sides. -/
theorem route (h : Agree a e e') (href : ref ≠ a) (live : e.scene.connected ref = true)
    (t : Table σ) (phase : Phase) (env : Envelope) :
    (e'.route t phase ref env).1 = (e.route t phase ref env).1 ∧
      Agree a (e.route t phase ref env).2 (e'.route t phase ref env).2 := by
  cases hdecide : t.decide phase env with
  | stop outcome =>
      rw [route_of_stop hdecide, route_of_stop hdecide]
      exact ⟨rfl, h.note _ _⟩
  | call d c =>
      by_cases deferred : d.lane.deferred = true
      · by_cases room : e.HasRoom d.lane
        · obtain ⟨lines, hroute⟩ := route_of_hasRoom ref hdecide deferred room
          obtain ⟨lines', hroute'⟩ :=
            route_of_hasRoom ref hdecide deferred ((h.hasRoom_iff d.lane).mpr room)
          rw [hroute, hroute', h.jobOf]
          exact ⟨rfl, (h.withJob d.lane _).note lines lines'⟩
        · have full : ¬ e'.HasRoom d.lane := fun room' => room ((h.hasRoom_iff d.lane).mp room')
          obtain ⟨lines, hroute⟩ := route_of_not_hasRoom ref hdecide deferred room
          obtain ⟨lines', hroute'⟩ := route_of_not_hasRoom ref hdecide deferred full
          rw [hroute, hroute']
          exact ⟨rfl, h.note lines lines'⟩
      · have inPlace : d.lane = .inPlace := by
          simpa [Lane.deferred_iff_ne_inPlace] using deferred
        obtain ⟨session, present⟩ := Scene.exists_session_of_connected live
        have present' : e'.scene.session? ref = some session :=
          (h.scene.session? href).trans present
        obtain ⟨remarks, hroute⟩ := route_of_inPlace hdecide inPlace present
        obtain ⟨remarks', hroute'⟩ := route_of_inPlace hdecide inPlace present'
        have hcall := h.scene.afterCall .inPlace e.dispatched ref c session
        rw [hroute, hroute', h.scene.now, h.dispatched]
        exact ⟨rfl, h.table, h.scheduler, h.pool, h.queue, rfl,
          hcall.congr (.quiet rfl rfl rfl) (.quiet rfl rfl rfl)⟩

/-- What becomes of an arrival on the left and on the right: it fails on both sides, or it comes
back with the same outcome. -/
inductive Arrives (a : SessionRef) :
    Except DispatchFault (Outcome × Engine σ) → Except DispatchFault (Outcome × Engine σ) → Prop
  | fails (fault : DispatchFault) : Arrives a (.error fault) (.error fault)
  | comesBack {e e' : Engine σ} (outcome : Outcome) (h : Agree a e e') :
      Arrives a (.ok (outcome, e)) (.ok (outcome, e'))

theorem arrive (h : Agree a e e') (href : ref ≠ a) (phase : Phase) (env : Envelope) :
    Arrives a (e.arrive phase ref env) (e'.arrive phase ref env) := by
  cases htable : e.table with
  | none =>
      have htable' : e'.table = none := h.table.trans htable
      simp only [Engine.arrive, htable, htable']
      exact .fails _
  | some t =>
      have htable' : e'.table = some t := h.table.trans htable
      cases live : e.scene.connected ref with
      | false =>
          have live' : e'.scene.connected ref = false := (h.scene.connected href).trans live
          simp only [Engine.arrive, htable, htable', live, live']
          exact .fails _
      | true =>
          have live' : e'.scene.connected ref = true := (h.scene.connected href).trans live
          obtain ⟨houtcome, hrouted⟩ := h.route href live t phase env
          rw [arrive_of_connected htable live, arrive_of_connected htable' live', houtcome,
            h.dispatched]
          exact .comesBack _ ⟨hrouted.table, hrouted.scheduler, hrouted.pool, hrouted.queue, rfl,
            hrouted.scene⟩

end Agree
end Engine
end PacketDispatch
