import PacketDispatch.Engine.Background
import PacketDispatch.Proofs.Engine.Arrival

/-!
# Clients that stay

Messages, passes and pool threads change the values of sessions and who is busy with them.  They
never change whose client is connected: that is for the clients to do.  What happens beside the
dispatching thread changes neither the table nor the world queue.
-/

namespace PacketDispatch

variable {σ : Type}

/-! ## Scenes -/

namespace Scene

/-- For each seat whether its client is connected. -/
def clients (s : Scene σ) : List Bool :=
  s.seats.map Seat.connected

@[simp] theorem length_clients (s : Scene σ) : s.clients.length = s.seats.length :=
  List.length_map _

theorem connected_eq_clients (s : Scene σ) (ref : SessionRef) :
    s.connected ref = s.clients[ref]?.getD false := by
  cases h : s.seats[ref]? with
  | none => simp [connected, clients, h]
  | some seat => simp [connected, clients, h]

theorem connected_congr {s s' : Scene σ} (h : s'.clients = s.clients) (ref : SessionRef) :
    s'.connected ref = s.connected ref := by
  rw [connected_eq_clients, connected_eq_clients, h]

theorem clients_congr {s s' : Scene σ} (h : s'.presence = s.presence) : s'.clients = s.clients := by
  have hfst : ∀ s : Scene σ, s.clients = s.presence.map Prod.fst := by
    intro s
    simp [clients, presence]
  rw [hfst, hfst, h]

/-- A client that is connected has its session there. -/
theorem alive_of_connected {s : Scene σ} {ref : SessionRef} (h : s.connected ref = true) :
    s.alive ref = true := by
  cases hseat : s.seats[ref]? with
  | none => simp [connected, hseat] at h
  | some seat =>
      simp only [connected, hseat] at h
      simp [alive, hseat, Seat.alive, h]

theorem clients_modifySeat (s : Scene σ) (ref : SessionRef) {f : Seat σ → Seat σ}
    (h : ∀ seat, (f seat).connected = seat.connected) :
    (s.modifySeat ref f).clients = s.clients := by
  apply List.ext_getElem?
  intro i
  simp only [clients, modifySeat, List.getElem?_map, List.getElem?_modify]
  by_cases hi : ref = i
  · cases s.seats[i]? <;> simp [hi, h]
  · simp [hi]

@[simp] theorem clients_hold (s : Scene σ) (ref : SessionRef) : (s.hold ref).clients = s.clients :=
  s.clients_modifySeat ref fun _ => rfl

@[simp] theorem clients_letGo (s : Scene σ) (ref : SessionRef) :
    (s.letGo ref).clients = s.clients :=
  s.clients_modifySeat ref fun _ => rfl

@[simp] theorem clients_recordJob (s : Scene σ) (ended : JobEnd HandlerError) :
    (s.recordJob ended).clients = s.clients := rfl

theorem clients_connect (s : Scene σ) (session : σ) :
    (s.connect session).2.clients = s.clients ++ [true] := by
  simp [connect, clients]

/-- A new client takes the place of no other. -/
theorem connected_connect {s : Scene σ} {ref : SessionRef} (session : σ)
    (h : s.connected ref = true) : (s.connect session).2.connected ref = true := by
  rw [connected_eq_clients] at h
  rw [connected_eq_clients, clients_connect]
  cases hclient : s.clients[ref]? with
  | none => simp [hclient] at h
  | some client =>
      rw [List.getElem?_append_left (List.getElem?_eq_some_iff.mp hclient).1]
      exact h

theorem connected_newcomer (s : Scene σ) (session : σ) :
    (s.connect session).2.connected (s.connect session).1 = true := by
  rw [connected_eq_clients, clients_connect]
  simp [connect, clients]

@[simp] theorem clients_make (j : Job σ) (lane : Lane) (s : Scene σ) :
    (j.make lane s).scene.clients = s.clients :=
  clients_congr (j.make_spec lane s).presence

end Scene

/-! ## Engines -/

namespace Engine

@[simp] theorem clients_note (e : Engine σ) (lines : List Line) :
    (e.note lines).scene.clients = e.scene.clients := rfl

/-- What stays the same in an engine whatever happens beside its dispatching thread. -/
structure Aside (e e' : Engine σ) : Prop where
  table : e'.table = e.table
  scheduler : e'.scheduler = e.scheduler
  queue : e'.queue = e.queue
  dispatched : e'.dispatched = e.dispatched
  clients : e'.scene.clients = e.scene.clients

theorem Aside.refl (e : Engine σ) : Aside e e :=
  ⟨rfl, rfl, rfl, rfl, rfl⟩

theorem Aside.trans {e e' e'' : Engine σ} (h : Aside e e') (h' : Aside e' e'') : Aside e e'' :=
  ⟨h'.table.trans h.table, h'.scheduler.trans h.scheduler, h'.queue.trans h.queue,
    h'.dispatched.trans h.dispatched, h'.clients.trans h.clients⟩

theorem aside_startPooled (e : Engine σ) (place : Nat) : Aside e (e.startPooled place) := by
  unfold startPooled
  cases e.pool.take? place with
  | none => exact .refl e
  | some taken =>
      obtain ⟨j, pool⟩ := taken
      refine ⟨rfl, rfl, rfl, rfl, ?_⟩
      cases hgone : (j.make .pool e.scene).ended.isGone <;> simp [hgone]

theorem aside_finishPooled (e : Engine σ) (place : Nat) : Aside e (e.finishPooled place) := by
  unfold finishPooled
  cases e.pool.finish? place with
  | none => exact .refl e
  | some finished =>
      obtain ⟨r, pool⟩ := finished
      refine ⟨rfl, rfl, rfl, rfl, ?_⟩
      cases hgone : r.ended.isGone <;> simp [hgone]

theorem aside_happen (e : Engine σ) (b : Background) : Aside e (e.happen b) := by
  cases b with
  | start place => exact e.aside_startPooled place
  | finish place => exact e.aside_finishPooled place
  | elapse ms => exact ⟨rfl, rfl, rfl, rfl, rfl⟩

theorem aside_happenAll (e : Engine σ) (events : List Background) :
    Aside e (e.happenAll events) := by
  unfold happenAll
  induction events generalizing e with
  | nil => exact .refl e
  | cons b events ih => exact (e.aside_happen b).trans (ih (e.happen b))

variable {e e' : Engine σ} {t : Table σ} {phase : Phase} {ref : SessionRef} {env : Envelope}
  {outcome : Outcome}

theorem clients_of_arrive (installed : e.table = some t)
    (h : e.arrive phase ref env = .ok (outcome, e')) : e'.scene.clients = e.scene.clients :=
  Scene.clients_congr (admits_of_arrive installed h).presence

theorem clients_of_dispatch (installed : e.table = some t)
    (h : e.dispatch phase ref env = .ok (outcome, e')) : e'.scene.clients = e.scene.clients := by
  unfold dispatch at h
  cases harrive : e.arrive phase ref env with
  | error fault => simp [harrive] at h
  | ok arrived =>
      rw [harrive] at h
      obtain ⟨-, rfl⟩ := Prod.mk.inj (Except.ok.inj h)
      have harrived : arrived.2.scene.clients = e.scene.clients :=
        clients_of_arrive installed harrive
      exact harrived

theorem clients_runUpTo (limit : Nat) (q : WorldQueue (Job σ)) (s : Scene σ) :
    (q.runUpTo Job.run limit s).state.clients = s.clients := by
  induction limit generalizing q s with
  | zero => rfl
  | succ limit ih =>
      cases hpop : q.pop? with
      | none => simp [WorldQueue.runUpTo, hpop]
      | some popped =>
          obtain ⟨j, q'⟩ := popped
          have hrest := ih q' ((j.make .world s).scene.recordJob (j.make .world s).ended)
          rw [Scene.clients_recordJob, Scene.clients_make] at hrest
          simpa [WorldQueue.runUpTo, hpop, Job.run] using hrest

/-- Nor does the world thread. -/
theorem clients_drain (e : Engine σ) (budget : Nat) :
    (e.drain budget).2.scene.clients = e.scene.clients :=
  clients_runUpTo _ e.queue e.scene

end Engine
end PacketDispatch
