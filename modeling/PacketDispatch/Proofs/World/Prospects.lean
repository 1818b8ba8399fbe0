import Mathlib.Data.List.Perm.Basic
import PacketDispatch.Proofs.Engine.Awaiting
import PacketDispatch.Proofs.World.Conduct
import PacketDispatch.Proofs.World.Ticking

/-!
# Results that can be told beforehand

The result of a call is settled when its message arrives, although the call may be made much later:
a call that waits for the pool is aloof, and one that waits for the world thread is the only one
there and meets its client as it was.  So the results that an engine has, with those that are yet
to come, change only when a message arrives, whatever the pool and the world thread do.
-/

namespace PacketDispatch

/-! ## Phases in a scene -/

namespace Scene

/-- The last phase that each client entered. -/
def phases (s : Scene WorldSession) : List Phase :=
  s.seats.map fun seat => seat.session.login.phase

theorem phases_of_session {s : Scene WorldSession} {ref : SessionRef} {session : WorldSession}
    (h : s.session? ref = some session) : s.phases[ref]? = some session.login.phase := by
  obtain ⟨seat, hseat, rfl⟩ := Option.map_eq_some_iff.mp h
  simp [phases, hseat]

theorem phases_modifySeat (s : Scene WorldSession) (ref : SessionRef)
    {f : Seat WorldSession → Seat WorldSession} {g : Phase → Phase}
    (h : ∀ seat ∈ s.seats[ref]?, (f seat).session.login.phase = g seat.session.login.phase) :
    (s.modifySeat ref f).phases = s.phases.modify ref g := by
  apply List.ext_getElem?
  intro i
  simp only [phases, modifySeat, List.getElem?_map, List.getElem?_modify]
  by_cases hi : ref = i
  · subst hi
    cases hseat : s.seats[ref]? with
    | none => simp
    | some seat => simpa using h seat hseat
  · simp [hi]

theorem phases_of_same_session (s : Scene WorldSession) (ref : SessionRef)
    {f : Seat WorldSession → Seat WorldSession} (h : ∀ seat, (f seat).session = seat.session) :
    (s.modifySeat ref f).phases = s.phases := by
  have hsame := s.phases_modifySeat ref (g := id) fun seat _ =>
    congrArg (fun session : WorldSession => session.login.phase) (h seat)
  rw [hsame, List.modify_id]

@[simp] theorem phases_hold (s : Scene WorldSession) (ref : SessionRef) :
    (s.hold ref).phases = s.phases :=
  s.phases_of_same_session ref fun _ => rfl

@[simp] theorem phases_letGo (s : Scene WorldSession) (ref : SessionRef) :
    (s.letGo ref).phases = s.phases :=
  s.phases_of_same_session ref fun _ => rfl

@[simp] theorem phases_recordJob (s : Scene WorldSession) (ended : JobEnd HandlerError) :
    (s.recordJob ended).phases = s.phases := rfl

@[simp] theorem phases_write (s : Scene WorldSession) (thread : Thread) (remarks : List Remark) :
    (s.write thread remarks).phases = s.phases := rfl

/-- A steady call leaves its client in the phase that could be told before. -/
theorem phases_afterCall {s : Scene WorldSession} {ref : SessionRef} {session : WorldSession}
    {c : Call WorldSession} (lane : Lane) (ticket : Nat) (present : s.session? ref = some session)
    (steady : c.body.Steady) :
    (s.afterCall lane ticket ref c session).phases = s.phases.modify ref c.phaseAfter := by
  refine s.phases_modifySeat ref fun seat hseat => ?_
  obtain rfl : seat.session = session := by
    simpa [session?, Option.mem_def.mp hseat] using present
  exact Call.phase_of_steady steady s.now seat.session

end Scene

/-- A steady call of a job whose client is connected is made, with the result that could be told
before. -/
theorem Job.exists_make_of_steady {j : Job WorldSession} {s : Scene WorldSession} (lane : Lane)
    (live : s.connected j.session = true) (steady : j.call.body.Steady) :
    ∃ phase, s.phases[j.session]? = some phase ∧ (j.make lane s).ended.isGone = false ∧
      (j.make lane s).scene.phases = s.phases.modify j.session j.call.phaseAfter ∧
      (j.make lane s).scene.calls =
        s.calls ++ [⟨j.ticket, j.session, lane, j.call, j.call.resultIn phase⟩] := by
  obtain ⟨session, present⟩ := Scene.exists_session_of_connected live
  obtain ⟨remarks, hmake⟩ := make_of_alive lane (Scene.alive_of_connected live) present
  refine ⟨session.login.phase, Scene.phases_of_session present, ?_, ?_, ?_⟩
  · rw [hmake]
    exact JobEnd.isGone_ofResult _
  · rw [hmake]
    exact Scene.phases_afterCall lane j.ticket present steady
  · rw [hmake, ← Call.isolated_of_steady steady s.now session]
    rfl

/-! ## Phases and results of an engine -/

namespace Engine

/-- The last phase of each client when the world thread has run its jobs. -/
def phases (e : Engine WorldSession) : List Phase :=
  e.queue.pending.foldl (fun phases j => phases.modify j.session j.call.phaseAfter) e.scene.phases

/-- The result of each call by the number of its message: of the calls that were made, of those that
wait for the pool, and of the call that waits for the world thread, where no more than one waits. -/
def results (e : Engine WorldSession) : List (Nat × Except HandlerError Unit) :=
  e.scene.calls.map (fun r => (r.ticket, r.result)) ++
    (e.pool.waiting.map (fun j => (j.ticket, j.call.resultIn .authed)) ++
      e.queue.pending.map fun j =>
        (j.ticket, j.call.resultIn (e.scene.phases[j.session]?.getD .authed)))

/-- Whatever waits is for a client that is connected; what waits for the pool is aloof, and what
waits for the world thread is steady. -/
structure Calm (e : Engine WorldSession) : Prop where
  aloof : ∀ j ∈ e.pool.waiting, j.call.body.Aloof
  steady : ∀ j ∈ e.queue.pending, j.call.body.Steady
  live : ∀ j ∈ e.pool.waiting ++ e.queue.pending, e.scene.connected j.session = true

/-- Work goes on, and everything that could be told before can be told as before. -/
structure Drifts (e e' : Engine WorldSession) : Prop where
  calm : e'.Calm
  phases : e'.phases = e.phases
  results : e'.results.Perm e.results
  dispatched : e'.dispatched = e.dispatched
  isOpen : e'.pool.isOpen = e.pool.isOpen
  free : e.pool.free ≤ e'.pool.free

namespace Drifts

variable {e e' e'' : Engine WorldSession}

theorem refl (calm : e.Calm) : Drifts e e :=
  ⟨calm, rfl, .refl _, rfl, rfl, Nat.le_refl _⟩

theorem trans (h : Drifts e e') (h' : Drifts e' e'') : Drifts e e'' :=
  ⟨h'.calm, h'.phases.trans h.phases, h'.results.trans h.results,
    h'.dispatched.trans h.dispatched, h'.isOpen.trans h.isOpen, Nat.le_trans h.free h'.free⟩

end Drifts

variable {e : Engine WorldSession}

/-! ### Beside the dispatching thread -/

theorem drifts_note (calm : e.Calm) (lines : List Line) : Drifts e (e.note lines) :=
  ⟨⟨calm.aloof, calm.steady, calm.live⟩, rfl, .refl _, rfl, rfl, Nat.le_refl _⟩

theorem drifts_record (calm : e.Calm) (id : Opcode) (outcome : Outcome) :
    Drifts e (e.record id outcome) :=
  ⟨⟨calm.aloof, calm.steady, calm.live⟩, rfl, .refl _, rfl, rfl, Nat.le_refl _⟩

/-- A pool job that starts makes its call, with the result that could be told before. -/
theorem startPooled_of_calm (calm : e.Calm) {place : Nat} {j : Job WorldSession}
    (hfound : e.pool.waiting[place]? = some j) :
    ∃ ended lingers,
      (e.startPooled place).pool =
        { e.pool with waiting := e.pool.waiting.eraseIdx place }.run j ended lingers ∧
      (e.startPooled place).scene.phases = e.scene.phases ∧
      (e.startPooled place).scene.calls =
        e.scene.calls ++ [⟨j.ticket, j.session, .pool, j.call, j.call.resultIn .authed⟩] := by
  have hj : j ∈ e.pool.waiting := List.mem_of_getElem? hfound
  have aloof := calm.aloof j hj
  obtain ⟨phase, -, hgone, hphases, hcalls⟩ :=
    Job.exists_make_of_steady .pool (calm.live j (List.mem_append_left _ hj)) aloof.steady
  have hafter : j.call.phaseAfter = id := funext (Call.phaseAfter_of_aloof aloof)
  rw [hafter, List.modify_id] at hphases
  rw [Call.resultIn_of_aloof aloof phase .authed] at hcalls
  have hstart : e.startPooled place = { e with
      pool := { e.pool with waiting := e.pool.waiting.eraseIdx place }.run j
        (j.make .pool e.scene).ended (j.make .pool e.scene).lingers
      scene := (j.make .pool e.scene).scene.hold j.session } := by
    simp [startPooled, Pool.take?, hfound, hgone]
  rw [hstart]
  exact ⟨_, _, rfl, (Scene.phases_hold _ _).trans hphases,
    (Scene.hold_calls _ _).trans hcalls⟩

theorem drifts_startPooled (calm : e.Calm) (place : Nat) : Drifts e (e.startPooled place) := by
  have haside := e.aside_startPooled place
  cases hfound : e.pool.waiting[place]? with
  | none =>
      have hsame : e.startPooled place = e := by
        simp [startPooled, Pool.take?, hfound]
      rw [hsame]
      exact .refl calm
  | some j =>
      obtain ⟨ended, lingers, hpool, hphases, hcalls⟩ := startPooled_of_calm calm hfound
      have hwaiting : (j :: e.pool.waiting.eraseIdx place).Perm e.pool.waiting := by
        obtain ⟨hplace, rfl⟩ := List.getElem?_eq_some_iff.mp hfound
        exact List.getElem_cons_eraseIdx_perm hplace
      have hsub : ∀ k ∈ e.pool.waiting.eraseIdx place, k ∈ e.pool.waiting :=
        fun k hk => List.mem_of_mem_eraseIdx hk
      refine ⟨⟨?_, ?_, ?_⟩, ?_, ?_, haside.dispatched, ?_, ?_⟩
      · intro k hk
        rw [hpool] at hk
        exact calm.aloof k (hsub k hk)
      · rw [haside.queue]
        exact calm.steady
      · intro k hk
        rw [Scene.connected_congr haside.clients]
        rw [haside.queue, hpool] at hk
        refine calm.live k ?_
        rcases List.mem_append.mp hk with hwaits | hqueue
        · exact List.mem_append_left _ (hsub k hwaits)
        · exact List.mem_append_right _ hqueue
      · rw [phases, phases, haside.queue, hphases]
      · rw [results, results, haside.queue, hphases, hcalls, hpool, List.map_append,
          List.append_assoc]
        refine List.Perm.append_left _ ?_
        rw [← List.append_assoc]
        refine List.Perm.append_right _ ?_
        exact hwaiting.map fun j => (j.ticket, j.call.resultIn .authed)
      · rw [hpool]
        rfl
      · rw [hpool]
        exact Nat.le_refl _

theorem drifts_finishPooled (calm : e.Calm) (place : Nat) : Drifts e (e.finishPooled place) := by
  have haside := e.aside_finishPooled place
  rcases e.finishPooled_cases place with ⟨-, hsame⟩ | ⟨r, pool, hsome, hfinishes⟩
  · rw [hsame]
    exact .refl calm
  · have hscene : (e.finishPooled place).scene.phases = e.scene.phases := by
      simp only [finishPooled, hsome]
      cases r.ended.isGone <;> simp
    have hpool : (e.finishPooled place).pool = { e.pool with
        free := e.pool.free + 1
        running := e.pool.running.eraseIdx place } := by
      have hfinish := hsome
      simp only [Pool.finish?, hfinishes.found, Option.some.injEq, Prod.mk.injEq] at hfinish
      simp only [finishPooled, hsome, ← hfinish.2]
    refine ⟨⟨?_, ?_, ?_⟩, ?_, ?_, haside.dispatched, ?_, ?_⟩
    · rw [hfinishes.waiting]
      exact calm.aloof
    · rw [haside.queue]
      exact calm.steady
    · intro j hj
      rw [Scene.connected_congr haside.clients]
      rw [hfinishes.waiting, haside.queue] at hj
      exact calm.live j hj
    · rw [phases, phases, haside.queue, hscene]
    · rw [results, results, haside.queue, hscene, hfinishes.calls, hfinishes.waiting]
    · rw [hpool]
    · rw [hpool]
      exact Nat.le_succ _

theorem drifts_happenAll (calm : e.Calm) (events : List Background) :
    Drifts e (e.happenAll events) := by
  unfold happenAll
  induction events generalizing e with
  | nil => exact .refl calm
  | cons b events ih =>
      have hfirst : Drifts e (e.happen b) := by
        cases b with
        | start place => exact drifts_startPooled calm place
        | finish place => exact drifts_finishPooled calm place
        | elapse ms =>
            exact ⟨⟨calm.aloof, calm.steady, calm.live⟩, rfl, .refl _, rfl, rfl, Nat.le_refl _⟩
      exact hfirst.trans (ih hfirst.calm)

/-! ### Clients that come -/

theorem phases_of_pending_nil (h : e.queue.pending = []) : e.phases = e.scene.phases := by
  rw [phases, h, List.foldl_nil]

theorem length_phases (settled : e.queue.pending = []) :
    e.phases.length = e.scene.seats.length := by
  rw [phases_of_pending_nil settled]
  exact List.length_map _

/-- A client that comes adds the phase that it comes with. -/
theorem phases_connect (settled : e.queue.pending = []) (session : WorldSession) :
    (e.connect session).2.phases = e.phases ++ [session.login.phase] := by
  have hafter : (e.connect session).2.phases = (e.scene.connect session).2.phases :=
    phases_of_pending_nil settled
  rw [hafter, phases_of_pending_nil settled]
  exact List.map_append

theorem results_connect (settled : e.queue.pending = []) (session : WorldSession) :
    (e.connect session).2.results = e.results := by
  have hafter : (e.connect session).2.queue.pending = [] := settled
  rw [results, results, hafter, settled]
  rfl

end Engine

/-! ### On the world thread -/

/-- A tick over one job at most makes the call that could be told before. -/
theorem World.drifts_tick {w : World WorldSession} (calm : w.engine.Calm)
    (short : w.engine.queue.pending.length ≤ 1) : Engine.Drifts w.engine w.tick.2.engine := by
  rcases nil_or_singleton_of_length_le_one short with hpending | ⟨j, hpending⟩
  · rw [tick_of_pending_nil hpending]
    exact .refl calm
  · have hj : j ∈ w.engine.queue.pending := hpending ▸ List.mem_singleton_self j
    have hlive := calm.live j (List.mem_append_right _ hj)
    obtain ⟨phase, hphase, -, hphases, hcalls⟩ :=
      Job.exists_make_of_steady .world hlive (calm.steady j hj)
    have hclients : (w.tookJob j).engine.scene.clients = w.engine.scene.clients :=
      Scene.clients_make j .world w.engine.scene
    rw [tick_of_pending_singleton hpending]
    refine ⟨⟨calm.aloof, nofun, ?_⟩, ?_, ?_, rfl, rfl, Nat.le_refl _⟩
    · intro k hk
      rw [Scene.connected_congr hclients]
      exact calm.live k (List.mem_append_left _ (by simpa [tookJob] using hk))
    · simp only [Engine.phases, hpending, List.foldl_cons, List.foldl_nil]
      exact hphases
    · have hmade : (w.tookJob j).engine.scene.calls = w.engine.scene.calls ++
          [⟨j.ticket, j.session, .world, j.call, j.call.resultIn phase⟩] := hcalls
      rw [Engine.results, Engine.results, hmade, hpending]
      simp only [tookJob, List.map_append, List.map_cons, List.map_nil, List.append_nil, hphase,
        Option.getD_some, List.append_assoc]
      exact List.Perm.append_left _ List.perm_append_comm

/-! ## Messages -/

/-- What a message comes to: its outcome, the results of the calls that are made for it, and the
last phase of its client after them. -/
structure Answer where
  outcome : Outcome
  results : List (Except HandlerError Unit)
  phase : Phase

/-- What a message comes to for a client that entered a phase last, when there is room for it. The
phase that is passed with it only decides whether it is let in. -/
def Table.answer (t : Table WorldSession) (passed : Phase) (env : Envelope) (entered : Phase) :
    Answer :=
  match t.decide passed env with
  | .stop outcome => ⟨outcome, [], entered⟩
  | .call d c =>
      ⟨if d.lane.deferred then .scheduled d.lane else .ofResult (c.resultIn entered),
        [c.resultIn entered], c.phaseAfter entered⟩

namespace Engine

/-- A message arrived, and what it comes to can be told: one more client phase and the results of
its calls. It took one permit at most. -/
structure Gains (e : Engine WorldSession) (ref : SessionRef) (answer : Answer)
    (e' : Engine WorldSession) : Prop where
  calm : e'.Calm
  phases : e'.phases = e.phases.set ref answer.phase
  results : e'.results.Perm (e.results ++ answer.results.map fun result => (e.dispatched, result))
  isOpen : e'.pool.isOpen = e.pool.isOpen
  free : e.pool.free ≤ e'.pool.free + 1

variable {e : Engine WorldSession} {t : Table WorldSession} {passed entered : Phase}
  {ref : SessionRef} {env : Envelope}

theorem gains_of_stop (calm : e.Calm) (last : e.phases[ref]? = some entered)
    (outcome : Outcome) (lines : List Line) :
    Gains e ref ⟨outcome, [], entered⟩ (e.note lines) where
  calm := ⟨calm.aloof, calm.steady, calm.live⟩
  phases := by
    obtain ⟨hplace, rfl⟩ := List.getElem?_eq_some_iff.mp last
    exact (List.set_getElem_self hplace).symm
  results := by
    rw [List.map_nil, List.append_nil]
    exact .refl _
  isOpen := rfl
  free := Nat.le_succ _

/-- A call where its message arrived leaves its result at once. -/
theorem gains_of_inPlace {c : Call WorldSession} {session : WorldSession} (calm : e.Calm)
    (settled : e.queue.pending = []) (last : e.phases[ref]? = some entered)
    (present : e.scene.session? ref = some session) (steady : c.body.Steady)
    (outcome : Outcome) (remarks : List Remark) :
    (c.body e.scene.now session).ending.isolated = c.resultIn entered ∧
      Gains e ref ⟨outcome, [c.resultIn entered], c.phaseAfter entered⟩
        { e with
          scene := (e.scene.afterCall .inPlace e.dispatched ref c session).write .caller
            remarks } := by
  rw [phases_of_pending_nil settled] at last
  obtain rfl : session.login.phase = entered :=
    Option.some.inj ((Scene.phases_of_session present).symm.trans last)
  have hresult := Call.isolated_of_steady steady e.scene.now session
  refine ⟨hresult, ?_⟩
  let scene := (e.scene.afterCall .inPlace e.dispatched ref c session).write .caller remarks
  have hphases : scene.phases = e.scene.phases.modify ref c.phaseAfter :=
    Scene.phases_afterCall .inPlace e.dispatched present steady
  have hclients : scene.clients = e.scene.clients :=
    Scene.clients_congr (e.scene.presence_afterCall .inPlace e.dispatched ref c session)
  have hcalls : scene.calls = e.scene.calls ++
      [⟨e.dispatched, ref, .inPlace, c, c.resultIn session.login.phase⟩] := by
    rw [← hresult]
    rfl
  refine ⟨⟨calm.aloof, calm.steady, ?_⟩, ?_, ?_, rfl, Nat.le_succ _⟩
  · intro j hj
    exact (Scene.connected_congr hclients j.session).trans (calm.live j hj)
  · have hnow : ({ e with scene := scene } : Engine WorldSession).phases = scene.phases :=
      phases_of_pending_nil settled
    rw [phases_of_pending_nil settled]
    refine hnow.trans (hphases.trans ?_)
    rw [List.modify_eq_set_getElem?, last]
    rfl
  · change List.Perm (scene.calls.map _ ++ (_ ++ e.queue.pending.map _)) _
    rw [results, hcalls, settled, List.map_append, List.append_assoc, List.append_assoc]
    exact List.Perm.append_left _ List.perm_append_comm

/-- A call that waits for the pool comes to the same at any time. -/
theorem gains_of_pool {c : Call WorldSession} (calm : e.Calm) (settled : e.queue.pending = [])
    (last : e.phases[ref]? = some entered) (live : e.scene.connected ref = true)
    (aloof : c.body.Aloof) (outcome : Outcome) (lines : List Line) :
    Gains e ref ⟨outcome, [c.resultIn entered], c.phaseAfter entered⟩
      ((e.withJob .pool (e.jobOf ref env c)).note lines) := by
  refine ⟨⟨?_, calm.steady, ?_⟩, ?_, ?_, rfl, ?_⟩
  · intro j hj
    rcases List.mem_append.mp hj with hold | hnew
    · exact calm.aloof j hold
    · rw [List.mem_singleton.mp hnew]
      exact aloof
  · intro j hj
    change j ∈ (e.pool.waiting ++ [_]) ++ e.queue.pending at hj
    rw [settled, List.append_nil] at hj
    rcases List.mem_append.mp hj with hold | hnew
    · exact calm.live j (List.mem_append_left _ hold)
    · rw [List.mem_singleton.mp hnew]
      exact live
  · obtain ⟨hplace, rfl⟩ := List.getElem?_eq_some_iff.mp last
    rw [Call.phaseAfter_of_aloof aloof, List.set_getElem_self hplace]
    rfl
  · rw [Call.resultIn_of_aloof aloof entered .authed, results, results]
    change List.Perm (_ ++ ((e.pool.waiting ++ [e.jobOf ref env c]).map _ ++ e.queue.pending.map _))
      _
    simp only [settled, List.map_append, List.map_nil, List.append_nil, List.append_assoc]
    exact .refl _
  · exact Nat.le_add_of_sub_le (Nat.le_refl _)

/-- A call that waits for the world thread alone will meet its client as it is. -/
theorem gains_of_world {c : Call WorldSession} (calm : e.Calm) (settled : e.queue.pending = [])
    (last : e.phases[ref]? = some entered) (live : e.scene.connected ref = true)
    (steady : c.body.Steady) (outcome : Outcome) (lines : List Line) :
    Gains e ref ⟨outcome, [c.resultIn entered], c.phaseAfter entered⟩
      ((e.withJob .world (e.jobOf ref env c)).note lines) := by
  have hpending : ((e.withJob .world (e.jobOf ref env c)).note lines).queue.pending =
      [e.jobOf ref env c] := by
    change e.queue.pending ++ [_] = _
    rw [settled, List.nil_append]
  refine ⟨⟨calm.aloof, ?_, ?_⟩, ?_, ?_, rfl, Nat.le_succ _⟩
  · intro j hj
    rw [hpending, List.mem_singleton] at hj
    rw [hj]
    exact steady
  · intro j hj
    rw [hpending] at hj
    rcases List.mem_append.mp hj with hold | hnew
    · exact calm.live j (List.mem_append_left _ hold)
    · rw [List.mem_singleton.mp hnew]
      exact live
  · rw [phases_of_pending_nil settled] at last ⊢
    rw [phases, hpending, List.foldl_cons, List.foldl_nil]
    change e.scene.phases.modify ref c.phaseAfter = _
    rw [List.modify_eq_set_getElem?, last]
    rfl
  · rw [phases_of_pending_nil settled] at last
    rw [results, results, hpending, settled]
    change List.Perm (_ ++ (_ ++ [(e.dispatched, c.resultIn (e.scene.phases[ref]?.getD .authed))]))
      _
    rw [last, List.map_nil, List.append_nil, List.append_assoc]
    exact .refl _

end Engine

namespace Table.Steady

variable {t : Table WorldSession} {passed : Phase} {env : Envelope} {d : Descriptor WorldSession}
  {c : Call WorldSession}

theorem call_steady (h : t.Steady) (hdecide : t.decide passed env = .call d c) :
    c.body.Steady := by
  obtain ⟨hlookup, -, hprepare⟩ := decide_eq_call_iff.mp hdecide
  exact h.steady env.opcode d hlookup env c hprepare

theorem call_aloof (h : t.Steady) (hdecide : t.decide passed env = .call d c)
    (pooled : d.lane = .pool) : c.body.Aloof := by
  obtain ⟨hlookup, -, hprepare⟩ := decide_eq_call_iff.mp hdecide
  exact h.aloof env.opcode d hlookup pooled env c hprepare

end Table.Steady

/-- An engine that nothing keeps from handing messages on: the world queue is clear, and the pool
has a permit left. -/
structure Engine.Roomy (e : Engine WorldSession) : Prop where
  standard : e.scheduler = .standard
  clear : e.queue.Clear
  isOpen : e.pool.isOpen = true
  free : 0 < e.pool.free

theorem Engine.Roomy.hasRoom {e : Engine WorldSession} (h : e.Roomy) {lane : Lane}
    (deferred : lane.deferred = true) : e.HasRoom lane := by
  cases lane with
  | inPlace => cases deferred
  | pool => exact ⟨h.standard, h.isOpen, h.free⟩
  | world =>
      refine ⟨h.standard, h.clear.isOpen, ?_⟩
      rw [WorldQueue.size, h.clear.pending]
      exact h.clear.room

/-- Where nothing is refused for want of room, a message comes to what the table and the last phase
of its client say. -/
theorem Engine.gains_of_route {e : Engine WorldSession} {t : Table WorldSession}
    {entered : Phase} {ref : SessionRef} (hsteady : t.Steady) (roomy : e.Roomy) (calm : e.Calm)
    (last : e.phases[ref]? = some entered) (live : e.scene.connected ref = true) (passed : Phase)
    (env : Envelope) :
    (e.route t passed ref env).1 = (t.answer passed env entered).outcome ∧
      Gains e ref (t.answer passed env entered) (e.route t passed ref env).2 := by
  have settled := roomy.clear.pending
  have hway := way_of_route t passed env live
  generalize e.route t passed ref env = routed at hway
  cases hway with
  | stopped lines hdecide =>
      simp only [Table.answer, hdecide]
      exact ⟨trivial, gains_of_stop calm last _ lines⟩
  | ranInPlace remarks hdecide inPlace present =>
      simp only [Table.answer, hdecide, inPlace, Lane.deferred, Bool.false_eq_true, if_false]
      obtain ⟨hresult, gains⟩ := gains_of_inPlace calm settled last present
        (hsteady.call_steady hdecide) _ remarks
      exact ⟨congrArg Outcome.ofResult hresult, gains⟩
  | @handedOn d c lines hdecide deferred room =>
      simp only [Table.answer, hdecide, deferred, if_true]
      refine ⟨trivial, ?_⟩
      cases hlane : d.lane with
      | inPlace => simp [hlane, Lane.deferred] at deferred
      | pool =>
          exact gains_of_pool calm settled last live (hsteady.call_aloof hdecide hlane) _ lines
      | world => exact gains_of_world calm settled last live (hsteady.call_steady hdecide) _ lines
  | refused lines hdecide deferred full => exact absurd (roomy.hasRoom deferred) full

/-- Such a message arrives, and its answer can be told. -/
theorem Engine.exists_gains_of_arrive {e : Engine WorldSession} {t : Table WorldSession}
    {entered : Phase} {ref : SessionRef} (hsteady : t.Steady) (installed : e.table = some t)
    (roomy : e.Roomy) (calm : e.Calm) (last : e.phases[ref]? = some entered)
    (live : e.scene.connected ref = true) (passed : Phase) (env : Envelope) :
    ∃ answer arrived, answer = t.answer passed env entered ∧
      e.arrive passed ref env = .ok (answer.outcome, arrived) ∧
      Gains e ref answer arrived ∧ arrived.dispatched = e.dispatched + 1 := by
  obtain ⟨houtcome, gains⟩ := gains_of_route hsteady roomy calm last live passed env
  refine ⟨_, { (e.route t passed ref env).2 with dispatched := e.dispatched + 1 }, rfl, ?_,
    ⟨⟨gains.calm.aloof, gains.calm.steady, gains.calm.live⟩, gains.phases, gains.results,
      gains.isOpen, gains.free⟩, rfl⟩
  rw [arrive_of_connected installed live, houtcome]

end PacketDispatch
