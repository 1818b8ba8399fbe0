import PacketDispatch.Proofs.Engine.Precedence
import PacketDispatch.Proofs.Traffic.Departure

/-!
# A departure disturbs nobody

Two runs are compared that differ in one thing: in one of them a session leaves at some point, in
the other it stays and is silent.  No message goes to the pool.  The runs agree beside that session
at every point: its jobs take the same places in the world queue and the same share of every pass,
whether they make their calls or are discarded.
-/

namespace PacketDispatch

variable {σ : Type} {a : SessionRef}

/-! ## Events of a comparison -/

namespace Event

/-- The event does not bring a message to the pool. -/
def offPool (t : Table σ) : Event σ → Bool
  | .dispatch _ _ env | .arrive _ _ env => t.laneOf env.opcode ≠ .pool
  | _ => true

/-- The event is a message of a session. -/
def sentBy (a : SessionRef) : Event σ → Bool
  | .dispatch _ ref _ | .arrive _ ref _ => ref = a
  | _ => false

end Event

/-- A client that disconnects leaves the pool threads that hold its session as they are. -/
theorem Scene.mem_presence_disconnect {s : Scene σ} {ref : SessionRef} {p : Bool × Nat}
    (h : p ∈ (s.disconnect ref).presence) :
    ∃ q ∈ s.presence, p.2 = q.2 := by
  rw [presence_disconnect] at h
  obtain ⟨i, hi⟩ := List.mem_iff_getElem?.mp h
  rw [List.getElem?_modify] at hi
  cases hpresence : s.presence[i]? with
  | none => simp [hpresence] at hi
  | some q =>
      rw [hpresence] at hi
      obtain rfl := Option.some.inj hi
      refine ⟨q, List.mem_of_getElem? hpresence, ?_⟩
      by_cases href : ref = i
      · simp only [href, if_true]
      · simp only [href, if_false]

namespace Traffic

variable {t : Table σ} {s s' : Traffic σ}

/-! ## An idle pool -/

/-- The pool never had a job, and no session is held by one of its threads. -/
structure PoolIdle (s : Traffic σ) : Prop where
  waiting : s.engine.pool.waiting = []
  running : s.engine.pool.running = []
  pooled : s.pooled = []
  holders : ∀ p ∈ s.engine.scene.presence, p.2 = 0

namespace PoolIdle

theorem opening (scheduler : Scheduler) (permits capacity : Nat) (t : Table σ) :
    PoolIdle (Traffic.opening scheduler permits capacity t) :=
  ⟨rfl, rfl, rfl, by simp [Traffic.opening, start, Engine.create, Engine.withTable, Scene.empty,
    Scene.presence]⟩

theorem of_same (h : PoolIdle s) (waiting : s'.engine.pool.waiting = s.engine.pool.waiting)
    (running : s'.engine.pool.running = s.engine.pool.running) (pooled : s'.pooled = s.pooled)
    (presence : s'.engine.scene.presence = s.engine.scene.presence) :
    PoolIdle s' :=
  ⟨waiting.trans h.waiting, running.trans h.running, pooled.trans h.pooled, by
    rw [presence]
    exact h.holders⟩

theorem arrive (h : PoolIdle s) (installed : s.engine.table = some t) (phase : Phase)
    (ref : SessionRef) (env : Envelope) (offPool : t.laneOf env.opcode ≠ .pool) :
    PoolIdle (s.arrive phase ref env) := by
  rcases s.arrive_cases phase ref env with hsame | ⟨outcome, hbegins⟩
  · rw [hsame]
    exact h
  · generalize s.arrive phase ref env = s' at hbegins ⊢
    have hadmits : Engine.Admits t s.engine (s.arrival phase ref env outcome) s'.engine :=
      Engine.admits_of_arrive installed hbegins.engine
    obtain ⟨hlive, houtcome⟩ := Engine.route_of_arrive installed hbegins.engine
    have hdecides := Engine.decides_of_route t phase env hlive
    rw [houtcome] at hdecides
    have hjobs : (s.arrival phase ref env outcome).jobs t .pool = [] :=
      Arrival.jobs_of_not_scheduled fun hpool => offPool ((hdecides.scheduled .pool).mp hpool).1
    refine h.of_same ?_ ?_ hbegins.pooled hadmits.presence
    · rw [hadmits.pool, hjobs]
      exact List.append_nil _
    · rw [hadmits.pool]

theorem settle (h : PoolIdle s) (place : Nat) :
    PoolIdle (s.settle place) := by
  unfold Traffic.settle
  split
  · exact h
  · exact h.of_same rfl rfl rfl rfl

theorem next (h : PoolIdle s) :
    PoolIdle s.next := by
  rcases s.next_cases with hsame | ⟨j, ended, htakes⟩
  · rw [hsame]
    exact h
  · exact h.of_same (by rw [htakes.pool]) (by rw [htakes.pool]) htakes.pooled htakes.presence

theorem proceed (h : PoolIdle s) (limit : Nat) :
    PoolIdle (s.proceed limit) := by
  rw [proceed_eq_iterate_next]
  exact Function.Iterate.rec PoolIdle h (fun _ => PoolIdle.next) limit

theorem startPooled_eq (h : PoolIdle s) (place : Nat) :
    s.engine.startPooled place = s.engine := by
  simp [Engine.startPooled, Pool.take?, h.waiting]

theorem finish_eq (h : PoolIdle s) (place : Nat) :
    s.finish place = s := by
  simp [finish, Engine.finishPooled, Pool.finish?, h.running]

theorem step (h : PoolIdle s) (installed : s.engine.table = some t) (event : Event σ)
    (offPool : event.offPool t = true) :
    PoolIdle (s.step event) := by
  cases event with
  | install replacement =>
      simp only [Traffic.step, mapEngine, Engine.install, installed]
      exact h.of_same rfl rfl rfl rfl
  | connect session =>
      refine ⟨h.waiting, h.running, h.pooled, ?_⟩
      intro p hp
      change p ∈ (s.engine.scene.connect session).2.presence at hp
      rw [Scene.presence_connect, List.mem_append, List.mem_singleton] at hp
      rcases hp with hold | rfl
      · exact h.holders p hold
      · rfl
  | disconnect ref =>
      refine ⟨h.waiting, h.running, h.pooled, ?_⟩
      intro p hp
      obtain ⟨q, hq, hholders⟩ := Scene.mem_presence_disconnect hp
      exact hholders.trans (h.holders q hq)
  | dispatch phase ref env =>
      change PoolIdle (s.dispatch phase ref env)
      rw [dispatch_eq_settle_arrive]
      exact (h.arrive installed phase ref env (by simpa [Event.offPool] using offPool)).settle _
  | arrive phase ref env =>
      exact h.arrive installed phase ref env (by simpa [Event.offPool] using offPool)
  | settle place => exact h.settle place
  | drain budget =>
      obtain ⟨lines, hdrain⟩ := s.drain_eq_note_proceed budget
      change PoolIdle (s.drain budget)
      rw [hdrain]
      exact (h.proceed _).of_same rfl rfl rfl rfl
  | proceed limit => exact h.proceed limit
  | closeQueue | closePool => exact h.of_same rfl rfl rfl rfl
  | beside b =>
      cases b with
      | start place =>
          change PoolIdle (s.mapEngine fun e => e.startPooled place)
          simpa only [mapEngine, h.startPooled_eq] using h
      | finish place =>
          change PoolIdle (s.finish place)
          rw [h.finish_eq]
          exact h
      | elapse ms => exact h.of_same rfl rfl rfl rfl

theorem run (h : PoolIdle s) (ledger : Ledger t s) (events : List (Event σ))
    (offPool : ∀ event ∈ events, event.offPool t = true) :
    PoolIdle (s.run events) := by
  induction events generalizing s with
  | nil => exact h
  | cons event events ih =>
      have hstep := h.step ledger.installed event (offPool event List.mem_cons_self)
      have hledger : Ledger t (s.step event) := (Ledger.lasts t).step event ledger
      exact ih hstep hledger fun later hlater => offPool later (List.mem_cons_of_mem _ hlater)

/-- Without threads that hold it, a session is gone when its client is. -/
theorem alive_disconnect (h : PoolIdle s) (ref : SessionRef) :
    (s.engine.disconnect ref).scene.alive ref = false := by
  change (s.engine.scene.disconnect ref).alive ref = false
  rw [Scene.alive_eq_presence, Scene.presence_disconnect, List.getElem?_modify]
  cases hpresence : s.engine.scene.presence[ref]? with
  | none => rfl
  | some p =>
      have hp := h.holders p (List.mem_of_getElem? hpresence)
      simp [hp]

end PoolIdle

/-! ## Agreement beside a session -/

/-- Two runs that nobody but one session can tell apart: the engines agree beside it, the same
messages arrived with the same outcomes, and the world thread took the same jobs. -/
structure Agree (a : SessionRef) (s s' : Traffic σ) : Prop where
  engine : s.engine.Agree a s'.engine
  underway : s'.underway = s.underway
  arrivals : s'.arrivals = s.arrivals
  drained : s'.drained.map Prod.fst = s.drained.map Prod.fst

namespace Agree

/-- A session that leaves is the only one that notices. -/
theorem disconnect_self (a : SessionRef) (s : Traffic σ) :
    Agree a s (s.step (.disconnect a)) :=
  ⟨.disconnect_self a s.engine, rfl, rfl, rfl⟩

/-- Events that change the engines alone keep the agreement when the engines agree after them. -/
theorem mapEngine (h : Agree a s s') {f f' : Engine σ → Engine σ}
    (engine : (f s.engine).Agree a (f' s'.engine)) :
    Agree a (s.mapEngine f) (s'.mapEngine f') :=
  ⟨engine, h.underway, h.arrivals, h.drained⟩

theorem arrive (h : Agree a s s') {ref : SessionRef} (href : ref ≠ a) (phase : Phase)
    (env : Envelope) :
    Agree a (s.arrive phase ref env) (s'.arrive phase ref env) := by
  have harrives := h.engine.arrive href phase env
  have harrival : ∀ outcome,
      s'.arrival phase ref env outcome = s.arrival phase ref env outcome := by
    intro outcome
    simp only [arrival, h.engine.dispatched]
  simp only [Traffic.arrive]
  generalize s.engine.arrive phase ref env = arrived at harrives ⊢
  generalize s'.engine.arrive phase ref env = arrived' at harrives ⊢
  cases harrives with
  | fails fault => exact h
  | comesBack outcome hengine =>
      exact ⟨hengine, by simp only [h.underway], by simp only [h.arrivals, harrival], h.drained⟩

theorem settle (h : Agree a s s') (place : Nat) :
    Agree a (s.settle place) (s'.settle place) := by
  simp only [Traffic.settle, h.underway]
  cases s.underway[place]? with
  | none => exact h
  | some p => exact ⟨h.engine.record p.1 p.2, rfl, h.arrivals, h.drained⟩

/-- The next job is the same on both sides, whether or not it makes its call. -/
theorem next (h : Agree a s s') :
    Agree a s.next s'.next := by
  cases hpending : s.engine.queue.pending with
  | nil =>
      have hpending' : s'.engine.queue.pending = [] := by rw [h.engine.queue, hpending]
      simp only [Traffic.next, hpending, hpending']
      exact h
  | cons j rest =>
      have hpending' : s'.engine.queue.pending = j :: rest := by rw [h.engine.queue, hpending]
      have hmake := h.engine.scene.make j .world
      simp only [Traffic.next, hpending, hpending']
      exact {
        engine := ⟨h.engine.table, h.engine.scheduler, h.engine.pool, by
            simp only [h.engine.queue], h.engine.dispatched,
          hmake.congr (.quiet rfl rfl rfl) (.quiet rfl rfl rfl)⟩
        underway := h.underway
        arrivals := h.arrivals
        drained := by simp only [List.map_append, h.drained, List.map_cons, List.map_nil] }

theorem proceed (h : Agree a s s') (limit : Nat) :
    Agree a (s.proceed limit) (s'.proceed limit) := by
  rw [proceed_eq_iterate_next, proceed_eq_iterate_next]
  induction limit with
  | zero => exact h
  | succ limit ih =>
      rw [Function.iterate_succ_apply', Function.iterate_succ_apply']
      exact ih.next

theorem drain (h : Agree a s s') (budget : Nat) :
    Agree a (s.drain budget) (s'.drain budget) := by
  obtain ⟨lines, hdrain⟩ := s.drain_eq_note_proceed budget
  obtain ⟨lines', hdrain'⟩ := s'.drain_eq_note_proceed budget
  rw [hdrain, hdrain', h.engine.queue]
  have hproceed := h.proceed (WorldQueue.passLimit budget s.engine.queue)
  exact hproceed.mapEngine (hproceed.engine.note lines lines')

/-- Whatever happens but a message of the session itself happens alike on both sides. -/
theorem step (h : Agree a s s') (idle : PoolIdle s) (idle' : PoolIdle s') (event : Event σ)
    (other : event.sentBy a = false) :
    Agree a (s.step event) (s'.step event) := by
  have hengine := h.engine
  cases event with
  | install t =>
      simp only [Traffic.step]
      exact h.mapEngine (hengine.install t)
  | connect session =>
      simp only [Traffic.step]
      exact h.mapEngine (hengine.connect session)
  | disconnect ref =>
      simp only [Traffic.step]
      exact h.mapEngine (hengine.disconnect ref)
  | dispatch phase ref env =>
      have href : ref ≠ a := by simpa [Event.sentBy] using other
      change Agree a (s.dispatch phase ref env) (s'.dispatch phase ref env)
      rw [dispatch_eq_settle_arrive, dispatch_eq_settle_arrive, h.underway]
      exact (h.arrive href phase env).settle _
  | arrive phase ref env =>
      have href : ref ≠ a := by simpa [Event.sentBy] using other
      exact h.arrive href phase env
  | settle place => exact h.settle place
  | drain budget => exact h.drain budget
  | proceed limit => exact h.proceed limit
  | closeQueue =>
      simp only [Traffic.step]
      exact h.mapEngine hengine.closeQueue
  | closePool =>
      simp only [Traffic.step]
      exact h.mapEngine hengine.closePool
  | beside b =>
      cases b with
      | start place =>
          simp only [Traffic.step, beside]
          refine h.mapEngine ?_
          simp only [Engine.happen, idle.startPooled_eq, idle'.startPooled_eq]
          exact hengine
      | finish place =>
          simp only [Traffic.step, beside, idle.finish_eq, idle'.finish_eq]
          exact h
      | elapse ms =>
          simp only [Traffic.step, beside]
          exact h.mapEngine (hengine.advance ms)

end Agree
end Traffic

/-! ## Reports of passes -/

/-- How many jobs a pass took, and how many it left. -/
def PassReport.extent (r : PassReport) : Nat × Nat :=
  (r.executed, r.remaining)

/-- How many jobs passes discarded since their sessions were gone, by the reports of the passes. -/
def PassReport.totalGone : List PassReport → Nat
  | [] => 0
  | r :: rest => r.sessionsGone + totalGone rest

@[simp] theorem PassReport.totalGone_append (first second : List PassReport) :
    totalGone (first ++ second) = totalGone first + totalGone second := by
  induction first with
  | nil => simp [totalGone]
  | cons r rest ih =>
      simp only [List.cons_append, totalGone, ih]
      omega

namespace Traffic

variable {t : Table σ} {s s' : Traffic σ}

/-- What is reported of an event that is a pass or a part of one. -/
def report? (s : Traffic σ) : Event σ → Option PassReport
  | .drain budget => some (s.engine.drain budget).1
  | .proceed limit => some (s.engine.queue.runUpTo Job.run limit s.engine.scene).report
  | _ => none

/-- The reports of the passes of a run, in order. -/
def reports (s : Traffic σ) : List (Event σ) → List PassReport
  | [] => []
  | event :: events => (s.report? event).toList ++ (s.step event).reports events

theorem Agree.extent_report (h : Agree a s s') (limit : Nat) :
    (s'.engine.queue.runUpTo Job.run limit s'.engine.scene).report.extent =
      (s.engine.queue.runUpTo Job.run limit s.engine.scene).report.extent := by
  have hproceed := h.proceed limit
  have hdrained := hproceed.drained
  simp only [Traffic.proceed, List.map_append, h.drained] at hdrained
  have hran := congrArg List.length (List.append_cancel_left hdrained)
  simp only [List.length_map] at hran
  have hqueue := hproceed.engine.queue
  simp only [Traffic.proceed] at hqueue
  simp only [Pass.report, PassReport.extent, hran, hqueue]

theorem Agree.extent_report? (h : Agree a s s') (event : Event σ) :
    (s'.report? event).map PassReport.extent = (s.report? event).map PassReport.extent := by
  cases event with
  | drain budget =>
      have hextent := h.extent_report (WorldQueue.passLimit budget s.engine.queue)
      simp only [h.engine.queue] at hextent
      simp only [report?, Engine.drain, WorldQueue.pass, Option.map_some, h.engine.queue, hextent]
  | proceed limit =>
      simp only [report?, Option.map_some]
      rw [h.extent_report]
  | _ => rfl

/-- Runs that agree at first agree at the end, and their passes had the same extents. -/
theorem Agree.run (h : Agree a s s') (ledger : Ledger t s) (idle : PoolIdle s)
    (idle' : PoolIdle s') (events : List (Event σ))
    (offPool : ∀ event ∈ events, event.offPool t = true)
    (silent : ∀ event ∈ events, event.sentBy a = false) :
    Agree a (s.run events) (s'.run events) ∧
      (s'.reports events).map PassReport.extent = (s.reports events).map PassReport.extent := by
  induction events generalizing s s' with
  | nil => exact ⟨h, rfl⟩
  | cons event events ih =>
      have hoff := offPool event List.mem_cons_self
      have hsilent := silent event List.mem_cons_self
      have installed' : s'.engine.table = some t := h.engine.table.trans ledger.installed
      obtain ⟨hagree, hreports⟩ := ih (h.step idle idle' event hsilent)
        ((Ledger.lasts t).step event ledger) (idle.step ledger.installed event hoff)
        (idle'.step installed' event hoff)
        (fun later hlater => offPool later (List.mem_cons_of_mem _ hlater))
        (fun later hlater => silent later (List.mem_cons_of_mem _ hlater))
      refine ⟨hagree, ?_⟩
      have hreport := congrArg Option.toList (h.extent_report? event)
      rw [Option.toList_map, Option.toList_map] at hreport
      simp only [reports, List.map_append, hreport, hreports]

/-! ### Discarded jobs in the reports -/

@[simp] theorem arrive_drained (s : Traffic σ) (phase : Phase) (ref : SessionRef)
    (env : Envelope) :
    (s.arrive phase ref env).drained = s.drained := by
  rcases s.arrive_cases phase ref env with hsame | ⟨outcome, hbegins⟩
  · rw [hsame]
  · exact hbegins.drained

@[simp] theorem settle_drained (s : Traffic σ) (place : Nat) :
    (s.settle place).drained = s.drained := by
  unfold settle
  split <;> rfl

/-- A pass reports the jobs that it discarded, and no other event discards any. -/
theorem goneIn_step (s : Traffic σ) (event : Event σ) :
    goneIn (s.step event).drained =
      goneIn s.drained + PassReport.totalGone (s.report? event).toList := by
  cases event with
  | drain budget =>
      simp only [step, drain, goneIn_append, report?, Engine.drain, Option.toList_some]
      rfl
  | proceed limit =>
      simp only [step, proceed, goneIn_append, report?, Option.toList_some]
      rfl
  | dispatch phase ref env =>
      simp [step, dispatch_eq_settle_arrive, report?, PassReport.totalGone]
  | arrive phase ref env => simp [step, report?, PassReport.totalGone]
  | settle place => simp [step, report?, PassReport.totalGone]
  | beside b => cases b <;> rfl
  | install t | connect session | disconnect ref | closeQueue | closePool => rfl

theorem goneIn_run (s : Traffic σ) (events : List (Event σ)) :
    goneIn (s.run events).drained =
      goneIn s.drained + PassReport.totalGone (s.reports events) := by
  induction events generalizing s with
  | nil => rfl
  | cons event events ih =>
      have hrest := ih (s.step event)
      rw [goneIn_step] at hrest
      simp only [reports, PassReport.totalGone_append]
      exact hrest.trans (Nat.add_assoc _ _ _)

/-- Without a pool, only the world thread discards jobs. -/
theorem PoolIdle.sessionsGone_eq (h : PoolIdle s) (counted : GoneCounted s) :
    s.engine.scene.tally.sessionsGone = goneIn s.drained := by
  unfold GoneCounted at counted
  rw [h.pooled] at counted
  exact counted

/-- The jobs discarded since a session was gone are all those of the session, and some of others. -/
theorem Discards.goneIn_drained {taken : List (Job σ × JobEnd HandlerError)}
    (h : Discards a s s' taken) :
    goneIn s'.drained = goneIn s.drained +
      ((taken.countP fun p => p.1.session = a) +
        goneIn (taken.filter fun p => p.1.session ≠ a)) := by
  rw [h.drained, goneIn_append, goneIn_eq_add h.gone]

/-! ## The two runs -/

/-- A session leaves at some point of a run without pool messages; compare the run in which it stays
and is silent. After it left no call is made on it. Its jobs that waited then are discarded in their
order, and each is counted once, by the counter of such jobs and by the pass that took it. All
dispatches have the same outcomes in both runs, the calls on the other sessions and their values are
the same, and every pass takes and leaves as many jobs. -/
theorem departure_disturbs_nobody
    (scheduler : Scheduler) (permits capacity : Nat) (t : Table σ)
    (before after : List (Event σ)) (a : SessionRef)
    (offPool : ∀ event ∈ before ++ after, event.offPool t = true)
    (silent : ∀ event ∈ after, event.sentBy a = false)
    (seated : a < ((opening scheduler permits capacity t).run before).engine.scene.seats.length) :
    let s := (opening scheduler permits capacity t).run before
    let left := s.step (.disconnect a)
    let dropped := left.run after
    let kept := s.run after
    dropped.engine.scene.callsOn a = s.engine.scene.callsOn a ∧
      (∃ taken, Discards a s dropped taken ∧
        let discarded := (taken.countP fun p => p.1.session = a) +
          goneIn (taken.filter fun p => p.1.session ≠ a)
        dropped.engine.scene.tally.sessionsGone =
            s.engine.scene.tally.sessionsGone + discarded ∧
          PassReport.totalGone (left.reports after) = discarded) ∧
      dropped.arrivals = kept.arrivals ∧
      dropped.engine.scene.callsBeside a = kept.engine.scene.callsBeside a ∧
      (∀ ref, ref ≠ a → dropped.engine.scene.session? ref = kept.engine.scene.session? ref) ∧
      (left.reports after).map PassReport.extent = (s.reports after).map PassReport.extent := by
  intro s left dropped kept
  have hbefore : ∀ event ∈ before, event.offPool t = true :=
    fun event hevent => offPool event (List.mem_append_left _ hevent)
  have hafter : ∀ event ∈ after, event.offPool t = true :=
    fun event hevent => offPool event (List.mem_append_right _ hevent)
  have ledger : Ledger t s := Ledger.run scheduler permits capacity t before
  have idle : PoolIdle s := (PoolIdle.opening scheduler permits capacity t).run
    (Ledger.opening scheduler permits capacity t) before hbefore
  have hledger : Ledger t left := (Ledger.lasts t).step (.disconnect a) ledger
  have hidle : PoolIdle left := idle.step ledger.installed (.disconnect a) rfl
  obtain ⟨hagree, hreports⟩ :=
    (Agree.disconnect_self a s).run ledger idle hidle after hafter silent
  have hseated : a < left.engine.scene.seats.length := by
    rw [(Agree.disconnect_self a s).engine.scene.length]
    exact seated
  have hdeparted : Departed a left dropped :=
    (Departed.lasts a left).run after (.refl hseated (idle.alive_disconnect a))
  obtain ⟨taken, hdiscards⟩ := hdeparted.discards
  have hdrained := hdiscards.goneIn_drained
  have hcounted : GoneCounted s := GoneCounted.run scheduler permits capacity t before
  have hcounts : s.engine.scene.tally.sessionsGone = goneIn left.drained :=
    idle.sessionsGone_eq hcounted
  have hcounts' : dropped.engine.scene.tally.sessionsGone = goneIn dropped.drained :=
    (hidle.run hledger after hafter).sessionsGone_eq
      (GoneCounted.lasts.run after (GoneCounted.lasts.step (.disconnect a) hcounted))
  have hreported : goneIn dropped.drained =
      goneIn left.drained + PassReport.totalGone (left.reports after) :=
    left.goneIn_run after
  refine ⟨hdeparted.calls, ⟨taken, ⟨hdiscards.drained, hdiscards.gone, hdiscards.pending⟩, ?_, ?_⟩,
    hagree.arrivals, hagree.engine.scene.calls,
    fun _ href => hagree.engine.scene.session? href, hreports⟩
  · rw [hcounts', hcounts, hdrained]
  · exact Nat.add_left_cancel (hreported.symm.trans hdrained)

/-- Two clients fill a world queue that has room for three jobs; two of them are of the first
client. -/
def fillingEvents : List (Event Nat) :=
  [.connect 0, .connect 10, .dispatch .authed 0 ⟨3, [7], ⟨"a"⟩, 0⟩,
    .dispatch .authed 1 ⟨3, [7, 7], ⟨"b"⟩, 0⟩, .dispatch .authed 0 ⟨3, [], ⟨"a"⟩, 1⟩]

/-- The second client sends one message too many, and goes on after a pass has made room. -/
def lonelyEvents : List (Event Nat) :=
  [.dispatch .authed 1 ⟨3, [], ⟨"b"⟩, 1⟩, .drain 1, .dispatch .authed 1 ⟨1, [7], ⟨"b"⟩, 2⟩,
    .dispatch .authed 1 ⟨3, [], ⟨"b"⟩, 3⟩, .drain 0]

theorem departure_disturbs_nobody_filling :
    let s := (opening .standard 1 3 .threeLanes).run fillingEvents
    let left := s.step (.disconnect 0)
    let dropped := left.run lonelyEvents
    let kept := s.run lonelyEvents
    (s.pendingOf 0).map Job.ticket = [0, 2] ∧
      (kept.engine.scene.callsOn 0).map CallRecord.ticket = [0, 2] ∧
      dropped.engine.scene.callsOn 0 = s.engine.scene.callsOn 0 ∧
      dropped.engine.scene.tally.sessionsGone = 2 ∧
      kept.arrivals.map Arrival.outcome =
        [.scheduled .world, .scheduled .world, .scheduled .world, .dropped (.saturated 3 .world),
          .completed, .scheduled .world] ∧
      dropped.arrivals = kept.arrivals ∧
      (kept.engine.scene.callsBeside 0).map CallRecord.ticket = [4, 1, 5] ∧
      dropped.engine.scene.callsBeside 0 = kept.engine.scene.callsBeside 0 ∧
      (s.reports lonelyEvents).map PassReport.extent = [(1, 2), (3, 0)] ∧
      (left.reports lonelyEvents).map PassReport.extent =
        (s.reports lonelyEvents).map PassReport.extent := by
  have offPool : ∀ event ∈ fillingEvents ++ lonelyEvents,
      event.offPool .threeLanes = true := by decide
  have silent : ∀ event ∈ lonelyEvents, event.sentBy 0 = false := by decide
  have seated : 0 <
      ((opening .standard 1 3 .threeLanes).run fillingEvents).engine.scene.seats.length := by
    decide
  obtain ⟨hcalls, -, harrivals, hbeside, -, hreports⟩ :=
    departure_disturbs_nobody .standard 1 3 .threeLanes fillingEvents lonelyEvents 0 offPool silent
      seated
  exact ⟨by decide, by decide, hcalls, by decide, by decide, harrivals, by decide, hbeside,
    by decide, hreports⟩

end Traffic
end PacketDispatch
