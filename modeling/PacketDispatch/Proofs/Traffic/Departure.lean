import PacketDispatch.Proofs.Engine.Agreement
import PacketDispatch.Proofs.Traffic.Balance
import PacketDispatch.Proofs.Traffic.Delivery

/-!
# Sessions that are gone

Once a session is gone no call is made on it any more, whatever happens.  The jobs that wait for it
keep their places in the world queue; the world thread takes them in order, and each of them ends
with its session gone.  Every such end is counted once.
-/

namespace PacketDispatch

variable {σ : Type} {a : SessionRef}

/-! ## Calls and jobs of one session -/

theorem Job.filter_callsMade_eq_nil {j : Job σ} {ended : JobEnd HandlerError} (lane : Lane)
    (h : j.session = a → ended.isGone = true) :
    (j.callsMade lane ended).filter (fun r => r.session = a) = [] := by
  by_cases hj : j.session = a
  · have hgone := h hj
    cases ended with
    | sessionGone => rfl
    | completed | failed error => simp [JobEnd.isGone] at hgone
  · cases ended <;> simp [callsMade, hj]

namespace Arrival

variable {t : Table σ} {b : Arrival}

theorem filter_callsMade_eq_nil (h : b.session ≠ a) :
    (b.callsMade t).filter (fun r => r.session = a) = [] := by
  rw [List.filter_eq_nil_iff]
  intro r hr
  obtain ⟨j, hj, -, hsession, -⟩ := job?_of_mem_callsMade hr
  simpa [hsession, (origin_of_job? hj).2] using h

theorem filter_jobs_eq_nil (lane : Lane) (h : b.session ≠ a) :
    (b.jobs t lane).filter (fun j => j.session = a) = [] := by
  rw [List.filter_eq_nil_iff]
  intro j hj
  simpa [(origin_of_job? (job?_of_mem_jobs hj)).2] using h

end Arrival

theorem Scene.ne_of_connected {s : Scene σ} {ref : SessionRef} (gone : s.alive a = false)
    (live : s.connected ref = true) :
    ref ≠ a := by
  rintro rfl
  cases hseat : s.seats[ref]? with
  | none => simp [connected, hseat] at live
  | some seat =>
      simp only [alive, connected, hseat, Seat.alive] at gone live
      simp [live] at gone

namespace Traffic

/-! ## After the departure -/

/-- The jobs of a session that wait for the world thread, in order. -/
def pendingOf (s : Traffic σ) (a : SessionRef) : List (Job σ) :=
  s.engine.queue.pending.filter fun j => j.session = a

/-- The jobs that the world thread took since a session was gone: those of the session are the
oldest of its jobs that waited then, and none made its call. -/
structure Discards (a : SessionRef) (s s' : Traffic σ)
    (taken : List (Job σ × JobEnd HandlerError)) : Prop where
  drained : s'.drained = s.drained ++ taken
  gone : ∀ p ∈ taken, p.1.session = a → p.2.isGone = true
  pending : (taken.map Prod.fst).filter (fun j => j.session = a) ++ s'.pendingOf a = s.pendingOf a

/-- What lasts once a session is gone: it stays gone and is not called again. -/
structure Departed (a : SessionRef) (s s' : Traffic σ) : Prop where
  seated : a < s'.engine.scene.seats.length
  gone : s'.engine.scene.alive a = false
  calls : s'.engine.scene.callsOn a = s.engine.scene.callsOn a
  discards : ∃ taken, Discards a s s' taken

namespace Departed

variable {s₀ s s' : Traffic σ}

theorem refl (seated : a < s.engine.scene.seats.length)
    (gone : s.engine.scene.alive a = false) :
    Departed a s s :=
  ⟨seated, gone, rfl, [], by simp, by simp, by simp⟩

/-- Events that take no jobs and make no calls on the session leave things as they are, so long as
nobody takes its seat. -/
theorem of_same (h : Departed a s₀ s)
    (seats : s.engine.scene.seats.length ≤ s'.engine.scene.seats.length)
    (gone : s'.engine.scene.alive a = false)
    (calls : s'.engine.scene.callsOn a = s.engine.scene.callsOn a)
    (pending : s'.pendingOf a = s.pendingOf a) (drained : s'.drained = s.drained) :
    Departed a s₀ s' := by
  obtain ⟨taken, hdiscards⟩ := h.discards
  exact {
    seated := Nat.lt_of_lt_of_le h.seated seats
    gone := gone
    calls := calls.trans h.calls
    discards := ⟨taken, {
      drained := drained.trans hdiscards.drained
      gone := hdiscards.gone
      pending := by rw [pending, hdiscards.pending] }⟩ }

theorem arrive (h : Departed a s₀ s) (phase : Phase) (ref : SessionRef) (env : Envelope) :
    Departed a s₀ (s.arrive phase ref env) := by
  rcases s.arrive_cases phase ref env with hsame | ⟨outcome, hbegins⟩
  · rw [hsame]
    exact h
  · obtain ⟨t, installed⟩ := Engine.exists_table_of_arrive hbegins.engine
    generalize s.arrive phase ref env = s' at hbegins ⊢
    have hadmits : Engine.Admits t s.engine (s.arrival phase ref env outcome) s'.engine :=
      Engine.admits_of_arrive installed hbegins.engine
    -- The message is for a client that is connected, so it is for another session.
    have href : (s.arrival phase ref env outcome).session ≠ a :=
      Scene.ne_of_connected h.gone hadmits.connected
    have hcalls : s'.engine.scene.callsOn a = s.engine.scene.callsOn a := by
      simp only [Scene.callsOn, hadmits.calls, List.filter_append]
      rw [Arrival.filter_callsMade_eq_nil href, List.append_nil]
    have hpending : s'.pendingOf a = s.pendingOf a := by
      simp only [pendingOf, hadmits.queue, List.filter_append]
      rw [Arrival.filter_jobs_eq_nil .world href, List.append_nil]
    have hseats := Scene.length_seats_congr hadmits.presence
    have hgone := (Scene.alive_congr hadmits.presence a).trans h.gone
    exact h.of_same (Nat.le_of_eq hseats.symm) hgone hcalls hpending hbegins.drained

theorem settle (h : Departed a s₀ s) (place : Nat) :
    Departed a s₀ (s.settle place) := by
  unfold Traffic.settle
  split
  · exact h
  · exact h.of_same (Nat.le_refl _) h.gone rfl rfl rfl

/-- A job of the session that the world thread takes was the oldest one that waited, and is
discarded. -/
theorem next (h : Departed a s₀ s) :
    Departed a s₀ s.next := by
  rcases s.next_cases with hsame | ⟨j, ended, htakes⟩
  · rw [hsame]
    exact h
  · generalize s.next = s' at htakes ⊢
    have hgone : j.session = a → ended.isGone = true := by
      rintro rfl
      rw [htakes.gone, h.gone]
      rfl
    have hpending : s.pendingOf a =
        [j].filter (fun j => j.session = a) ++ s'.pendingOf a := by
      simp only [pendingOf, htakes.pending]
      exact List.filter_append [j] _
    obtain ⟨taken, hdiscards⟩ := h.discards
    exact {
      seated := by
        rw [Scene.length_seats_congr htakes.presence]
        exact h.seated
      gone := (Scene.alive_congr htakes.presence a).trans h.gone
      calls := by
        rw [← h.calls]
        simp only [Scene.callsOn, htakes.calls, List.filter_append]
        rw [Job.filter_callsMade_eq_nil .world hgone, List.append_nil]
      discards := ⟨taken ++ [(j, ended)], {
        drained := by rw [htakes.drained, hdiscards.drained, List.append_assoc]
        gone := by
          intro p hp hsession
          rcases List.mem_append.mp hp with hold | hnew
          · exact hdiscards.gone p hold hsession
          · obtain rfl := List.mem_singleton.mp hnew
            exact hgone hsession
        pending := by
          rw [← hdiscards.pending, hpending, List.map_append, List.filter_append,
            List.append_assoc]
          rfl }⟩ }

theorem startPooled (h : Departed a s₀ s) (place : Nat) :
    Departed a s₀ (s.mapEngine fun e => e.startPooled place) := by
  rcases s.engine.startPooled_cases place with hsame | ⟨j, ended, hstarts⟩
  · simpa only [mapEngine, hsame] using h
  · have hgone : j.session = a → ended.isGone = true := by
      rintro rfl
      rw [hstarts.gone, h.gone]
      rfl
    refine h.of_same (Nat.le_of_eq hstarts.seats.symm) ((hstarts.alive a).trans h.gone) ?_ ?_ rfl
    · simp only [Scene.callsOn, mapEngine_engine, hstarts.calls, List.filter_append]
      rw [Job.filter_callsMade_eq_nil .pool hgone, List.append_nil]
    · simp only [pendingOf, mapEngine_engine, hstarts.queue]

theorem finish (h : Departed a s₀ s) (place : Nat) :
    Departed a s₀ (s.finish place) := by
  rcases s.engine.finishPooled_cases place with ⟨hnone, hsame⟩ | ⟨r, pool, hsome, hfinishes⟩
  · simpa [Traffic.finish, hnone, hsame] using h
  · refine h.of_same (Nat.le_of_eq hfinishes.seats.symm) (hfinishes.gone a h.gone) ?_ ?_ rfl
    · simp only [Scene.callsOn, finish_engine, hfinishes.calls]
    · simp only [pendingOf, finish_engine, hfinishes.queue]

theorem install (h : Departed a s₀ s) (t : Table σ) :
    Departed a s₀ (s.mapEngine fun e => (e.install t).2) := by
  obtain ⟨table, lines, hinstall⟩ := s.engine.exists_install_eq_note t
  simp only [mapEngine, hinstall]
  exact h.of_same (Nat.le_refl _) h.gone rfl rfl rfl

theorem connect (h : Departed a s₀ s) (session : σ) :
    Departed a s₀ (s.mapEngine fun e => (e.connect session).2) := by
  refine h.of_same ?_ ?_ rfl rfl rfl
  · simp [mapEngine, Engine.connect, Scene.connect]
  · exact (Scene.alive_connect_of_lt session h.seated).trans h.gone

theorem disconnect (h : Departed a s₀ s) (ref : SessionRef) :
    Departed a s₀ (s.mapEngine fun e => e.disconnect ref) := by
  refine h.of_same ?_ (Scene.alive_disconnect_eq_false ref h.gone) rfl rfl rfl
  simp [mapEngine, Engine.disconnect, Scene.disconnect, Scene.modifySeat]

/-- Whatever happens next, a session that is gone is gone for good. -/
theorem lasts (a : SessionRef) (s₀ : Traffic σ) : Lasts (Departed a s₀) where
  note := fun _ _ h => h.of_same (Nat.le_refl _) h.gone rfl rfl rfl
  install := fun _ t h => h.install t
  connect := fun _ session h => h.connect session
  disconnect := fun _ ref h => h.disconnect ref
  arrive := fun _ phase ref env h => h.arrive phase ref env
  settle := fun _ place h => h.settle place
  next := fun _ h => h.next
  closeQueue := fun _ h => h.of_same (Nat.le_refl _) h.gone rfl rfl rfl
  closePool := fun _ h => h.of_same (Nat.le_refl _) h.gone rfl rfl rfl
  startPooled := fun _ place h => h.startPooled place
  finish := fun _ place h => h.finish place
  advance := fun _ _ h => h.of_same (Nat.le_refl _) h.gone rfl rfl rfl

end Departed

end Traffic

/-! ## Discarded jobs are counted -/

namespace Tally

variable (c : Tally)

@[simp] theorem recordOutcome_sessionsGone (id : Opcode) (outcome : Outcome) :
    (c.recordOutcome id outcome).sessionsGone = c.sessionsGone := by
  have hcount := c.count_recordOutcome id outcome .sessionsGone
  cases outcome with
  | dropped reason => cases reason <;> exact hcount
  | completed | scheduled lane | ignored | handlerFailed error => exact hcount

theorem recordJob_sessionsGone (ended : JobEnd HandlerError) :
    (c.recordJob ended).sessionsGone = c.sessionsGone + if ended.isGone then 1 else 0 := by
  have hcount := c.count_recordJob ended .sessionsGone
  simpa only [count, eq_comm (a := Counter.sessionsGone), JobEnd.isGone_eq,
    decide_eq_true_eq] using hcount

end Tally

namespace Traffic

/-- How many jobs of a list ended with their session gone. -/
def goneIn (ended : List (Job σ × JobEnd HandlerError)) : Nat :=
  ended.countP fun p => p.2.isGone

@[simp] theorem goneIn_append (first second : List (Job σ × JobEnd HandlerError)) :
    goneIn (first ++ second) = goneIn first + goneIn second :=
  List.countP_append

@[simp] theorem goneIn_singleton (j : Job σ) (ended : JobEnd HandlerError) :
    goneIn [(j, ended)] = if ended.isGone then 1 else 0 := by
  simp [goneIn, List.countP_cons]

/-- When all jobs of a session are discarded, the discarded jobs are those of the session and the
discarded ones among the others. -/
theorem goneIn_eq_add {taken : List (Job σ × JobEnd HandlerError)}
    (gone : ∀ p ∈ taken, p.1.session = a → p.2.isGone = true) :
    goneIn taken = (taken.countP fun p => p.1.session = a) +
      goneIn (taken.filter fun p => p.1.session ≠ a) := by
  have hsession : (taken.filter fun p => p.1.session = a).countP (fun p => p.2.isGone) =
      taken.countP fun p => p.1.session = a := by
    rw [List.countP_filter]
    apply List.countP_congr
    intro p hp
    simpa using gone p hp
  unfold goneIn
  rw [List.countP_eq_countP_filter_add taken _ (fun p => p.1.session = a), hsession]
  simp only [ne_eq, decide_not]

/-- The counter says how many jobs ended with their session gone. -/
def GoneCounted (s : Traffic σ) : Prop :=
  s.engine.scene.tally.sessionsGone = goneIn s.drained + goneIn s.pooled

namespace GoneCounted

variable {s s' : Traffic σ}

theorem of_same (h : GoneCounted s)
    (tally : s'.engine.scene.tally.sessionsGone = s.engine.scene.tally.sessionsGone)
    (drained : s'.drained = s.drained) (pooled : s'.pooled = s.pooled) :
    GoneCounted s' := by
  unfold GoneCounted
  rw [tally, drained, pooled]
  exact h

theorem arrive (h : GoneCounted s) (phase : Phase) (ref : SessionRef) (env : Envelope) :
    GoneCounted (s.arrive phase ref env) := by
  rcases s.arrive_cases phase ref env with hsame | ⟨outcome, hbegins⟩
  · rw [hsame]
    exact h
  · obtain ⟨t, installed⟩ := Engine.exists_table_of_arrive hbegins.engine
    have htally := (Engine.admits_of_arrive installed hbegins.engine).tally
    exact h.of_same (by rw [htally]) hbegins.drained hbegins.pooled

theorem settle (h : GoneCounted s) (place : Nat) :
    GoneCounted (s.settle place) := by
  unfold Traffic.settle
  split
  · exact h
  · exact h.of_same (Tally.recordOutcome_sessionsGone _ _ _) rfl rfl

theorem next (h : GoneCounted s) :
    GoneCounted s.next := by
  rcases s.next_cases with hsame | ⟨j, ended, htakes⟩
  · rw [hsame]
    exact h
  · unfold GoneCounted at h ⊢
    rw [htakes.tally, htakes.drained, htakes.pooled, Tally.recordJob_sessionsGone,
      goneIn_append, goneIn_singleton]
    omega

theorem startPooled (h : GoneCounted s) (place : Nat) :
    GoneCounted (s.mapEngine fun e => e.startPooled place) := by
  rcases s.engine.startPooled_cases place with hsame | ⟨j, ended, hstarts⟩
  · simpa only [mapEngine, hsame] using h
  · exact h.of_same (congrArg Tally.sessionsGone hstarts.tally) rfl rfl

theorem finish (h : GoneCounted s) (place : Nat) :
    GoneCounted (s.finish place) := by
  rcases s.engine.finishPooled_cases place with ⟨hnone, hsame⟩ | ⟨r, pool, hsome, hfinishes⟩
  · simpa [Traffic.finish, hnone, hsame] using h
  · have hpooled : (s.finish place).pooled = s.pooled ++ [(r.job, r.ended)] := by
      simp only [Traffic.finish, hsome]
    have hdrained : (s.finish place).drained = s.drained := rfl
    unfold GoneCounted at h ⊢
    rw [hpooled, hdrained, finish_engine, hfinishes.tally, Tally.recordJob_sessionsGone,
      goneIn_append, goneIn_singleton]
    omega

theorem install (h : GoneCounted s) (t : Table σ) :
    GoneCounted (s.mapEngine fun e => (e.install t).2) := by
  obtain ⟨table, lines, hinstall⟩ := s.engine.exists_install_eq_note t
  simp only [mapEngine, hinstall]
  exact h.of_same rfl rfl rfl

/-- Whatever happens next, the counter still says how many jobs were discarded. -/
theorem lasts : Lasts (@GoneCounted σ) where
  note := fun _ _ h => h.of_same rfl rfl rfl
  install := fun _ t h => h.install t
  connect := fun _ _ h => h.of_same rfl rfl rfl
  disconnect := fun _ _ h => h.of_same rfl rfl rfl
  arrive := fun _ phase ref env h => h.arrive phase ref env
  settle := fun _ place h => h.settle place
  next := fun _ h => h.next
  closeQueue := fun _ h => h.of_same rfl rfl rfl
  closePool := fun _ h => h.of_same rfl rfl rfl
  startPooled := fun _ place h => h.startPooled place
  finish := fun _ place h => h.finish place
  advance := fun _ _ h => h.of_same rfl rfl rfl

theorem run (scheduler : Scheduler) (permits capacity : Nat) (t : Table σ)
    (events : List (Event σ)) :
    GoneCounted ((opening scheduler permits capacity t).run events) :=
  lasts.run events rfl

end GoneCounted
end Traffic
end PacketDispatch
