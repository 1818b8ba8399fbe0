import PacketDispatch.Proofs.Engine.Presence

/-!
# Calls and jobs

What one call changes, where it runs at once and where a job makes it later, and what a pool thread
changes when it takes up a job and when it is done with one.
-/

namespace PacketDispatch

/-! ## One call -/

/-- How a job ends whose call has a result. -/
def JobEnd.ofResult : Except HandlerError Unit → JobEnd HandlerError
  | .ok () => .completed
  | .error error => .failed error

/-- What becomes of a message whose call has a result where it arrived. -/
def Outcome.ofResult : Except HandlerError Unit → Outcome
  | .ok () => .completed
  | .error error => .handlerFailed error

/-- How the call ended that a message made where it arrived, if it made one. -/
def Outcome.ended? : Outcome → Option (JobEnd HandlerError)
  | .completed => some .completed
  | .handlerFailed error => some (.failed error)
  | _ => none

@[simp] theorem Outcome.ended?_ofResult (result : Except HandlerError Unit) :
    (Outcome.ofResult result).ended? = some (JobEnd.ofResult result) := by
  rcases result with error | ⟨⟨⟩⟩ <;> rfl

/-- The calls that a job leaves in the records, by the way in which it ended. -/
def Job.callsMade {σ : Type} (j : Job σ) (lane : Lane) :
    JobEnd HandlerError → List (CallRecord σ)
  | .completed => [⟨j.ticket, j.session, lane, j.call, .ok ()⟩]
  | .failed error => [⟨j.ticket, j.session, lane, j.call, .error error⟩]
  | .sessionGone => []

@[simp] theorem Job.callsMade_ofResult {σ : Type} (j : Job σ) (lane : Lane)
    (result : Except HandlerError Unit) :
    j.callsMade lane (JobEnd.ofResult result) =
      [⟨j.ticket, j.session, lane, j.call, result⟩] := by
  rcases result with error | ⟨⟨⟩⟩ <;> rfl

@[simp] theorem JobEnd.isGone_ofResult (result : Except HandlerError Unit) :
    (JobEnd.ofResult result).isGone = false := by
  rcases result with error | ⟨⟨⟩⟩ <;> rfl

namespace Scene

variable {σ : Type}

/-- The scene after a call has run against a session that is there, its journal apart. -/
def afterCall (s : Scene σ) (lane : Lane) (ticket : Nat) (ref : SessionRef) (c : Call σ)
    (session : σ) : Scene σ :=
  let reply := c.body s.now session
  { s.modifySeat ref fun seat => { seat with session := reply.session } with
    calls := s.calls ++ [⟨ticket, ref, lane, c, reply.ending.isolated⟩] }

theorem presence_modifySeat_session (s : Scene σ) (ref : SessionRef) (session : σ) :
    (s.modifySeat ref fun seat => { seat with session := session }).presence =
      s.presence :=
  (s.presence_modifySeat ref fun _ => rfl).trans (List.modify_id _ _)

@[simp] theorem presence_afterCall (s : Scene σ) (lane : Lane) (ticket : Nat)
    (ref : SessionRef) (c : Call σ) (session : σ) :
    (s.afterCall lane ticket ref c session).presence = s.presence :=
  s.presence_modifySeat_session ref (c.body s.now session).session

theorem call_eq {s : Scene σ} {ref : SessionRef} {session : σ} (lane : Lane) (ticket : Nat)
    (c : Call σ) (h : s.session? ref = some session) :
    s.call lane ticket ref c =
      some ⟨(s.afterCall lane ticket ref c session).write lane.thread
          (c.body s.now session).remarks,
        (c.body s.now session).ending.isolated, (c.body s.now session).lingers⟩ := by
  simp only [call, h, Option.map_some]
  rfl

end Scene

namespace Job

variable {σ : Type}

/-- A job whose session is there makes its call. -/
theorem make_of_alive {j : Job σ} {s : Scene σ} {session : σ} (lane : Lane)
    (alive : s.alive j.session = true) (present : s.session? j.session = some session) :
    ∃ remarks, j.make lane s =
      ⟨(s.afterCall lane j.ticket j.session j.call session).write lane.thread remarks,
        JobEnd.ofResult (j.call.body s.now session).ending.isolated,
        (j.call.body s.now session).lingers⟩ := by
  simp only [make, alive, if_true, Scene.call_eq lane j.ticket j.call present]
  cases hresult : (j.call.body s.now session).ending.isolated with
  | ok _ => exact ⟨_, rfl⟩
  | error error =>
      refine ⟨(j.call.body s.now session).remarks ++ [.line (j.failedLine error)], ?_⟩
      simp [Scene.writeLines, Scene.write, JobEnd.ofResult]

theorem make_of_gone {j : Job σ} {s : Scene σ} (lane : Lane)
    (gone : s.alive j.session = false) :
    j.make lane s = ⟨s.writeLines lane.thread [j.goneLine], .sessionGone, false⟩ := by
  simp [make, gone]

/-- What making the call of a job changes: a call is recorded unless the session is gone, and
neither the counters nor the presence of any session change. -/
structure MakeSpec (j : Job σ) (lane : Lane) (s : Scene σ) (m : Made σ) : Prop where
  calls : m.scene.calls = s.calls ++ j.callsMade lane m.ended
  presence : m.scene.presence = s.presence
  tally : m.scene.tally = s.tally
  gone : m.ended.isGone = !s.alive j.session

theorem make_spec (j : Job σ) (lane : Lane) (s : Scene σ) :
    MakeSpec j lane s (j.make lane s) := by
  cases halive : s.alive j.session with
  | false =>
      rw [make_of_gone lane halive]
      exact ⟨by simp [callsMade, Scene.writeLines, Scene.write], rfl, rfl,
        by simp [JobEnd.isGone, halive]⟩
  | true =>
      obtain ⟨session, present⟩ := Scene.exists_session_of_alive halive
      obtain ⟨remarks, h⟩ := make_of_alive lane halive present
      rw [h]
      have hpresence :=
        s.presence_afterCall lane j.ticket j.session j.call session
      exact ⟨by simp [Scene.write, Scene.afterCall], hpresence, rfl, by simp [halive]⟩

end Job

/-! ## Pool threads -/

/-- A pool job with its end, once its call has been made. -/
def Running.ending {σ : Type} (r : Running (Job σ) HandlerError) :
    Job σ × JobEnd HandlerError :=
  (r.job, r.ended)

namespace Engine

variable {σ : Type}

/-- What changes when the waiting pool job at a place gets a thread: its call is made unless its
session is gone.  Its end is not counted yet. -/
structure StartsJob (e : Engine σ) (place : Nat) (j : Job σ) (ended : JobEnd HandlerError)
    (e' : Engine σ) : Prop where
  found : e.pool.waiting[place]? = some j
  table : e'.table = e.table
  dispatched : e'.dispatched = e.dispatched
  queue : e'.queue = e.queue
  waiting : e'.pool.waiting = e.pool.waiting.eraseIdx place
  running : e'.pool.running.map Running.ending =
    e.pool.running.map Running.ending ++ [(j, ended)]
  calls : e'.scene.calls = e.scene.calls ++ j.callsMade .pool ended
  seats : e'.scene.seats.length = e.scene.seats.length
  alive : ∀ ref, e'.scene.alive ref = e.scene.alive ref
  tally : e'.scene.tally = e.scene.tally
  gone : ended.isGone = !e.scene.alive j.session

/-- A pool thread that finds no job at a place does nothing; else it takes up that job. -/
theorem startPooled_cases (e : Engine σ) (place : Nat) :
    e.startPooled place = e ∨
      ∃ j ended, StartsJob e place j ended (e.startPooled place) := by
  cases hfound : e.pool.waiting[place]? with
  | none => exact Or.inl (by simp [startPooled, Pool.take?, hfound])
  | some j =>
      refine Or.inr ⟨j, (j.make .pool e.scene).ended, ?_⟩
      have hmake := j.make_spec .pool e.scene
      have hseats := Scene.length_seats_congr hmake.presence
      have halive := Scene.alive_congr hmake.presence
      -- A thread holds the session of a job that made its call, and no other.
      cases hgone : (j.make .pool e.scene).ended.isGone with
      | true =>
          have hthere : e.scene.alive j.session = false := by
            simpa [hgone] using hmake.gone
          constructor <;>
            simp [startPooled, Pool.take?, hfound, Pool.run, Running.ending, hmake.calls,
              hseats, halive, hmake.tally, hgone, hthere]
      | false =>
          have hthere : e.scene.alive j.session = true := by
            simpa [hgone] using hmake.gone
          have hheld := Scene.alive_hold ((halive j.session).trans hthere)
          constructor <;>
            simp [startPooled, Pool.take?, hfound, Pool.run, Running.ending, hmake.calls,
              hseats, halive, hmake.tally, hgone, hthere, hheld]

/-- What changes when the running pool job at a place ends: its end is counted, and a session that
was gone is still gone. -/
structure FinishesJob (e : Engine σ) (place : Nat) (r : Running (Job σ) HandlerError)
    (e' : Engine σ) : Prop where
  found : e.pool.running[place]? = some r
  table : e'.table = e.table
  dispatched : e'.dispatched = e.dispatched
  queue : e'.queue = e.queue
  waiting : e'.pool.waiting = e.pool.waiting
  running : e'.pool.running = e.pool.running.eraseIdx place
  calls : e'.scene.calls = e.scene.calls
  seats : e'.scene.seats.length = e.scene.seats.length
  gone : ∀ ref, e.scene.alive ref = false → e'.scene.alive ref = false
  tally : e'.scene.tally = e.scene.tally.recordJob r.ended

/-- A place without a running job is left alone; else the job there ends. -/
theorem finishPooled_cases (e : Engine σ) (place : Nat) :
    (e.pool.finish? place = none ∧ e.finishPooled place = e) ∨
      ∃ r pool, e.pool.finish? place = some (r, pool) ∧
        FinishesJob e place r (e.finishPooled place) := by
  cases hfound : e.pool.running[place]? with
  | none => exact Or.inl (by simp [finishPooled, Pool.finish?, hfound])
  | some r =>
      refine Or.inr ⟨r, _, by simp only [Pool.finish?, hfound]; rfl, ?_⟩
      cases hgone : r.ended.isGone with
      | true =>
          constructor <;>
            simp +contextual [finishPooled, Pool.finish?, hfound, hgone, Scene.recordJob,
              Scene.alive]
      | false =>
          have hletGo : ∀ ref, e.scene.alive ref = false →
              (e.scene.letGo r.job.session).alive ref = false :=
            fun _ h => Scene.alive_letGo_eq_false r.job.session h
          constructor <;>
            simp [finishPooled, Pool.finish?, hfound, hgone, Scene.recordJob]
          exact hletGo

end Engine
end PacketDispatch
