import PacketDispatch.Engine.Background
import PacketDispatch.Proofs.Schedule.Mapped

/-!
# Bodies that break off

A body may break off in the middle.  Beside each handler stands another whose bodies do all the same
but never break off: where the first one does, the second reports that it panicked, with the same
words.  An engine cannot tell the two apart: whatever it does with the second handlers is what it
does with the first, down to the lines in the journal.
-/

namespace PacketDispatch

variable {σ : Type}

/-! ## Handlers -/

/-- The ending of a body that reports what it would have broken off with. -/
def Ending.caught : Ending → Ending
  | .returned => .returned
  | .failed error => .failed error
  | .brokeOff (some reason) => .failed (.panicked reason)
  | .brokeOff none => .failed (.panicked "unknown panic payload")

/-- Breaking off and reporting it come to the same, once a body runs isolated. -/
@[simp] theorem Ending.isolated_caught (ending : Ending) :
    ending.caught.isolated = ending.isolated := by
  rcases ending with _ | error | _ | reason <;> rfl

theorem Ending.caught_ne_brokeOff (ending : Ending) (reason : Option String) :
    ending.caught ≠ .brokeOff reason := by
  rcases ending with _ | error | _ | words <;> nofun

/-- The body that reports what it would have broken off with. -/
def Body.caught (body : Body σ) : Body σ :=
  fun now session => { body now session with ending := (body now session).ending.caught }

def Call.caught (c : Call σ) : Call σ :=
  { c with body := Body.caught c.body }

/-- The handler whose bodies do not break off. -/
def Handler.caught (h : Handler σ) : Handler σ :=
  { h with prepare := fun env => (h.prepare env).map Call.caught }

/-! ## Tables -/

def Descriptor.caught (d : Descriptor σ) : Descriptor σ :=
  { d with handler := d.handler.caught }

def Table.caught (t : Table σ) : Table σ :=
  ⟨t.descriptors.map Descriptor.caught⟩

def Decision.caught : Decision σ → Decision σ
  | .stop outcome => .stop outcome
  | .call d c => .call d.caught c.caught

namespace Table

@[simp] theorem lookup_caught (t : Table σ) (id : Opcode) :
    t.caught.lookup id = (t.lookup id).map Descriptor.caught := by
  simp only [lookup, caught, List.find?_map]
  rfl

@[simp] theorem label_caught (t : Table σ) (id : Opcode) : t.caught.label id = t.label id := by
  simp only [label, lookup_caught, Option.map_map]
  rfl

@[simp] theorem size_caught (t : Table σ) : t.caught.size = t.size :=
  List.length_map _

theorem decide_caught (t : Table σ) (phase : Phase) (env : Envelope) :
    t.caught.decide phase env = (t.decide phase env).caught := by
  unfold decide
  rw [lookup_caught]
  cases t.lookup env.opcode with
  | none => rfl
  | some d =>
      simp only [Option.map_some, Descriptor.caught]
      cases d.requirement.check phase with
      | unhandled | denied reason => rfl
      | granted =>
          simp only [Handler.caught]
          cases d.handler.prepare env <;> rfl

theorem stopLines_caught (t : Table σ) (env : Envelope) (outcome : Outcome) :
    t.caught.stopLines env outcome = t.stopLines env outcome := by
  unfold stopLines
  simp only [label_caught, lookup_caught, Option.map_map]
  rfl

end Table

/-! ## Scenes -/

def CallRecord.caught (r : CallRecord σ) : CallRecord σ :=
  { r with call := r.call.caught }

def Job.caught (j : Job σ) : Job σ :=
  { j with call := j.call.caught }

namespace Scene

/-- The scene in which no body broke off. -/
def caught (s : Scene σ) : Scene σ :=
  { s with calls := s.calls.map CallRecord.caught }

def Called.caught (c : Called σ) : Called σ :=
  { c with scene := c.scene.caught }

theorem call_caught (s : Scene σ) (lane : Lane) (ticket : Nat) (ref : SessionRef) (c : Call σ) :
    s.caught.call lane ticket ref c.caught = (s.call lane ticket ref c).map Called.caught := by
  unfold call
  rw [Option.map_map]
  -- The two replies differ in their endings alone, and nothing sees these before they are isolated.
  refine congrArg (Option.map · (s.session? ref)) (funext fun session => ?_)
  simp [Called.caught, caught, Call.caught, Body.caught, write, modifySeat, CallRecord.caught]

end Scene

/-! ## Jobs -/

namespace Job

def Made.caught (m : Made σ) : Made σ :=
  { m with scene := m.scene.caught }

theorem make_caught (j : Job σ) (lane : Lane) (s : Scene σ) :
    j.caught.make lane s.caught = (j.make lane s).caught := by
  have halive : s.caught.alive j.caught.session = s.alive j.session := rfl
  have hcall : s.caught.call lane j.caught.ticket j.caught.session j.caught.call =
      (s.call lane j.ticket j.session j.call).map Scene.Called.caught :=
    s.call_caught lane j.ticket j.session j.call
  unfold make
  rw [halive, hcall]
  cases s.alive j.session with
  | false => rfl
  | true =>
      simp only [if_true]
      cases s.call lane j.ticket j.session j.call with
      | none => rfl
      | some called =>
          simp only [Option.map_some, Scene.Called.caught]
          cases called.result <;> rfl

theorem run_caught (j : Job σ) (q : WorldQueue (Job σ)) (s : Scene σ) :
    run j.caught (q.map caught) s.caught = (run j q s).map caught Scene.caught := by
  unfold run
  rw [make_caught]
  rfl

end Job

/-! ## Engines -/

namespace Engine

/-- The engine whose handlers do not break off and never did. -/
def caught (e : Engine σ) : Engine σ :=
  { e with
    table := e.table.map Table.caught
    pool := e.pool.map Job.caught
    queue := e.queue.map Job.caught
    scene := e.scene.caught }

@[simp] theorem caught_table (e : Engine σ) : e.caught.table = e.table.map Table.caught := rfl

@[simp] theorem caught_pool (e : Engine σ) : e.caught.pool = e.pool.map Job.caught := rfl

@[simp] theorem caught_queue (e : Engine σ) : e.caught.queue = e.queue.map Job.caught := rfl

@[simp] theorem caught_scene (e : Engine σ) : e.caught.scene = e.scene.caught := rfl

@[simp] theorem caught_dispatched (e : Engine σ) : e.caught.dispatched = e.dispatched := rfl

theorem note_caught (e : Engine σ) (lines : List Line) :
    e.caught.note lines = (e.note lines).caught := rfl

theorem install_caught (e : Engine σ) (t : Table σ) :
    (e.caught.install t.caught).2 = (e.install t).2.caught := by
  unfold install
  cases htable : e.table with
  | some installed => simp [caught, htable, note, Scene.writeLines, Scene.write, Scene.caught]
  | none => simp [caught, htable, note, Scene.writeLines, Scene.write, Scene.caught]

theorem handOff_caught (e : Engine σ) (lane : Lane) (j : Job σ) :
    e.caught.handOff lane j.caught = (e.handOff lane j).map caught := by
  have hspawn := e.pool.spawn_map Job.caught j
  have hpush := e.queue.push_map Job.caught j
  cases hscheduler : e.scheduler with
  | refusing => cases lane <;> simp [handOff, caught, hscheduler, Except.map]
  | standard =>
      cases lane with
      | pool =>
          simp only [handOff, caught, hscheduler, hspawn]
          cases e.pool.spawn j <;> rfl
      | world | inPlace =>
          simp only [handOff, caught, hscheduler, hpush]
          cases e.queue.push j <;> rfl

theorem defer_caught (e : Engine σ) (t : Table σ) (ref : SessionRef) (env : Envelope)
    (lane : Lane) (c : Call σ) :
    e.caught.defer t.caught ref env lane c.caught =
      ((e.defer t ref env lane c).1, (e.defer t ref env lane c).2.caught) := by
  have hhandOff := e.handOff_caught lane
    ⟨e.dispatched, ref, c, env.opcode, env.session, env.sequence⟩
  unfold defer
  simp only [Job.caught] at hhandOff
  simp only [Table.scheduledLine, Table.refusedJobLine, Table.label_caught]
  rw [caught_dispatched, hhandOff]
  cases e.handOff lane ⟨e.dispatched, ref, c, env.opcode, env.session, env.sequence⟩ <;> rfl

theorem runInPlace_caught (e : Engine σ) (t : Table σ) (ref : SessionRef) (env : Envelope)
    (d : Descriptor σ) (c : Call σ) :
    e.caught.runInPlace t.caught ref env d.caught c.caught =
      ((e.runInPlace t ref env d c).1, (e.runInPlace t ref env d c).2.caught) := by
  have hcall := e.scene.call_caught .inPlace e.dispatched ref c
  unfold runInPlace
  simp only [Table.failedLine, Table.label_caught]
  rw [caught_scene, caught_dispatched, hcall]
  cases e.scene.call .inPlace e.dispatched ref c with
  | none => rfl
  | some called =>
      simp only [Option.map_some, Scene.Called.caught]
      cases called.result <;> rfl

theorem route_caught (e : Engine σ) (t : Table σ) (phase : Phase) (ref : SessionRef)
    (env : Envelope) :
    e.caught.route t.caught phase ref env =
      ((e.route t phase ref env).1, (e.route t phase ref env).2.caught) := by
  unfold route
  rw [Table.decide_caught]
  cases t.decide phase env with
  | stop outcome => simp only [Decision.caught, Table.stopLines_caught, note_caught]
  | call d c =>
      have hlane : d.caught.lane = d.lane := rfl
      simp only [Decision.caught, hlane]
      by_cases hdeferred : d.lane.deferred = true
      · rw [if_pos hdeferred, if_pos hdeferred]
        exact (e.note _).defer_caught t ref env d.lane c
      · rw [if_neg hdeferred, if_neg hdeferred]
        exact (e.note _).runInPlace_caught t ref env d c

theorem arrive_caught (e : Engine σ) (phase : Phase) (ref : SessionRef) (env : Envelope) :
    e.caught.arrive phase ref env =
      (e.arrive phase ref env).map fun arrived => (arrived.1, arrived.2.caught) := by
  unfold arrive
  have hlive : e.caught.scene.connected ref = e.scene.connected ref := rfl
  rw [caught_table, hlive]
  cases e.table with
  | none => rfl
  | some t =>
      simp only [Option.map_some, route_caught]
      cases e.scene.connected ref <;> rfl

theorem drain_caught (e : Engine σ) (budget : Nat) :
    e.caught.drain budget = ((e.drain budget).1, (e.drain budget).2.caught) := by
  have hpass := WorldQueue.pass_map Job.run_caught budget e.queue e.scene
  unfold drain
  simp only [caught_queue, caught_scene, hpass, Pass.report_map]
  rfl

theorem startPooled_caught (e : Engine σ) (place : Nat) :
    e.caught.startPooled place = (e.startPooled place).caught := by
  have htake := e.pool.take?_map Job.caught place
  unfold startPooled
  rw [caught_pool, htake]
  cases e.pool.take? place with
  | none => rfl
  | some taken =>
      obtain ⟨j, pool⟩ := taken
      simp only [Option.map_some, caught_scene, Job.make_caught, Job.Made.caught, Pool.run_map]
      cases (j.make .pool e.scene).ended.isGone <;> rfl

theorem finishPooled_caught (e : Engine σ) (place : Nat) :
    e.caught.finishPooled place = (e.finishPooled place).caught := by
  have hfinish := e.pool.finish?_map Job.caught place
  unfold finishPooled
  rw [caught_pool, hfinish]
  cases e.pool.finish? place with
  | none => rfl
  | some finished =>
      obtain ⟨r, pool⟩ := finished
      simp only [Option.map_some, Running.map, caught_scene]
      cases r.ended.isGone <;> rfl

end Engine
end PacketDispatch
