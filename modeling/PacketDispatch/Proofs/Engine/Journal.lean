import PacketDispatch.Proofs.Engine.Unseen
import PacketDispatch.Proofs.Schedule.Mapped

/-!
# Nobody reads the journal

An engine writes to the end of its journal and never looks at what is there.  So entries in front of
the journal stay where they are, whatever the engine does, and make no difference for anything else.
-/

namespace PacketDispatch

variable {σ : Type}

/-! ## Passes that leave something alone -/

/-- A pass that a change of the state goes through has the change at its end. -/
theorem WorldQueue.runUpTo_state {J S ε : Type} {run : JobRunner J S ε} {g : S → S}
    (hrun : ∀ job q s, run job q (g s) = { run job q s with state := g (run job q s).state })
    (limit : Nat) (q : WorldQueue J) (s : S) :
    q.runUpTo run limit (g s) =
      { q.runUpTo run limit s with state := g (q.runUpTo run limit s).state } := by
  have hmapped : ∀ q : WorldQueue J, q.map id = q := by
    intro q
    rw [WorldQueue.map, List.map_id]
  have hpass : ∀ p : Pass J S ε, p.map id g = { p with state := g p.state } := by
    intro p
    simp [Pass.map, hmapped]
  have hjob : ∀ job q s, run job (q.map id) (g s) = (run job q s).map id g := by
    intro job q s
    rw [hmapped, hrun, Ran.map, hmapped]
  have hmap := runUpTo_map hjob limit q s
  rwa [hmapped, hpass] at hmap

/-! ## Scenes -/

namespace Scene

/-- The scene with entries in front of its journal. -/
def afterJournal (s : Scene σ) (notes : List Note) : Scene σ :=
  { s with notes := notes ++ s.notes }

theorem write_afterJournal (s : Scene σ) (notes : List Note) (thread : Thread)
    (remarks : List Remark) :
    (s.afterJournal notes).write thread remarks = (s.write thread remarks).afterJournal notes := by
  simp only [write, afterJournal, List.append_assoc]

theorem writeLines_afterJournal (s : Scene σ) (notes : List Note) (thread : Thread)
    (lines : List Line) :
    (s.afterJournal notes).writeLines thread lines =
      (s.writeLines thread lines).afterJournal notes :=
  s.write_afterJournal notes thread _

theorem call_afterJournal (s : Scene σ) (notes : List Note) (lane : Lane) (ticket : Nat)
    (ref : SessionRef) (c : Call σ) :
    (s.afterJournal notes).call lane ticket ref c =
      (s.call lane ticket ref c).map fun called =>
        { called with scene := called.scene.afterJournal notes } := by
  have hsession : (s.afterJournal notes).session? ref = s.session? ref := rfl
  unfold call
  rw [hsession]
  cases s.session? ref with
  | none => rfl
  | some session => simp [afterJournal, modifySeat, write]

end Scene

theorem Job.make_afterJournal (j : Job σ) (lane : Lane) (s : Scene σ) (notes : List Note) :
    j.make lane (s.afterJournal notes) =
      { j.make lane s with scene := (j.make lane s).scene.afterJournal notes } := by
  have halive : (s.afterJournal notes).alive j.session = s.alive j.session := rfl
  unfold make
  rw [halive, Scene.call_afterJournal, Scene.writeLines_afterJournal]
  cases s.alive j.session with
  | false => rfl
  | true =>
      cases s.call lane j.ticket j.session j.call with
      | none => rfl
      | some called =>
          cases hresult : called.result <;>
            simp [hresult, Scene.writeLines_afterJournal]

theorem Job.run_afterJournal (notes : List Note) (j : Job σ) (q : WorldQueue (Job σ))
    (s : Scene σ) :
    Job.run j q (s.afterJournal notes) =
      { Job.run j q s with state := (Job.run j q s).state.afterJournal notes } := by
  simp only [run, make_afterJournal]
  rfl

/-! ## Engines -/

namespace Engine

/-- The engine with entries in front of its journal. -/
def afterJournal (e : Engine σ) (notes : List Note) : Engine σ :=
  { e with scene := e.scene.afterJournal notes }

/-- The engine without its journal. -/
def withoutJournal (e : Engine σ) : Engine σ :=
  { e with scene := { e.scene with notes := [] } }

theorem afterJournal_withoutJournal (e : Engine σ) :
    e.withoutJournal.afterJournal e.scene.notes = e := by
  simp only [afterJournal, withoutJournal, Scene.afterJournal, List.append_nil]

theorem withoutJournal_note (e : Engine σ) (lines : List Line) :
    (e.note lines).withoutJournal = e.withoutJournal := rfl

variable (e : Engine σ) (notes : List Note)

theorem note_afterJournal (lines : List Line) :
    (e.afterJournal notes).note lines = (e.note lines).afterJournal notes := by
  simp only [note, afterJournal, Scene.writeLines_afterJournal]

theorem install_afterJournal (t : Table σ) :
    (e.afterJournal notes).install t = ((e.install t).1, (e.install t).2.afterJournal notes) := by
  have htable : (e.afterJournal notes).table = e.table := rfl
  unfold install
  rw [htable]
  cases e.table with
  | none =>
      simp only [note, afterJournal, Scene.writeLines_afterJournal]
  | some installed =>
      simp only [note, afterJournal, Scene.writeLines_afterJournal]

theorem handOff_afterJournal (lane : Lane) (j : Job σ) :
    (e.afterJournal notes).handOff lane j =
      (e.handOff lane j).map fun e => e.afterJournal notes := by
  cases hscheduler : e.scheduler with
  | refusing => cases lane <;> simp [handOff, afterJournal, hscheduler, Except.map]
  | standard =>
      cases lane with
      | pool =>
          simp only [handOff, afterJournal, hscheduler]
          cases e.pool.spawn j <;> rfl
      | world | inPlace =>
          simp only [handOff, afterJournal, hscheduler]
          cases e.queue.push j <;> rfl

theorem defer_afterJournal (t : Table σ) (ref : SessionRef) (env : Envelope) (lane : Lane)
    (c : Call σ) :
    (e.afterJournal notes).defer t ref env lane c =
      ((e.defer t ref env lane c).1, (e.defer t ref env lane c).2.afterJournal notes) := by
  have hdispatched : (e.afterJournal notes).dispatched = e.dispatched := rfl
  have hlines : ∀ error,
      (e.afterJournal notes).handOffLines lane error = e.handOffLines lane error :=
    fun _ => rfl
  simp only [defer, hdispatched, handOff_afterJournal, hlines]
  cases e.handOff lane ⟨e.dispatched, ref, c, env.opcode, env.session, env.sequence⟩ with
  | ok handed => simp only [Except.map, note_afterJournal]
  | error error => simp only [Except.map, note_afterJournal]

theorem runInPlace_afterJournal (t : Table σ) (ref : SessionRef) (env : Envelope)
    (d : Descriptor σ) (c : Call σ) :
    (e.afterJournal notes).runInPlace t ref env d c =
      ((e.runInPlace t ref env d c).1, (e.runInPlace t ref env d c).2.afterJournal notes) := by
  have hdispatched : (e.afterJournal notes).dispatched = e.dispatched := rfl
  have hscene : (e.afterJournal notes).scene = e.scene.afterJournal notes := rfl
  simp only [runInPlace, hdispatched, hscene, Scene.call_afterJournal]
  cases e.scene.call .inPlace e.dispatched ref c with
  | none => rfl
  | some called =>
      simp only [Option.map_some]
      cases called.result with
      | ok done => rfl
      | error error =>
          simp only [note, Scene.writeLines_afterJournal]
          rfl

theorem route_afterJournal (t : Table σ) (phase : Phase) (ref : SessionRef) (env : Envelope) :
    (e.afterJournal notes).route t phase ref env =
      ((e.route t phase ref env).1, (e.route t phase ref env).2.afterJournal notes) := by
  unfold route
  cases t.decide phase env with
  | stop outcome => simp only [note_afterJournal]
  | call d c =>
      simp only [note_afterJournal]
      by_cases hdeferred : d.lane.deferred = true
      · rw [if_pos hdeferred, if_pos hdeferred]
        exact (e.note _).defer_afterJournal notes t ref env d.lane c
      · rw [if_neg hdeferred, if_neg hdeferred]
        exact (e.note _).runInPlace_afterJournal notes t ref env d c

theorem arrive_afterJournal (phase : Phase) (ref : SessionRef) (env : Envelope) :
    (e.afterJournal notes).arrive phase ref env =
      (e.arrive phase ref env).map fun arrived => (arrived.1, arrived.2.afterJournal notes) := by
  have htable : (e.afterJournal notes).table = e.table := rfl
  have hlive : (e.afterJournal notes).scene.connected ref = e.scene.connected ref := rfl
  unfold arrive
  rw [htable, hlive]
  cases e.table with
  | none => rfl
  | some t =>
      simp only [route_afterJournal]
      cases e.scene.connected ref <;> rfl

theorem dispatch_afterJournal (phase : Phase) (ref : SessionRef) (env : Envelope) :
    (e.afterJournal notes).dispatch phase ref env =
      (e.dispatch phase ref env).map fun counted => (counted.1, counted.2.afterJournal notes) := by
  unfold dispatch
  rw [arrive_afterJournal]
  cases e.arrive phase ref env <;> rfl

theorem startPooled_afterJournal (place : Nat) :
    (e.afterJournal notes).startPooled place = (e.startPooled place).afterJournal notes := by
  have hpool : (e.afterJournal notes).pool = e.pool := rfl
  have hscene : (e.afterJournal notes).scene = e.scene.afterJournal notes := rfl
  unfold startPooled
  rw [hpool, hscene]
  cases e.pool.take? place with
  | none => rfl
  | some taken =>
      obtain ⟨j, pool⟩ := taken
      simp only [Job.make_afterJournal]
      cases (j.make .pool e.scene).ended.isGone <;> rfl

theorem finishPooled_afterJournal (place : Nat) :
    (e.afterJournal notes).finishPooled place = (e.finishPooled place).afterJournal notes := by
  have hpool : (e.afterJournal notes).pool = e.pool := rfl
  unfold finishPooled
  rw [hpool]
  cases e.pool.finish? place with
  | none => rfl
  | some finished =>
      obtain ⟨r, pool⟩ := finished
      cases hgone : r.ended.isGone <;> simp only [hgone] <;> rfl

theorem unseen_afterJournal : Unseen fun e : Engine σ => e.afterJournal notes where
  pool _ := rfl
  startPooled e place := e.startPooled_afterJournal notes place
  finishPooled e place := e.finishPooled_afterJournal notes place
  advance _ _ := rfl
  releasePooled _ := rfl

end Engine
end PacketDispatch
