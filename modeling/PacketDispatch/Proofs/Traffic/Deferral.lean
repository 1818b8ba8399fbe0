import Mathlib.Data.List.Forall2
import PacketDispatch.Proofs.Engine.Placement
import PacketDispatch.Proofs.Traffic.Continuation

/-!
# Deferring to the world thread

A table says of each opcode of the clients whether its messages run where they arrive or on the
world thread.  When every dispatch is followed by a pass over the queue, that choice cannot be told
from what the messages do: the calls, their results and their order, the rejections, the sessions
and every counter but that of scheduled messages come out the same.
-/

namespace PacketDispatch

variable {σ : Type}

/-! ## Tables that differ in where messages of clients run -/

/-- The same descriptor, but that an opcode of the clients may have been moved from one of the two
places on the dispatching and the world thread to the other. -/
structure Descriptor.Moved (d d' : Descriptor σ) : Prop where
  same : d' = { d with lane := d'.lane }
  lane : d'.lane = d.lane ∨ d.origin = .client ∧ d.lane ≠ .pool ∧ d'.lane ≠ .pool

/-- Tables that are equal except that opcodes of clients were moved. -/
def Table.Moved (t t' : Table σ) : Prop :=
  List.Forall₂ Descriptor.Moved t.descriptors t'.descriptors

/-- Two decisions about a message: the same rejection, or the same call in a lane that may have
been moved. -/
inductive Decision.Moved : Decision σ → Decision σ → Prop
  | stop (outcome : Outcome) : Moved (.stop outcome) (.stop outcome)
  | call {d d' : Descriptor σ} (c : Call σ) (moved : d.Moved d') : Moved (.call d c) (.call d' c)

namespace Descriptor.Moved

variable {d d' : Descriptor σ}

theorem id (h : d.Moved d') : d'.id = d.id := by
  rw [h.same]

theorem requirement (h : d.Moved d') : d'.requirement = d.requirement := by
  rw [h.same]

theorem handler (h : d.Moved d') : d'.handler = d.handler := by
  rw [h.same]

theorem pool_iff (h : d.Moved d') : d'.lane = .pool ↔ d.lane = .pool := by
  rcases h.lane with hsame | ⟨-, hd, hd'⟩
  · rw [hsame]
  · exact iff_of_false hd' hd

end Descriptor.Moved

namespace Table.Moved

variable {t t' : Table σ}

theorem lookup (h : t.Moved t') (id : Opcode) :
    Option.Rel Descriptor.Moved (t.lookup id) (t'.lookup id) := by
  obtain ⟨descriptors⟩ := t
  obtain ⟨descriptors'⟩ := t'
  change List.Forall₂ Descriptor.Moved descriptors descriptors' at h
  unfold Table.lookup
  induction h with
  | nil => exact .none
  | @cons d d' rest rest' hd hrest ih =>
      by_cases hid : d.id = id
      · have hid' : d'.id = id := hd.id.trans hid
        simpa [hid, hid'] using Option.Rel.some hd
      · have hid' : d'.id ≠ id := fun h => hid (hd.id.symm.trans h)
        simpa [hid, hid'] using ih

/-- The table and the gate do not ask where a message will run. -/
theorem decide (h : t.Moved t') (phase : Phase) (env : Envelope) :
    Decision.Moved (t.decide phase env) (t'.decide phase env) := by
  have hlookup := h.lookup env.opcode
  generalize hfound : t.lookup env.opcode = found at hlookup
  generalize hfound' : t'.lookup env.opcode = found' at hlookup
  cases hlookup with
  | none =>
      rw [Table.decide_of_unknown hfound, Table.decide_of_unknown hfound']
      exact .stop _
  | @some d d' moved =>
      cases hcheck : d.requirement.check phase with
      | unhandled =>
          rw [Table.decide_of_unhandled hfound hcheck,
            Table.decide_of_unhandled hfound' (moved.requirement ▸ hcheck)]
          exact .stop _
      | denied reason =>
          rw [Table.decide_of_denied hfound hcheck,
            Table.decide_of_denied hfound' (moved.requirement ▸ hcheck), moved.requirement]
          exact .stop _
      | granted =>
          cases hprepare : d.handler.prepare env with
          | error fault =>
              rw [Table.decide_of_undecodable hfound hcheck hprepare,
                Table.decide_of_undecodable hfound' (moved.requirement ▸ hcheck)
                  (moved.handler ▸ hprepare)]
              exact .stop _
          | ok c =>
              rw [Table.decide_of_prepared hfound hcheck hprepare,
                Table.decide_of_prepared hfound' (moved.requirement ▸ hcheck)
                  (moved.handler ▸ hprepare)]
              exact .call c moved

end Table.Moved

/-! ## One message -/

namespace Engine

variable {e e' : Engine σ} {t t' : Table σ} {phase : Phase} {ref : SessionRef} {env : Envelope}

/-- On the dispatching thread and on the world thread a call comes to the same. -/
theorem exists_handles_served {d : Descriptor σ} {c : Call σ} {session : σ} (ready : Ready t e)
    (budget : Nat) (live : e.scene.connected ref = true) (h : t.decide phase env = .call d c)
    (lane : d.lane ≠ .pool) (present : e.scene.session? ref = some session) :
    ∃ outcome, outcome.rejection? = none ∧
      Handles t e budget phase ref env outcome (e.served ref env c session) := by
  cases hlane : d.lane with
  | inPlace =>
      exact ⟨_, Outcome.rejection?_ofResult _,
        handles_of_inPlace ready budget live h hlane present⟩
  | world => exact ⟨_, rfl, handles_of_world ready budget live h hlane present⟩
  | pool => exact absurd hlane lane

/-- A message and the pass after it, in engines that are alike and whose tables differ in where
calls run. -/
theorem exists_handles_alike (ready : Ready t e) (ready' : Ready t' e') (alike : Alike e e')
    (moved : t.Moved t') (budget : Nat) (phase : Phase) (env : Envelope)
    (live : e.scene.connected ref = true) :
    ∃ outcome outcome' f f', Handles t e budget phase ref env outcome f ∧
      Handles t' e' budget phase ref env outcome' f' ∧ Alike f f' ∧
      outcome'.rejection? = outcome.rejection? := by
  have live' : e'.scene.connected ref = true := (alike.scene.connected ref).trans live
  have hmoved := moved.decide phase env
  generalize hdecide : t.decide phase env = decision at hmoved
  generalize hdecide' : t'.decide phase env = decision' at hmoved
  cases hmoved with
  | stop outcome =>
      exact ⟨outcome, outcome, _, _, handles_of_stop ready budget live hdecide,
        handles_of_stop ready' budget live' hdecide', alike.counted env outcome, rfl⟩
  | @call d d' c moved =>
      by_cases hpool : d.lane = .pool
      · have hpool' := moved.pool_iff.mpr hpool
        have hroom : e'.HasRoom .pool ↔ e.HasRoom .pool := by
          simp only [HasRoom, ready.standard, ready'.standard, alike.pool]
        by_cases room : e.HasRoom .pool
        · exact ⟨_, _, _, _, handles_of_pool ready budget live hdecide hpool room,
            handles_of_pool ready' budget live' hdecide' hpool' (hroom.mpr room),
            (alike.withJob ref env c).counted env _, rfl⟩
        · exact ⟨_, _, _, _, handles_of_pool_full ready budget live hdecide hpool room,
            handles_of_pool_full ready' budget live' hdecide' hpool' (fun h => room (hroom.mp h)),
            alike.counted env _, rfl⟩
      · have hpool' : d'.lane ≠ .pool := fun h => hpool (moved.pool_iff.mp h)
        obtain ⟨session, present⟩ := Scene.exists_session_of_connected live
        have present' := (alike.scene.session? ref).trans present
        obtain ⟨outcome, hnone, handles⟩ :=
          exists_handles_served ready budget live hdecide hpool present
        obtain ⟨outcome', hnone', handles'⟩ :=
          exists_handles_served ready' budget live' hdecide' hpool' present'
        exact ⟨outcome, outcome', _, _, handles, handles', alike.served ref env c session,
          hnone'.trans hnone.symm⟩

end Engine

/-! ## Runs -/

/-- A message, and what happens beside the dispatching thread after it and the pass that follows
it. -/
structure Turn where
  phase : Phase
  session : SessionRef
  envelope : Envelope
  beside : List Background

/-- A message is dispatched, the world thread makes a pass, and the pool goes on. -/
def Turn.events (budget : Nat) (turn : Turn) : List (Event σ) :=
  .dispatch turn.phase turn.session turn.envelope :: .drain budget :: turn.beside.map .beside

/-- A message of a turn, as the history has it. -/
def Turn.message (turn : Turn) : Phase × SessionRef × Envelope :=
  (turn.phase, turn.session, turn.envelope)

namespace Arrival

def message (a : Arrival) : Phase × SessionRef × Envelope :=
  (a.phase, a.session, a.envelope)

/-- The number of an arrival with the outcome of a rejection. -/
def rejection? (a : Arrival) : Nat × Option Outcome :=
  (a.ticket, a.outcome.rejection?)

end Arrival

namespace Traffic

variable {t t' : Table σ} {s s' : Traffic σ}

/-- Two runs of the same messages with tables that differ in where calls run, between two turns. -/
structure Abreast (t t' : Table σ) (s s' : Traffic σ) : Prop where
  ready : Engine.Ready t s.engine
  ready' : Engine.Ready t' s'.engine
  alike : s.engine.Alike s'.engine
  messages : s'.arrivals.map Arrival.message = s.arrivals.map Arrival.message
  rejections : s'.arrivals.map Arrival.rejection? = s.arrivals.map Arrival.rejection?

theorem run_append (s : Traffic σ) (first second : List (Event σ)) :
    s.run (first ++ second) = (s.run first).run second :=
  List.foldl_append

/-- What a dispatch and a pass make of the engine and of the history. -/
structure Passed (t : Table σ) (s : Traffic σ) (phase : Phase) (ref : SessionRef) (env : Envelope)
    (outcome : Outcome) (f : Engine σ) (s' : Traffic σ) : Prop where
  ready : Engine.Ready t s'.engine
  alike : f.Alike s'.engine
  arrivals : s'.arrivals = s.arrivals ++ [s.arrival phase ref env outcome]
  clients : s'.engine.scene.clients = s.engine.scene.clients

theorem passed_of_handles {outcome : Outcome} {f : Engine σ} {budget : Nat} {phase : Phase}
    {ref : SessionRef} {env : Envelope} (ready : Engine.Ready t s.engine)
    (h : Engine.Handles t s.engine budget phase ref env outcome f) :
    Passed t s phase ref env outcome f ((s.dispatch phase ref env).drain budget) := by
  obtain ⟨dispatched, hdispatch, ready', alike⟩ := h
  have hengine : (s.dispatch phase ref env).engine = dispatched := by
    simp [dispatch, hdispatch]
  refine ⟨?_, ?_, ?_, ?_⟩
  · simpa only [drain, hengine] using ready'
  · simpa only [drain, hengine] using alike
  · simp [drain, dispatch, hdispatch]
  · simp only [drain, hengine, Engine.clients_drain]
    exact Engine.clients_of_dispatch ready.installed hdispatch

/-- A turn is a dispatch, a pass, and what happens beside it. -/
theorem run_turn (budget : Nat) (turn : Turn) (s : Traffic σ) :
    s.run (turn.events budget) =
      ((s.dispatch turn.phase turn.session turn.envelope).drain budget).run
        (turn.beside.map .beside) := rfl

namespace Abreast

theorem start {e : Engine σ} (standard : e.scheduler = .standard) (clear : e.queue.Clear) :
    Abreast t t' (start (e.withTable t)) (start (e.withTable t')) where
  ready := ⟨rfl, standard, clear⟩
  ready' := ⟨rfl, standard, clear⟩
  alike := ⟨rfl, rfl, .refl _⟩
  messages := rfl
  rejections := rfl

/-- A turn keeps two runs abreast.  It adds its message to the history and takes no client away. -/
theorem turn (h : Abreast t t' s s') (moved : t.Moved t') (budget : Nat) (turn : Turn)
    (live : s.engine.scene.connected turn.session = true) :
    Abreast t t' (s.run (turn.events budget)) (s'.run (turn.events budget)) ∧
      (s.run (turn.events budget)).arrivals.map Arrival.message =
        s.arrivals.map Arrival.message ++ [turn.message] ∧
      (s.run (turn.events budget)).engine.scene.clients = s.engine.scene.clients := by
  obtain ⟨outcome, outcome', f, f', handles, handles', alike, hrejection⟩ :=
    Engine.exists_handles_alike h.ready h.ready' h.alike moved budget turn.phase turn.envelope live
  have passed := passed_of_handles h.ready handles
  have passed' := passed_of_handles h.ready' handles'
  have hengine (r : Traffic σ) := (passesBy_run turn.beside r).engine
  have harrivals (r : Traffic σ) := (passesBy_run turn.beside r).arrivals
  simp only [run_turn]
  refine ⟨?_, ?_, ?_⟩
  · exact {
      ready := by
        rw [hengine]
        exact passed.ready.of_aside (Engine.aside_happenAll _ _)
      ready' := by
        rw [hengine]
        exact passed'.ready.of_aside (Engine.aside_happenAll _ _)
      alike := by
        rw [hengine, hengine]
        exact (passed.alike.symm.trans (alike.trans passed'.alike)).happenAll turn.beside
      messages := by
        rw [harrivals, harrivals, passed.arrivals, passed'.arrivals, List.map_append,
          List.map_append, h.messages]
        rfl
      rejections := by
        rw [harrivals, harrivals, passed.arrivals, passed'.arrivals, List.map_append,
          List.map_append, h.rejections]
        simp [Arrival.rejection?, arrival, hrejection, h.alike.dispatched] }
  · rw [harrivals, passed.arrivals, List.map_append]
    rfl
  · rw [hengine, (Engine.aside_happenAll _ _).clients, passed.clients]

/-- Turns of connected sessions keep two runs abreast. -/
theorem turns (h : Abreast t t' s s') (moved : t.Moved t') (budget : Nat) (turns : List Turn)
    (live : ∀ turn ∈ turns, s.engine.scene.connected turn.session = true) :
    Abreast t t' (s.run (turns.flatMap (Turn.events budget)))
        (s'.run (turns.flatMap (Turn.events budget))) ∧
      (s.run (turns.flatMap (Turn.events budget))).arrivals.map Arrival.message =
        s.arrivals.map Arrival.message ++ turns.map Turn.message := by
  induction turns generalizing s s' with
  | nil => exact ⟨h, by simp [run]⟩
  | cons turn rest ih =>
      obtain ⟨hturn, hmessages, hclients⟩ :=
        h.turn moved budget turn (live turn List.mem_cons_self)
      have hlive : ∀ later ∈ rest,
          (s.run (turn.events budget)).engine.scene.connected later.session = true := by
        intro later hlater
        rw [Scene.connected_congr hclients]
        exact live later (List.mem_cons_of_mem _ hlater)
      obtain ⟨hrest, hmessages'⟩ := ih hturn hlive
      rw [List.flatMap_cons, run_append, run_append]
      refine ⟨hrest, ?_⟩
      rw [hmessages', hmessages, List.append_assoc]
      rfl

end Abreast

/-- Deferring messages to the world thread cannot be told from running them at once.  Take two
tables that are equal except that opcodes of clients were moved between the two places, an engine
whose open world queue is empty and has room, and messages of connected sessions in any phases.
When each message is dispatched and followed by a pass of any budget, every dispatch returns; the
two runs make the same calls with the same results in the same order, reject the same messages in
the same way, count the same but for the messages that were scheduled, and leave the sessions the
same.  The pool may do anything between two turns. -/
theorem deferral_changes_nothing {e : Engine σ} (moved : t.Moved t')
    (standard : e.scheduler = .standard) (clear : e.queue.Clear) (budget : Nat)
    (turns : List Turn) (live : ∀ turn ∈ turns, e.scene.connected turn.session = true) :
    let s := (start (e.withTable t)).run (turns.flatMap (Turn.events budget))
    let s' := (start (e.withTable t')).run (turns.flatMap (Turn.events budget))
    s.arrivals.map Arrival.message = turns.map Turn.message ∧
      s'.arrivals.map Arrival.message = turns.map Turn.message ∧
      s'.engine.scene.calls.map CallRecord.unplaced =
        s.engine.scene.calls.map CallRecord.unplaced ∧
      s'.arrivals.map Arrival.rejection? = s.arrivals.map Arrival.rejection? ∧
      s'.engine.scene.tally.unscheduled = s.engine.scene.tally.unscheduled ∧
      s'.engine.scene.seats = s.engine.scene.seats := by
  intro s s'
  have start : Abreast t t' (start (e.withTable t)) (start (e.withTable t')) :=
    .start standard clear
  obtain ⟨abreast, hmessages⟩ := start.turns moved budget turns live
  exact ⟨hmessages, abreast.messages.trans hmessages, abreast.alike.scene.calls,
    abreast.rejections, abreast.alike.scene.tally, abreast.alike.scene.seats⟩

/-- A table with two opcodes that may run in either place.  The handler of one breaks off; that of
the other reads a word and fails. -/
def movable (first second : Lane) : Table Nat :=
  ⟨[⟨1, "ONE", .client, .authed, first,
      Handler.raw "one" fun _ _ n => { session := n + 1, ending := .brokeOff none }⟩,
    ⟨2, "TWO", .client, .authed, .pool,
      Handler.raw "two" fun _ _ n => { session := 2 * n, ending := .returned }⟩,
    ⟨3, "THREE", .client, .loggedIn, second,
      Handler.typed "three" Wire.word64 fun word _ n =>
        { session := n + word.toNat, ending := .failed (.execution "three") }⟩]⟩

/-- Messages that run and fail, and some that are denied, too short, or unknown. -/
def movableTurns : List Turn :=
  [⟨.authed, 0, ⟨1, [], ⟨"a"⟩, 1⟩, []⟩,
    ⟨.authed, 0, ⟨3, [], ⟨"a"⟩, 2⟩, []⟩,
    ⟨.authed, 0, ⟨2, [], ⟨"a"⟩, 3⟩, [.start 0, .finish 0]⟩,
    ⟨.loggedIn, 0, ⟨3, [7], ⟨"a"⟩, 4⟩, []⟩,
    ⟨.loggedIn, 0, ⟨3, [7, 0, 0, 0, 0, 0, 0, 0], ⟨"a"⟩, 5⟩, [.elapse 10]⟩,
    ⟨.loggedIn, 0, ⟨9, [], ⟨"a"⟩, 6⟩, []⟩]

/-- A run of these messages with a queue for one job. -/
def movableRun (first second : Lane) : Traffic Nat :=
  (start ((((Engine.create .standard (Pool.start 1) (WorldQueue.empty 1)).connect 5).2).withTable
    (movable first second))).run (movableTurns.flatMap (Turn.events 1))

/-- Two messages are scheduled in each run, and not the same ones. -/
theorem deferral_changes_nothing_movable :
    (movableRun .inPlace .world).arrivals.map Arrival.outcome ≠
        (movableRun .world .inPlace).arrivals.map Arrival.outcome ∧
      (movableRun .inPlace .world).engine.scene.calls.map CallRecord.unplaced =
        (movableRun .world .inPlace).engine.scene.calls.map CallRecord.unplaced ∧
      (movableRun .world .inPlace).engine.scene.calls.map CallRecord.ticket = [0, 2, 4] ∧
      (movableRun .inPlace .world).engine.scene.tally.unscheduled =
        (movableRun .world .inPlace).engine.scene.tally.unscheduled ∧
      (movableRun .world .inPlace).engine.scene.tally.dropped = 3 ∧
      (movableRun .world .inPlace).engine.scene.tally.handlerFailures = 2 := by
  have moved : (movable .world .inPlace).Moved (movable .inPlace .world) :=
    .cons ⟨rfl, .inr ⟨rfl, nofun, nofun⟩⟩ (.cons ⟨rfl, .inl rfl⟩
      (.cons ⟨rfl, .inr ⟨rfl, nofun, nofun⟩⟩ .nil))
  obtain ⟨-, -, hcalls, -, htally, -⟩ := deferral_changes_nothing
    (e := ((Engine.create .standard (Pool.start 1) (WorldQueue.empty 1)).connect 5).2)
    moved rfl (WorldQueue.clear_empty (by decide)) 1 movableTurns (by decide)
  exact ⟨by decide, hcalls, rfl, htally, rfl, rfl⟩

end Traffic
end PacketDispatch
