import PacketDispatch.Proofs.Engine.Clients
import PacketDispatch.Proofs.Engine.Journal
import PacketDispatch.Proofs.Traffic.Spoofing

/-!
# The table is installed once and for all

An engine without a table serves nobody.  The first table that it is given stays; any other is
handed back.  From then on the engine cannot be told from one that had this table from the start,
but for the lines in its journal about tables.
-/

namespace PacketDispatch

variable {σ : Type}

/-! ## Lines about tables -/

namespace Engine

/-- The line about a table that is installed. -/
def installedLine (t : Table σ) : Line :=
  ⟨.debug, "📚 Installed opcode table with " ++ Text.decimal t.size ++ " descriptors"⟩

/-- The line about a table that is handed back. -/
def replacementLine : Line :=
  ⟨.warn, "⚠️ Opcode table is already installed, ignoring replacement"⟩

variable {e : Engine σ} {t : Table σ}

theorem install_of_table_eq_none (h : e.table = none) (t : Table σ) :
    e.install t = (.ok (), (e.withTable t).note [installedLine t]) := by
  simp only [install, h]
  rfl

theorem install_of_table_eq_some (h : e.table = some t) (t' : Table σ) :
    e.install t' = (.error t', e.note [replacementLine]) := by
  simp only [install, h]
  rfl

theorem dispatch_of_table_eq_none (h : e.table = none) (phase : Phase) (ref : SessionRef)
    (env : Envelope) : e.dispatch phase ref env = .error .noTable := by
  simp only [dispatch, arrive, h]

end Engine

/-- An entry of the journal that is not about a table being installed or handed back, where the
table that is installed is given. -/
def Note.besides (t : Table σ) (note : Note) : Bool :=
  note ≠ ⟨.caller, .line (Engine.installedLine t)⟩ ∧ note ≠ ⟨.caller, .line Engine.replacementLine⟩

/-- The table that comes with an event. -/
def Event.table? : Event σ → Option (Table σ)
  | .install t => some t
  | _ => none

theorem Event.eq_install_of_table?_eq_some {event : Event σ} {t : Table σ}
    (h : event.table? = some t) : event = .install t := by
  cases event with
  | install t' => exact congrArg Event.install (Option.some.inj h)
  | connect | disconnect | dispatch | arrive | settle | drain | proceed | closeQueue | closePool
  | beside => cases h

/-- The table of the first event that comes with one. -/
def firstTable? (events : List (Event σ)) : Option (Table σ) :=
  events.findSome? Event.table?

/-- What is left for an engine that has its table from the start: no event comes with a table, and
no message before the first such event is there. -/
def served : List (Event σ) → List (Event σ)
  | [] => []
  | .install _ :: rest => rest.filter fun event => event.table?.isNone
  | event :: rest => if event.asksTable then served rest else event :: served rest

theorem served_cons_of_table?_eq_none {event : Event σ} (h : event.table? = none)
    (rest : List (Event σ)) :
    served (event :: rest) = if event.asksTable then served rest else event :: served rest := by
  cases event with
  | install t => cases h
  | _ => rfl

namespace Traffic

variable {s s' : Traffic σ} {t : Table σ} {event : Event σ}

/-! ## The table of an engine in service -/

theorem arrive_of_table_eq_none (h : s.engine.table = none) (phase : Phase) (ref : SessionRef)
    (env : Envelope) : s.arrive phase ref env = s := by
  simp only [arrive, Engine.arrive, h]

theorem dispatch_of_table_eq_none (h : s.engine.table = none) (phase : Phase) (ref : SessionRef)
    (env : Envelope) : s.dispatch phase ref env = s := by
  simp only [dispatch, Engine.dispatch_of_table_eq_none h]

/-- Without a table a message comes to nothing. -/
theorem step_of_table_eq_none (h : s.engine.table = none) (asks : event.asksTable = true)
    (without : event.table? = none) : s.step event = s := by
  cases event with
  | dispatch phase ref env => exact s.dispatch_of_table_eq_none h phase ref env
  | arrive phase ref env => exact s.arrive_of_table_eq_none h phase ref env
  | install t => cases without
  | connect | disconnect | settle | drain | proceed | closeQueue | closePool | beside => cases asks

theorem table_arrive (s : Traffic σ) (phase : Phase) (ref : SessionRef) (env : Envelope) :
    (s.arrive phase ref env).engine.table = s.engine.table := by
  rcases s.arrive_cases phase ref env with hsame | ⟨outcome, begins⟩
  · rw [hsame]
  · cases htable : s.engine.table with
    | none => rw [s.arrive_of_table_eq_none htable, htable]
    | some t =>
        have hadmits := Engine.admits_of_arrive htable begins.engine
        exact hadmits.table.trans htable

theorem table_settle (s : Traffic σ) (place : Nat) :
    (s.settle place).engine.table = s.engine.table := by
  unfold settle
  cases s.underway[place]? <;> rfl

theorem table_step_of_table?_eq_none (h : event.table? = none) :
    (s.step event).engine.table = s.engine.table := by
  cases event with
  | install t => cases h
  | dispatch phase ref env =>
      change (s.dispatch phase ref env).engine.table = _
      rw [dispatch_eq_settle_arrive, table_settle, table_arrive]
  | arrive phase ref env => exact s.table_arrive phase ref env
  | settle place => exact s.table_settle place
  | beside b =>
      cases b with
      | start place => exact (Engine.aside_startPooled s.engine place).table
      | finish place => exact (Engine.aside_finishPooled s.engine place).table
      | elapse ms => rfl
  | connect session | disconnect ref | drain budget | proceed limit | closeQueue | closePool => rfl

/-- A table that is there stays, and else an event may bring one. -/
theorem table_step (s : Traffic σ) (event : Event σ) :
    (s.step event).engine.table = s.engine.table.or event.table? := by
  cases hevent : event.table? with
  | none => rw [table_step_of_table?_eq_none hevent, Option.or_none]
  | some t =>
      obtain rfl := Event.eq_install_of_table?_eq_some hevent
      cases htable : s.engine.table with
      | none =>
          simp only [step, mapEngine_engine, Engine.install_of_table_eq_none htable]
          rfl
      | some installed =>
          simp only [step, mapEngine_engine, Engine.install_of_table_eq_some htable]
          exact htable

/-- The table of an engine in service is the first that it was given. -/
theorem table_run (s : Traffic σ) (events : List (Event σ)) :
    (s.run events).engine.table = s.engine.table.or (firstTable? events) := by
  induction events generalizing s with
  | nil => exact Option.or_none.symm
  | cons event rest ih =>
      change ((s.step event).run rest).engine.table = _
      rw [ih, table_step, firstTable?, firstTable?, List.findSome?_cons, Option.or_assoc]
      cases event.table? <;> rfl

/-! ## The journal of an engine in service -/

/-- The traffic with entries in front of the journal. -/
def afterJournal (s : Traffic σ) (notes : List Note) : Traffic σ :=
  s.mapEngine fun e => e.afterJournal notes

/-- The traffic without its journal. -/
def withoutJournal (s : Traffic σ) : Traffic σ :=
  s.mapEngine fun e => { e with scene := { e.scene with notes := [] } }

theorem afterJournal_withoutJournal (s : Traffic σ) :
    s.withoutJournal.afterJournal s.engine.scene.notes = s := by
  simp only [afterJournal, withoutJournal, mapEngine, Engine.afterJournal, Scene.afterJournal,
    List.append_nil]

theorem arrive_afterJournal (s : Traffic σ) (notes : List Note) (phase : Phase) (ref : SessionRef)
    (env : Envelope) :
    (s.afterJournal notes).arrive phase ref env = (s.arrive phase ref env).afterJournal notes := by
  have harrive := s.engine.arrive_afterJournal notes phase ref env
  unfold arrive
  simp only [afterJournal, mapEngine_engine]
  rw [harrive]
  cases s.engine.arrive phase ref env <;> rfl

theorem settle_afterJournal (s : Traffic σ) (notes : List Note) (place : Nat) :
    (s.afterJournal notes).settle place = (s.settle place).afterJournal notes := by
  unfold settle
  simp only [afterJournal, mapEngine]
  cases s.underway[place]? <;> rfl

theorem proceed_afterJournal (s : Traffic σ) (notes : List Note) (limit : Nat) :
    (s.afterJournal notes).proceed limit = (s.proceed limit).afterJournal notes := by
  have hpass : s.engine.queue.runUpTo Job.run limit (s.engine.scene.afterJournal notes) = _ :=
    WorldQueue.runUpTo_state (Job.run_afterJournal notes) limit s.engine.queue s.engine.scene
  simp only [proceed, afterJournal, mapEngine, Engine.afterJournal, hpass]

theorem drain_afterJournal (s : Traffic σ) (notes : List Note) (budget : Nat) :
    (s.afterJournal notes).drain budget = (s.drain budget).afterJournal notes := by
  have hpass : s.engine.queue.pass Job.run budget (s.engine.scene.afterJournal notes) = _ :=
    WorldQueue.runUpTo_state (Job.run_afterJournal notes) _ s.engine.queue s.engine.scene
  simp only [drain, Engine.drain, afterJournal, mapEngine, Engine.afterJournal, Engine.note, hpass,
    Scene.writeLines_afterJournal]
  rfl

/-- Whatever happens, entries in front of the journal stay there and make no difference. -/
theorem step_afterJournal (s : Traffic σ) (notes : List Note) (event : Event σ) :
    (s.afterJournal notes).step event = (s.step event).afterJournal notes := by
  cases event with
  | install t =>
      have hinstall := s.engine.install_afterJournal notes t
      simp only [step, afterJournal, mapEngine, hinstall]
  | dispatch phase ref env =>
      change (s.afterJournal notes).dispatch phase ref env =
        (s.dispatch phase ref env).afterJournal notes
      rw [dispatch_eq_settle_arrive, dispatch_eq_settle_arrive, arrive_afterJournal,
        settle_afterJournal]
      rfl
  | arrive phase ref env => exact s.arrive_afterJournal notes phase ref env
  | settle place => exact s.settle_afterJournal notes place
  | drain budget => exact s.drain_afterJournal notes budget
  | proceed limit => exact s.proceed_afterJournal notes limit
  | beside b =>
      cases b with
      | start place =>
          have hstart := s.engine.startPooled_afterJournal notes place
          simp only [step, beside, afterJournal, mapEngine, Engine.happen, hstart]
      | finish place =>
          have hfinish := s.engine.finishPooled_afterJournal notes place
          simp only [step, beside, finish, afterJournal, mapEngine, hfinish]
          rfl
      | elapse ms => rfl
  | connect session | disconnect ref | closeQueue | closePool => rfl

/-! ## An engine that had its table from the start -/

/-- The traffic without the lines about tables. -/
def besidesTables (s : Traffic σ) (t : Table σ) : Traffic σ :=
  s.withoutJournal.afterJournal (s.engine.scene.notes.filter (Note.besides t))

/-- The traffic is the same but for the lines about tables. -/
structure Matches (t : Table σ) (s s' : Traffic σ) : Prop where
  withoutJournal : s.withoutJournal = s'.withoutJournal
  notes : s.engine.scene.notes.filter (Note.besides t) =
    s'.engine.scene.notes.filter (Note.besides t)

namespace Matches

theorem refl (t : Table σ) (s : Traffic σ) : Matches t s s :=
  ⟨rfl, rfl⟩

theorem besidesTables_eq (h : Matches t s s') : s.besidesTables t = s'.besidesTables t := by
  rw [besidesTables, besidesTables, h.withoutJournal, h.notes]

/-- A line about a table may be written on one side alone. -/
theorem note_left (h : Matches t s s') {line : Line}
    (about : Note.besides t ⟨.caller, .line line⟩ = false) :
    Matches t (s.mapEngine fun e => e.note [line]) s' where
  withoutJournal := h.withoutJournal
  notes := by
    rw [← h.notes]
    simp [Engine.note, Scene.writeLines, Scene.write, List.filter_append, about]

/-- The next message gets the same answer on both sides. -/
theorem answer_eq (h : Matches t s s') (phase : Phase) (ref : SessionRef) (env : Envelope) :
    (s.engine.dispatch phase ref env).map Prod.fst =
      (s'.engine.dispatch phase ref env).map Prod.fst := by
  have hwithout : ∀ s : Traffic σ, (s.engine.dispatch phase ref env).map Prod.fst =
      (s.withoutJournal.engine.dispatch phase ref env).map Prod.fst := by
    intro s
    have hdispatch :=
      s.withoutJournal.engine.dispatch_afterJournal s.engine.scene.notes phase ref env
    have hwhole : s.withoutJournal.engine.afterJournal s.engine.scene.notes = s.engine :=
      congrArg Traffic.engine s.afterJournal_withoutJournal
    rw [hwhole] at hdispatch
    rw [hdispatch]
    cases s.withoutJournal.engine.dispatch phase ref env <;> rfl
  rw [hwithout s, hwithout s', h.withoutJournal]

/-- The same event on both sides changes nothing about that. -/
theorem step (h : Matches t s s') (event : Event σ) :
    Matches t (s.step event) (s'.step event) := by
  have hleft := s.withoutJournal.step_afterJournal s.engine.scene.notes event
  have hright := s'.withoutJournal.step_afterJournal s'.engine.scene.notes event
  rw [afterJournal_withoutJournal] at hleft hright
  rw [hleft, hright, ← h.withoutJournal]
  refine ⟨rfl, ?_⟩
  change ((s.engine.scene.notes ++ (s.withoutJournal.step event).engine.scene.notes).filter _) =
    (s'.engine.scene.notes ++ (s.withoutJournal.step event).engine.scene.notes).filter _
  rw [List.filter_append, List.filter_append, h.notes]

/-- The first table leaves nothing else than it would have left from the start. -/
theorem install_first (empty : s.engine.table = none) (t : Table σ) :
    Matches t (s.step (.install t)) (s.withTable t) := by
  have hstep : s.step (.install t) =
      (s.withTable t).mapEngine fun e => e.note [Engine.installedLine t] := by
    simp only [Traffic.step, withTable, mapEngine, Engine.install_of_table_eq_none empty]
  rw [hstep]
  exact (refl t _).note_left (by simp [Note.besides])

/-- A later table leaves nothing but a line. -/
theorem install_later (h : Matches t s s') (installed : s.engine.table = some t)
    (replacement : Table σ) : Matches t (s.step (.install replacement)) s' := by
  have hstep : s.step (.install replacement) =
      s.mapEngine fun e => e.note [Engine.replacementLine] := by
    simp only [Traffic.step, mapEngine, Engine.install_of_table_eq_some installed]
  rw [hstep]
  exact h.note_left (by simp [Note.besides])

/-- On the side that has its table, later ones may be given or not. -/
theorem run (h : Matches t s s') (installed : s.engine.table = some t)
    (events : List (Event σ)) :
    Matches t (s.run events) (s'.run (events.filter fun event => event.table?.isNone)) := by
  induction events generalizing s s' with
  | nil => exact h
  | cons event rest ih =>
      have hlater : (s.step event).engine.table = some t := by
        rw [table_step, installed]
        rfl
      cases htable : event.table? with
      | none =>
          have hkept : (event :: rest).filter (fun event => event.table?.isNone) =
              event :: rest.filter fun event => event.table?.isNone := by
            simp [htable]
          rw [hkept]
          exact ih (h.step event) hlater
      | some replacement =>
          have hgone : (event :: rest).filter (fun event => event.table?.isNone) =
              rest.filter fun event => event.table?.isNone := by
            simp [htable]
          rw [hgone]
          obtain rfl := Event.eq_install_of_table?_eq_some htable
          exact ih (h.install_later installed replacement) hlater

end Matches

/-- From the first table on, an engine cannot be told from one that had it from the start. -/
theorem matches_run_served (empty : s.engine.table = none) {events : List (Event σ)}
    (first : firstTable? events = some t) :
    Matches t (s.run events) ((s.withTable t).run (served events)) := by
  induction events generalizing s with
  | nil => cases first
  | cons event rest ih =>
      rw [firstTable?, List.findSome?_cons] at first
      cases htable : event.table? with
      | some t' =>
          rw [htable] at first
          obtain rfl : t' = t := Option.some.inj first
          obtain rfl := Event.eq_install_of_table?_eq_some htable
          have hinstalled : (s.step (.install t')).engine.table = some t' := by
            rw [table_step, empty]
            rfl
          exact (Matches.install_first empty t').run hinstalled rest
      | none =>
          rw [htable] at first
          have hempty : (s.step event).engine.table = none := by
            rw [table_step, empty, htable]
            rfl
          have hrest := ih hempty first
          change Matches t ((s.step event).run rest) _
          rw [served_cons_of_table?_eq_none htable]
          cases hasks : event.asksTable with
          | true =>
              rw [step_of_table_eq_none empty hasks htable] at hrest ⊢
              exact hrest
          | false =>
              rw [← s.step_withTable_of_not_asksTable t hasks] at hrest
              exact hrest

/-- A table is installed once. Whatever happens to an engine that was made without one, and at every
moment: its table is the first that it was given. While there was none, a dispatch comes back with a
fault and leaves everything as it is, and the next table is taken. Once there was one, any further
table is handed back, which leaves nothing but a line; and messages came back with the same
outcomes, the same calls were made and the same was counted as on an engine that had the first table
from the start and got everything but the messages that came before it. The next message gets the
same answer there too, and nothing else differs but lines about tables. -/
theorem table_is_installed_once (scheduler : Scheduler) (pool : Pool (Job σ) HandlerError)
    (queue : WorldQueue (Job σ)) (events : List (Event σ)) :
    let e := Engine.create scheduler pool queue
    let s := (start e).run events
    s.engine.table = firstTable? events ∧
      (firstTable? events = none →
        (∀ phase ref env, s.engine.dispatch phase ref env = .error .noTable ∧
          s.dispatch phase ref env = s ∧ s.arrive phase ref env = s) ∧
        ∀ t, s.engine.install t =
          (.ok (), (s.engine.withTable t).note [Engine.installedLine t])) ∧
      ∀ t, firstTable? events = some t →
        let s' := (start (e.withTable t)).run (served events)
        (∀ t', s.engine.install t' = (.error t', s.engine.note [Engine.replacementLine])) ∧
          s.arrivals = s'.arrivals ∧
          s.engine.scene.calls = s'.engine.scene.calls ∧
          s.engine.scene.tally = s'.engine.scene.tally ∧
          (∀ phase ref env, (s.engine.dispatch phase ref env).map Prod.fst =
            (s'.engine.dispatch phase ref env).map Prod.fst) ∧
          s.besidesTables t = s'.besidesTables t := by
  intro e s
  have htable : s.engine.table = firstTable? events := (start e).table_run events
  refine ⟨htable, fun hnone => ?_, fun t first => ?_⟩
  · have empty : s.engine.table = none := htable.trans hnone
    exact ⟨fun phase ref env => ⟨Engine.dispatch_of_table_eq_none empty phase ref env,
      s.dispatch_of_table_eq_none empty phase ref env,
      s.arrive_of_table_eq_none empty phase ref env⟩, Engine.install_of_table_eq_none empty⟩
  · intro s'
    have same : Matches t s s' := matches_run_served rfl first
    exact ⟨Engine.install_of_table_eq_some (htable.trans first),
      congrArg (fun s => s.arrivals) same.withoutJournal,
      congrArg (fun s => s.engine.scene.calls) same.withoutJournal,
      congrArg (fun s => s.engine.scene.tally) same.withoutJournal,
      same.answer_eq, same.besidesTables_eq⟩

/-- A session connects and two messages of it are lost. Then a table is installed, a message is
deferred, another table is handed back, and the deferred message is served by the first. -/
def lateTable : List (Event Nat) :=
  [.connect 5, .dispatch .authed 0 ⟨1, [7], ⟨"a"⟩, 0⟩, .arrive .authed 0 ⟨3, [7], ⟨"a"⟩, 1⟩,
    .install Table.threeLanes, .dispatch .authed 0 ⟨3, [7, 7], ⟨"a"⟩, 2⟩, .install Table.empty,
    .drain 0, .dispatch .authed 0 ⟨1, [7], ⟨"a"⟩, 3⟩, .install Table.threeLanes]

theorem table_is_installed_once_lateTable :
    let e : Engine Nat := Engine.create .standard (Pool.start 1) (WorldQueue.empty 1)
    let s := (start e).run lateTable
    let s' := (start (e.withTable Table.threeLanes)).run (served lateTable)
    firstTable? lateTable = some Table.threeLanes ∧
      s.arrivals.map Arrival.outcome = [.scheduled .world, .completed] ∧
      s.arrivals = s'.arrivals ∧
      s.engine.install Table.empty =
        (.error Table.empty, s.engine.note [Engine.replacementLine]) := by
  obtain ⟨-, -, hserved⟩ := table_is_installed_once .standard (Pool.start 1) (WorldQueue.empty 1)
    lateTable
  obtain ⟨hinstall, harrivals, -⟩ := hserved Table.threeLanes rfl
  exact ⟨rfl, by decide, harrivals, hinstall Table.empty⟩

end Traffic
end PacketDispatch
