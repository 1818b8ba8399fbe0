import PacketDispatch.Proofs.Replay.Accounting
import PacketDispatch.Proofs.Replay.Conversation

/-!
# Sessions of a trace do not influence each other

Two traces are interleavings of the same sessions when each session has the same records in the same
order in both.  All sessions of a replay pass through one queue, one pool and one set of counters,
and their calls are made at different moments in two replays.  Still each session hears the same, as
long as the pool has a permit for every record, and so the replays end with the same books.
-/

namespace PacketDispatch
namespace Replay

/-! ## Interleavings -/

/-- Lists with the same entries for each key, in the same order, have the same entries. -/
theorem perm_of_filter_eq {α β : Type} [DecidableEq β] (key : α → β) {l l' : List α}
    (h : ∀ b, l.filter (fun a => key a = b) = l'.filter fun a => key a = b) : l.Perm l' := by
  classical
  refine List.perm_iff_count.mpr fun a => ?_
  have hcount : ∀ l : List α, l.count a = (l.filter fun x => key x = key a).count a := by
    intro l
    exact (List.count_filter (by simp)).symm
  rw [hcount l, hcount l', h]

/-- Each session has the same records in both traces, in the same order. -/
def SameSessions (trace trace' : List Record) : Prop :=
  ∀ number, recordsOf number trace = recordsOf number trace'

theorem SameSessions.perm {trace trace' : List Record} (h : SameSessions trace trace') :
    trace.Perm trace' :=
  perm_of_filter_eq Record.session h

/-! ## What was said at the end -/

theorem results_of_placedResults (said : List Exchange) (place : Nat) :
    ((placedResults said).filter fun p => p.1 = place).map Prod.snd =
      (said[place]?.map Exchange.results).getD [] := by
  induction said using List.reverseRecOn with
  | nil => rfl
  | append_singleton said x ih =>
      rw [placedResults_concat, List.filter_append, List.map_append, ih]
      have hlast : ((x.results.map fun result => (said.length, result)).filter
          fun p => p.1 = place).map Prod.snd = if said.length = place then x.results else [] := by
        by_cases hplace : said.length = place <;>
          simp [hplace, List.filter_map, Function.comp_def]
      rw [hlast]
      rcases Nat.lt_trichotomy said.length place with hlt | rfl | hgt
      · have hnone : said[place]? = none := List.getElem?_eq_none (Nat.le_of_lt hlt)
        have hbeyond : (said ++ [x])[place]? = none :=
          List.getElem?_eq_none (by rw [List.length_append]; exact hlt)
        rw [hnone, hbeyond, if_neg (Nat.ne_of_lt hlt)]
        rfl
      · simp
      · rw [List.getElem?_append_left hgt, if_neg (Nat.ne_of_gt hgt), List.append_nil]

theorem map_snd_placedResults (said : List Exchange) :
    (placedResults said).map Prod.snd = said.flatMap Exchange.results := by
  induction said using List.reverseRecOn with
  | nil => rfl
  | append_singleton said x ih =>
      rw [placedResults_concat, List.map_append, ih, List.flatMap_append]
      simp [Function.comp_def]

/-- A replay has a result for each call that it made, with the number of its record. -/
def Run.placedCalls (r : Run) : List (Nat × Except HandlerError Unit) :=
  r.world.engine.scene.calls.map fun c => (c.ticket, c.result)

/-- A replay that is over has all results that were to come. -/
theorem Finished.placedCalls_perm {t : Table WorldSession} {trace : List Record} {r : Run}
    {s : Traffic WorldSession} (h : Finished t trace r s)
    {results : List (Nat × Except HandlerError Unit)}
    (told : r.world.engine.results.Perm results) : r.placedCalls.Perm results := by
  have hwaiting : r.world.engine.pool.waiting = [] := by
    have hpool := h.pool
    rw [Pool.unfinished] at hpool
    exact List.eq_nil_of_length_eq_zero (by omega)
  rw [Engine.results, hwaiting, h.settled, List.map_nil, List.map_nil, List.append_nil,
    List.append_nil] at told
  exact told

/-- What was said can be read off the log and the calls, when no record has more than one call. -/
theorem Run.exchanges_eq {r : Run} {said : List Exchange}
    (log : said.map Exchange.dispatched = r.log) (calls : r.placedCalls.Perm (placedResults said))
    (single : ∀ x ∈ said, x.results.length ≤ 1) : r.exchanges = said := by
  have hat : ∀ place x, said[place]? = some x → r.resultsAt place = x.results := by
    intro place x hx
    have hperm : (r.resultsAt place).Perm x.results := by
      have hfiltered := (calls.filter fun p => p.1 = place).map Prod.snd
      rw [results_of_placedResults, hx, Run.placedCalls, List.filter_map, List.map_map]
        at hfiltered
      exact hfiltered
    have hlength := single x (List.mem_of_getElem? hx)
    rcases nil_or_singleton_of_length_le_one hlength with hresults | ⟨result, hresults⟩
    · rw [hresults] at hperm ⊢
      exact hperm.eq_nil
    · rw [hresults] at hperm ⊢
      exact hperm.eq_singleton
  apply List.ext_getElem?
  intro place
  rw [Run.exchanges, List.getElem?_map, List.getElem?_zipIdx, ← log, List.getElem?_map]
  cases hx : said[place]? with
  | none => rfl
  | some x => simp [hat place x hx]

theorem Heard.exchanges_eq {t : Table WorldSession} {permits : Nat} {trace : List Record}
    {r : Run} {s : Traffic WorldSession} {said : List Exchange}
    (h : Heard t permits trace r said) (finished : Finished t trace r s) :
    r.exchanges = said := by
  refine Run.exchanges_eq h.log (finished.placedCalls_perm h.results) fun x hx => ?_
  have hmem : x ∈ (converse t (recordsOf x.session trace)).exchanges := by
    rw [← h.told]
    exact List.mem_filter.mpr ⟨hx, by simp⟩
  exact length_results_le_one t _ x hmem

/-! ## The books at the end -/

namespace Finished

variable {t : Table WorldSession} {permits : Nat} {trace trace' : List Record} {r r' : Run}
  {s s' : Traffic WorldSession} {said said' : List Exchange}

/-- The summary depends on what was read and said, and not on the order. -/
theorem summary_eq_of_perm (h : Finished t trace r s) (h' : Finished t trace' r' s')
    (read : trace.Perm trace') (logs : r.log.Perm r'.log) : r.summary = r'.summary := by
  have tells := h.seen.summary
  have tells' := h'.seen.summary
  have hsessions : r.summary.sessions = r'.summary.sessions := by
    rw [h.sessions, h'.sessions, h.length_members, h'.length_members]
    exact ((read.filter Record.decodes).map Record.session).dedup.length_eq
  apply Summary.ext
  case records => rw [h.total, h'.total, read.length_eq]
  case sessions => exact hsessions
  case completed => rw [tells.completed, tells'.completed, logs.countP_eq]
  case scheduled => rw [tells.scheduled, tells'.scheduled, logs.countP_eq]
  case ignored => rw [tells.ignored, tells'.ignored, logs.countP_eq]
  case handlerFailed => rw [tells.handlerFailed, tells'.handlerFailed, logs.countP_eq]
  case dropped => rw [tells.dropped, tells'.dropped, logs.countP_eq]
  case skipped => rw [h.skipped, h'.skipped, read.countP_eq]

/-- A counter of outcomes says how many messages in the log move it. -/
theorem count_eq_countP_log (h : Finished t trace r s) (books : Books t permits s) {k : Counter}
    (outcomes : ∀ ended : JobEnd HandlerError, k ≠ ended.counter) :
    r.world.engine.scene.tally.count k = r.log.countP fun d => d.outcome.moves k := by
  rw [← h.seen.countP_outcome fun outcome => outcome.moves k, ← h.seen.engine]
  exact books.tallied.count_eq_countP h.seen.idle outcomes

/-- The drops of an opcode are those in the log. -/
theorem dropsOf_eq_countP_log (h : Finished t trace r s) (books : Books t permits s)
    (id : Opcode) :
    r.world.engine.scene.tally.dropsOf id =
      r.log.countP fun d => d.outcome.dropsFor d.record.opcode id := by
  rw [← h.seen.countP_arrivals fun opcode outcome => outcome.dropsFor opcode id,
    ← h.seen.engine]
  exact books.tallied.dropsOf_eq h.seen.idle id

/-- A counter of calls says how many results of what was said move it. -/
theorem count_eq_countP_results (h : Finished t trace r s) (books : Books t permits s)
    (calls : r.placedCalls.Perm (placedResults said)) {k : Counter} (hk : k.ofCalls) :
    r.world.engine.scene.tally.count k =
      (said.flatMap Exchange.results).countP fun result => k = .ofResult result := by
  have hrunning : s.engine.pool.running = [] := by
    have hpool := h.pool
    rw [h.seen.engine, Pool.unfinished] at *
    exact List.eq_nil_of_length_eq_zero (by omega)
  have hcalls := calls.countP_eq fun p => k = .ofResult p.2
  rw [Run.placedCalls, List.countP_map] at hcalls
  rw [← map_snd_placedResults, List.countP_map]
  refine Eq.trans ?_ hcalls
  rw [← h.seen.engine, books.tallied.count_eq h.seen.idle,
    Traffic.entries_eq_countP_calls books.ledger hk hrunning]
  rfl

/-- The tally depends on what was said, and not on the order. -/
theorem tally_eq_of_placedCalls (h : Finished t trace r s) (h' : Finished t trace' r' s')
    (books : Books t permits s) (books' : Books t permits s')
    (calls : r.placedCalls.Perm (placedResults said))
    (calls' : r'.placedCalls.Perm (placedResults said')) (logs : r.log.Perm r'.log)
    (same : said.Perm said') :
    r.world.engine.scene.tally = r'.world.engine.scene.tally := by
  refine Tally.eq_of_count_eq ?_ ?_ (fun k => ?_) (fun id => ?_)
  · rw [← h.seen.engine]
    exact books.tallied.ordered
  · rw [← h'.seen.engine]
    exact books'.tallied.ordered
  · by_cases hk : k.ofCalls
    · rw [h.count_eq_countP_results books calls hk, h'.count_eq_countP_results books' calls' hk]
      exact (same.flatMap_right _).countP_eq _
    · by_cases hgone : k = .sessionsGone
      · rw [hgone]
        exact (h.seen.sessionsGone_eq_zero books.ledger books.tallied).trans
          (h'.seen.sessionsGone_eq_zero books'.ledger books'.tallied).symm
      · have houtcomes : ∀ ended : JobEnd HandlerError, k ≠ ended.counter := by
          rintro (_ | error | _) rfl
          · exact hk (Or.inl rfl)
          · exact hk (Or.inr rfl)
          · exact hgone rfl
        rw [h.count_eq_countP_log books houtcomes, h'.count_eq_countP_log books' houtcomes]
        exact logs.countP_eq _
  · rw [h.dropsOf_eq_countP_log books, h'.dropsOf_eq_countP_log books']
    exact logs.countP_eq _

theorem tally_eq_of_perm (h : Finished t trace r s) (h' : Finished t trace' r' s')
    (books : Books t permits s) (books' : Books t permits s')
    (heard : Heard t permits trace r said) (heard' : Heard t permits trace' r' said')
    (same : said.Perm said') :
    r.world.engine.scene.tally = r'.world.engine.scene.tally := by
  have logs : r.log.Perm r'.log := by
    rw [← heard.log, ← heard'.log]
    exact same.map Exchange.dispatched
  exact h.tally_eq_of_placedCalls h' books books' (h.placedCalls_perm heard.results)
    (h'.placedCalls_perm heard'.results) logs same

end Finished

/-! ## Two replays -/

/-- Over a steady table every trace is replayed to its end, and what is said can be told beforehand,
when there is a permit for each record. -/
theorem exists_run_heard {t : Table WorldSession} (steady : t.Steady) (budget : Nat)
    {permits capacity : Nat} (clear : 0 < capacity) (timing : Timing) (grace : Nat)
    {trace : List Record} (room : trace.length ≤ permits) :
    ∃ r s said, run timing grace trace (World.start ((Engine.create .standard (Pool.start permits)
        (WorldQueue.empty capacity)).withTable t) budget) = .ok r ∧
      Books t permits s ∧ Finished t trace r s ∧ Heard t permits trace r said := by
  have between := Between.start (t := t) permits budget clear
  have heard : Heard t permits [] _ [] := .start permits capacity budget
  obtain ⟨r, s, said, hrun, leads, between, heard⟩ :=
    between.hearAll heard steady timing grace trace (by simpa using room)
  obtain ⟨s', leads', finished⟩ := between.finish timing
  refine ⟨_, s', said, ?_, books_of_leads (leads.trans leads'), finished,
    heard.finish between.settled timing⟩
  rw [run, hrun]
  rfl

/-- Sessions of a trace do not influence each other. Take two traces in which each session has the
same records in the same order, and valid settings with a permit for each record. Replayed on the
production table with the handlers of the world, under any two timings of the pool, both come to
their end; corresponding records, in their sessions, have the same sequence number, the same outcome
and the same results of their calls, and both replays end with the same summary and the same
tally. -/
theorem replay_ignores_interleaving {d : Settings.Dispatch} {processors : Nat}
    (fits : d.Fits processors) {trace trace' : List Record} (same : SameSessions trace trace')
    (room : trace.length ≤ d.permits processors) (timing timing' : Timing) :
    ∃ w r r', Console.buildWorld d processors WorldSession.opening.table = .ok w ∧
      run timing d.graceMs trace w = .ok r ∧ run timing' d.graceMs trace' w = .ok r' ∧
      r.exchanges.map (fun x => x.dispatched.record) = trace.filter Record.decodes ∧
      r'.exchanges.map (fun x => x.dispatched.record) = trace'.filter Record.decodes ∧
      (∀ number, exchangesOf number r.exchanges = exchangesOf number r'.exchanges) ∧
      r.summary = r'.summary ∧
      r.world.engine.scene.tally = r'.world.engine.scene.tally := by
  obtain ⟨hclear, -⟩ := Settings.Dispatch.capacity_of_validate fits.valid
  have steady := WorldSession.steady_opening
  obtain ⟨r, s, said, hrun, books, finished, heard⟩ :=
    exists_run_heard steady d.worldDrainBudget hclear timing d.graceMs room
  obtain ⟨r', s', said', hrun', books', finished', heard'⟩ :=
    exists_run_heard steady d.worldDrainBudget hclear timing' d.graceMs
      (same.perm.length_eq ▸ room)
  have hsaid : ∀ number, exchangesOf number said = exchangesOf number said' := by
    intro number
    rw [heard.told, heard'.told, same number]
  have hperm : said.Perm said' := perm_of_filter_eq Exchange.session hsaid
  have hlogs : r.log.Perm r'.log := by
    rw [← heard.log, ← heard'.log]
    exact hperm.map Exchange.dispatched
  have hrecords : ∀ said : List Exchange, said.map (fun x => x.dispatched.record) =
      (said.map Exchange.dispatched).map Dispatched.record := by
    intro said
    rw [List.map_map]
    rfl
  refine ⟨_, r, r', fits.buildWorld _, hrun, hrun', ?_, ?_, ?_,
    finished.summary_eq_of_perm finished' same.perm hlogs,
    finished.tally_eq_of_perm finished' books books' heard heard' hperm⟩
  · rw [heard.exchanges_eq finished, hrecords, heard.log, finished.records]
  · rw [heard'.exchanges_eq finished', hrecords, heard'.log, finished'.records]
  · rw [heard.exchanges_eq finished, heard'.exchanges_eq finished']
    exact hsaid

/-- Two sessions that log in, ask for a name and log out, one after the other or side by side. -/
def visits (sideBySide : Bool) : List Record :=
  let enter (number : UInt32) : Record := ⟨number, .authed, 0x03D, ""⟩
  let ask (number : UInt32) : Record := ⟨number, .loggedIn, 0x050, "KgAAAAAAAAA="⟩
  let leave (number : UInt32) : Record := ⟨number, .loggedIn, 0x04B, ""⟩
  if sideBySide then [enter 9, enter 7, ask 7, ask 9, leave 9, leave 7]
  else [enter 7, ask 7, leave 7, enter 9, ask 9, leave 9]

theorem sameSessions_visits : SameSessions (visits false) (visits true) := by
  intro number
  by_cases hseven : (7 : UInt32) = number
  · subst hseven
    rfl
  · by_cases hnine : (9 : UInt32) = number
    · subst hnine
      rfl
    · simp [recordsOf, visits, hseven, hnine]

theorem replay_ignores_interleaving_visits :
    ∃ w r r',
      Console.buildWorld ⟨some 6, 1, 1, 50, 20, false⟩ 4 WorldSession.opening.table = .ok w ∧
      run idlePool 20000 (visits false) w = .ok r ∧ run .eager 20000 (visits true) w = .ok r' ∧
      (∀ number, exchangesOf number r.exchanges = exchangesOf number r'.exchanges) ∧
      r.summary = r'.summary ∧
      r.world.engine.scene.tally = r'.world.engine.scene.tally := by
  have fits : Settings.Dispatch.Fits ⟨some 6, 1, 1, 50, 20, false⟩ 4 := ⟨rfl, rfl⟩
  have room : (visits false).length ≤ 6 := by decide
  obtain ⟨w, r, r', hbuild, hrun, hrun', -, -, hsame⟩ :=
    replay_ignores_interleaving fits sameSessions_visits room idlePool .eager
  exact ⟨w, r, r', hbuild, hrun, hrun', hsame⟩

end Replay
end PacketDispatch
