import PacketDispatch.Proofs.Engine.Drops
import PacketDispatch.Proofs.Traffic.Ledger
import Mathlib.Data.List.Perm.Basic

/-!
# The counters are sums over the history

What each counter says can be read off the messages that arrived and the jobs that ended: an
arrival counts for its outcome once its dispatch is through, and a job for its end.
-/

namespace PacketDispatch

/-! ## What an entry counts -/

/-- A message with an outcome moves a counter. -/
def Outcome.moves (outcome : Outcome) (k : Counter) : Bool :=
  k = .received ∨ k = outcome.counter

/-- A message of an opcode is a drop of that opcode, or of another. -/
def Outcome.dropsFor (outcome : Outcome) (opcode id : Opcode) : Bool :=
  outcome.isDropped = true ∧ id = opcode ∧ opcode.toNat < opcodeLimit

/-- Every drop moves one counter of a reason. -/
theorem Outcome.countP_isDropped {α : Type} (items : List α) (outcome : α → Outcome) :
    (items.countP fun a => (outcome a).isDropped) =
      (items.countP fun a => (outcome a).moves .unknown) +
        (items.countP fun a => (outcome a).moves .denied) +
        (items.countP fun a => (outcome a).moves .decodeFailures) +
        items.countP fun a => (outcome a).moves .saturated := by
  induction items with
  | nil => rfl
  | cons a rest ih =>
      have hone : (if (outcome a).isDropped then 1 else 0) =
          (if (outcome a).moves .unknown then 1 else 0) +
            (if (outcome a).moves .denied then 1 else 0) +
            (if (outcome a).moves .decodeFailures then 1 else 0) +
            if (outcome a).moves .saturated then 1 else 0 := by
        cases outcome a with
        | dropped reason => cases reason <;> rfl
        | completed | scheduled lane | ignored | handlerFailed error => rfl
      simp only [List.countP_cons]
      omega

theorem Tally.count_recordOutcome_moves (c : Tally) (id : Opcode) (outcome : Outcome)
    (k : Counter) :
    (c.recordOutcome id outcome).count k = c.count k + if outcome.moves k then 1 else 0 := by
  rw [count_recordOutcome]
  simp only [Outcome.moves, decide_eq_true_eq]

theorem Tally.dropsOf_recordOutcome_dropsFor (c : Tally) (opcode id : Opcode)
    (outcome : Outcome) :
    (c.recordOutcome opcode outcome).dropsOf id =
      c.dropsOf id + if outcome.dropsFor opcode id then 1 else 0 := by
  rw [dropsOf_recordOutcome]
  simp only [Outcome.dropsFor, decide_eq_true_eq]

@[simp] theorem Tally.dropsOf_recordJob (c : Tally) (ended : JobEnd HandlerError) (id : Opcode) :
    (c.recordJob ended).dropsOf id = c.dropsOf id := by
  simp only [dropsOf, drops_recordJob]

namespace Traffic

variable {σ : Type} {s s' : Traffic σ}

/-- How many arrivals and ended jobs move a counter. -/
def entries (s : Traffic σ) (k : Counter) : Nat :=
  s.arrivals.countP (fun a => a.outcome.moves k) +
    (s.drained.countP (fun p => k = p.2.counter) + s.pooled.countP fun p => k = p.2.counter)

/-- Jobs that end do not move the counters of outcomes only. -/
theorem entries_eq_countP (s : Traffic σ) {k : Counter}
    (outcomes : ∀ ended : JobEnd HandlerError, k ≠ ended.counter) :
    s.entries k = s.arrivals.countP fun a => a.outcome.moves k := by
  have hnone : ∀ ended : List (Job σ × JobEnd HandlerError),
      ended.countP (fun p => k = p.2.counter) = 0 := by
    intro ended
    refine List.countP_eq_zero.mpr fun p _ => ?_
    simpa using outcomes p.2
  rw [entries, hnone, hnone]
  rfl

/-- The counters say what the history says, but for the dispatches under way. -/
structure Tallied (s : Traffic σ) : Prop where
  counts : ∀ k, s.engine.scene.tally.count k + s.underway.countP (fun p => p.2.moves k) =
    s.entries k
  drops : ∀ id, s.engine.scene.tally.dropsOf id +
      s.underway.countP (fun p => p.2.dropsFor p.1 id) =
    s.arrivals.countP fun a => a.outcome.dropsFor a.envelope.opcode id
  ordered : Tally.Ordered s.engine.scene.tally.drops

namespace Tallied

theorem start {e : Engine σ} (h : e.scene.tally = Tally.zero) : Tallied (start e) := by
  refine ⟨?_, ?_, ?_⟩
  · intro k
    cases k <;> simp [Traffic.start, h, Tally.zero, Tally.count, entries]
  · intro id
    simp [Traffic.start, h, Tally.zero, Tally.dropsOf, Tally.dropsIn]
  · rw [Traffic.start, h]
    exact Tally.Ordered.nil

/-- Events that count nothing and end no job. -/
theorem of_same (h : Tallied s) (tally : s'.engine.scene.tally = s.engine.scene.tally)
    (underway : s'.underway = s.underway) (arrivals : s'.arrivals = s.arrivals)
    (drained : s'.drained = s.drained) (pooled : s'.pooled = s.pooled) :
    Tallied s' := by
  refine ⟨?_, ?_, ?_⟩
  · simpa only [entries, tally, underway, arrivals, drained, pooled] using h.counts
  · simpa only [tally, underway, arrivals] using h.drops
  · simpa only [tally] using h.ordered

/-- A message that arrives is under way, and counts in the history. -/
theorem arrive (h : Tallied s) (phase : Phase) (ref : SessionRef) (env : Envelope) :
    Tallied (s.arrive phase ref env) := by
  rcases s.arrive_cases phase ref env with hsame | ⟨outcome, hbegins⟩
  · rw [hsame]
    exact h
  · generalize s.arrive phase ref env = s' at hbegins ⊢
    have htally : s'.engine.scene.tally = s.engine.scene.tally := by
      have harrive := hbegins.engine
      cases htable : s.engine.table with
      | none => simp [Engine.arrive, htable] at harrive
      | some t => exact (Engine.admits_of_arrive htable harrive).tally
    refine ⟨?_, ?_, ?_⟩
    · intro k
      have hcounts := h.counts k
      simp only [entries] at hcounts
      simp only [entries, htally, hbegins.underway, hbegins.arrivals, hbegins.drained,
        hbegins.pooled, List.countP_append, List.countP_singleton, arrival]
      omega
    · intro id
      have hdrops := h.drops id
      simp only [htally, hbegins.underway, hbegins.arrivals, List.countP_append,
        List.countP_singleton, arrival]
      omega
    · rw [htally]
      exact h.ordered

/-- A dispatch that is through is counted, and no longer under way. -/
theorem settle (h : Tallied s) (place : Nat) : Tallied (s.settle place) := by
  cases hfound : s.underway[place]? with
  | none => simpa only [Traffic.settle, hfound] using h
  | some p =>
      obtain ⟨opcode, outcome⟩ := p
      obtain ⟨hplace, hp⟩ := List.getElem?_eq_some_iff.mp hfound
      have hperm := List.getElem_cons_eraseIdx_perm hplace
      rw [hp] at hperm
      have herased : ∀ f : Opcode × Outcome → Bool, s.underway.countP f =
          (s.underway.eraseIdx place).countP f + if f (opcode, outcome) then 1 else 0 := by
        intro f
        rw [← hperm.countP_eq, List.countP_cons]
      have htally : (s.settle place).engine.scene.tally =
          s.engine.scene.tally.recordOutcome opcode outcome := by
        simp only [Traffic.settle, hfound]
        rfl
      have hunderway : (s.settle place).underway = s.underway.eraseIdx place := by
        simp only [Traffic.settle, hfound]
      have hhistory : (s.settle place).arrivals = s.arrivals ∧
          (s.settle place).drained = s.drained ∧ (s.settle place).pooled = s.pooled := by
        simp only [Traffic.settle, hfound, and_self]
      obtain ⟨harrivals, hdrained, hpooled⟩ := hhistory
      refine ⟨?_, ?_, ?_⟩
      · intro k
        have hcounts := h.counts k
        rw [herased] at hcounts
        simp only [entries] at hcounts
        simp only [entries, htally, Tally.count_recordOutcome_moves, hunderway, harrivals,
          hdrained, hpooled]
        omega
      · intro id
        have hdrops := h.drops id
        rw [herased] at hdrops
        dsimp only at hdrops
        simp only [htally, Tally.dropsOf_recordOutcome_dropsFor, hunderway, harrivals]
        omega
      · rw [htally]
        exact Tally.ordered_recordOutcome opcode outcome h.ordered

/-- A job that ends is counted for its end. -/
theorem of_job (h : Tallied s) {ended : JobEnd HandlerError}
    (tally : s'.engine.scene.tally = s.engine.scene.tally.recordJob ended)
    (underway : s'.underway = s.underway) (arrivals : s'.arrivals = s.arrivals)
    (entries : ∀ k, s'.entries k = s.entries k + if k = ended.counter then 1 else 0) :
    Tallied s' := by
  refine ⟨?_, ?_, ?_⟩
  · intro k
    have hcounts := h.counts k
    rw [tally, Tally.count_recordJob, underway, entries]
    omega
  · intro id
    rw [tally, Tally.dropsOf_recordJob, underway, arrivals]
    exact h.drops id
  · rw [tally, Tally.drops_recordJob]
    exact h.ordered

theorem next (h : Tallied s) : Tallied s.next := by
  rcases s.next_cases with hsame | ⟨j, ended, htakes⟩
  · rw [hsame]
    exact h
  · refine h.of_job htakes.tally htakes.underway htakes.arrivals ?_
    intro k
    simp only [entries, htakes.arrivals, htakes.drained, htakes.pooled, List.countP_append,
      List.countP_singleton, decide_eq_true_eq]
    omega

theorem startPooled (h : Tallied s) (place : Nat) :
    Tallied (s.mapEngine fun e => e.startPooled place) := by
  rcases s.engine.startPooled_cases place with hsame | ⟨j, ended, hstarts⟩
  · simpa only [mapEngine, hsame] using h
  · exact h.of_same hstarts.tally rfl rfl rfl rfl

theorem finish (h : Tallied s) (place : Nat) : Tallied (s.finish place) := by
  rcases s.engine.finishPooled_cases place with ⟨hnone, hsame⟩ | ⟨r, pool, hsome, hfinishes⟩
  · simpa [Traffic.finish, hnone, hsame] using h
  · have hpooled : (s.finish place).pooled = s.pooled ++ [(r.job, r.ended)] := by
      simp only [Traffic.finish, hsome]
    have hhistory : (s.finish place).arrivals = s.arrivals ∧
        (s.finish place).drained = s.drained := ⟨rfl, rfl⟩
    refine h.of_job hfinishes.tally rfl rfl ?_
    intro k
    simp only [entries, hhistory.1, hhistory.2, hpooled, List.countP_append,
      List.countP_singleton, decide_eq_true_eq]
    omega

theorem install (h : Tallied s) (t : Table σ) :
    Tallied (s.mapEngine fun e => (e.install t).2) := by
  obtain ⟨table, lines, hinstall⟩ := s.engine.exists_install_eq_note t
  refine h.of_same ?_ rfl rfl rfl rfl
  rw [mapEngine_engine, hinstall]
  rfl

/-- Whatever happens next, the counters say what the history says. -/
theorem lasts : Lasts (@Tallied σ) where
  note _ _ h := h.of_same rfl rfl rfl rfl rfl
  install _ t h := h.install t
  connect _ _ h := h.of_same rfl rfl rfl rfl rfl
  disconnect _ _ h := h.of_same rfl rfl rfl rfl rfl
  arrive _ phase ref env h := h.arrive phase ref env
  settle _ place h := h.settle place
  next _ h := h.next
  closeQueue _ h := h.of_same rfl rfl rfl rfl rfl
  closePool _ h := h.of_same rfl rfl rfl rfl rfl
  startPooled _ place h := h.startPooled place
  finish _ place h := h.finish place
  advance _ _ h := h.of_same rfl rfl rfl rfl rfl

/-- While no dispatch is under way a counter is what the history has for it. -/
theorem count_eq (h : Tallied s) (idle : s.underway = []) (k : Counter) :
    s.engine.scene.tally.count k = s.entries k := by
  have hcounts := h.counts k
  rwa [idle] at hcounts

theorem dropsOf_eq (h : Tallied s) (idle : s.underway = []) (id : Opcode) :
    s.engine.scene.tally.dropsOf id =
      s.arrivals.countP fun a => a.outcome.dropsFor a.envelope.opcode id := by
  have hdrops := h.drops id
  rwa [idle] at hdrops

/-- A counter of outcomes that is no counter of ends does not depend on the jobs. -/
theorem count_eq_countP (h : Tallied s) (idle : s.underway = []) {k : Counter}
    (outcomes : ∀ ended : JobEnd HandlerError, k ≠ ended.counter) :
    s.engine.scene.tally.count k = s.arrivals.countP fun a => a.outcome.moves k := by
  rw [h.count_eq idle, s.entries_eq_countP outcomes]

theorem received_eq (h : Tallied s) (idle : s.underway = []) :
    s.engine.scene.tally.received = s.arrivals.length := by
  have hcount := h.count_eq_countP idle (k := .received) (fun ended => by cases ended <;> nofun)
  refine hcount.trans (List.countP_eq_length.mpr fun a _ => ?_)
  simp [Outcome.moves]

theorem scheduled_eq (h : Tallied s) (idle : s.underway = []) :
    s.engine.scene.tally.scheduled =
      s.arrivals.countP fun a => a.outcome.counter = .scheduled := by
  have hcount := h.count_eq_countP idle (k := .scheduled) (fun ended => by cases ended <;> nofun)
  refine hcount.trans (List.countP_congr fun a _ => ?_)
  simp [Outcome.moves, eq_comm]

theorem ignored_eq (h : Tallied s) (idle : s.underway = []) :
    s.engine.scene.tally.ignored =
      s.arrivals.countP fun a => a.outcome.counter = .ignored := by
  have hcount := h.count_eq_countP idle (k := .ignored) (fun ended => by cases ended <;> nofun)
  refine hcount.trans (List.countP_congr fun a _ => ?_)
  simp [Outcome.moves, eq_comm]

/-- The drops of all reasons are the arrivals that were dropped. -/
theorem dropped_eq (h : Tallied s) (idle : s.underway = []) :
    s.engine.scene.tally.dropped = s.arrivals.countP fun a => a.outcome.isDropped := by
  rw [Outcome.countP_isDropped s.arrivals Arrival.outcome,
    ← h.count_eq_countP idle (fun ended => by cases ended <;> nofun),
    ← h.count_eq_countP idle (fun ended => by cases ended <;> nofun),
    ← h.count_eq_countP idle (fun ended => by cases ended <;> nofun),
    ← h.count_eq_countP idle (fun ended => by cases ended <;> nofun)]
  rfl

end Tallied
end Traffic

/-! ## What the calls say -/

/-- The counter for a call with a result, wherever it ran. -/
def Counter.ofResult (result : Except HandlerError Unit) : Counter :=
  (JobEnd.ofResult result).counter

/-- The counters of calls that return and of calls that fail. -/
def Counter.ofCalls (k : Counter) : Prop :=
  k = .completed ∨ k = .handlerFailures

theorem Job.countP_callsMade {σ : Type} {k : Counter} (hk : k.ofCalls) (j : Job σ) (lane : Lane)
    (ended : JobEnd HandlerError) :
    ((j.callsMade lane ended).countP fun c => k = .ofResult c.result) =
      if k = ended.counter then 1 else 0 := by
  rcases hk with rfl | rfl <;> cases ended <;> rfl

/-- A message moves the counter of calls that its call moves, if it made one where it arrived. -/
theorem Outcome.moves_of_ofCalls {k : Counter} (hk : k.ofCalls) (outcome : Outcome) :
    outcome.moves k = (outcome.ended?.map fun ended => decide (k = ended.counter)).getD false := by
  cases outcome with
  | dropped reason => cases reason <;> rcases hk with rfl | rfl <;> rfl
  | completed | scheduled lane | ignored | handlerFailed error => rcases hk with rfl | rfl <;> rfl

theorem Arrival.countP_callsMade {σ : Type} {k : Counter} (hk : k.ofCalls) {t : Table σ}
    {a : Arrival} (prepared : a.Prepared t) :
    ((a.callsMade t).countP fun c => k = .ofResult c.result) =
      if a.outcome.moves k then 1 else 0 := by
  rw [a.outcome.moves_of_ofCalls hk]
  cases hended : a.outcome.ended? with
  | none => simp [callsMade, endings, hended]
  | some ended =>
      have haccepted : a.outcome.isRejected = false := by
        cases houtcome : a.outcome <;>
          simp [houtcome, Outcome.ended?, Outcome.isRejected] at hended ⊢
      obtain ⟨j, hj⟩ := prepared.job haccepted
      have hcalls : a.callsMade t = j.callsMade .inPlace ended := by
        simp [callsMade, endings, hj, hended]
      rw [hcalls, j.countP_callsMade hk]
      simp

namespace Traffic

variable {σ : Type} {t : Table σ} {s : Traffic σ} {k : Counter}

/-- A list has as many entries of a kind as the lists that its items stand for, when each item
stands for one entry of the kind or for none. -/
theorem countP_flatMap_eq {α β : Type} {items : List α} {entries : α → List β} {kind : β → Bool}
    {counted : α → Bool}
    (h : ∀ a ∈ items, (entries a).countP kind = if counted a then 1 else 0) :
    (items.flatMap entries).countP kind = items.countP counted := by
  induction items with
  | nil => rfl
  | cons a rest ih =>
      have hrest := ih fun b hb => h b (List.mem_cons_of_mem a hb)
      rw [List.flatMap_cons, List.countP_append, List.countP_cons, hrest,
        h a List.mem_cons_self, Nat.add_comm]

/-- Every call was made in one of the three lanes. -/
theorem countP_calls (s : Traffic σ) (kind : CallRecord σ → Bool) :
    s.engine.scene.calls.countP kind =
      (s.callsIn .inPlace).countP kind + ((s.callsIn .world).countP kind +
        (s.callsIn .pool).countP kind) := by
  unfold callsIn
  induction s.engine.scene.calls with
  | nil => rfl
  | cons c rest ih =>
      cases hlane : c.lane <;> simp [hlane, List.countP_cons, ih] <;> omega

/-- While no pool job is on a thread, the history has an entry in a counter of calls for each call
that was made with such a result. -/
theorem entries_eq_countP_calls (ledger : Ledger t s) (hk : k.ofCalls)
    (ended : s.engine.pool.running = []) :
    s.entries k = s.engine.scene.calls.countP fun c => k = .ofResult c.result := by
  have hinPlace : ((s.callsIn .inPlace).countP fun c => k = .ofResult c.result) =
      s.arrivals.countP fun a => a.outcome.moves k := by
    rw [ledger.inPlaceCalls]
    exact countP_flatMap_eq fun a ha => Arrival.countP_callsMade hk (ledger.prepared a ha)
  have hworld : ((s.callsIn .world).countP fun c => k = .ofResult c.result) =
      s.drained.countP fun p => k = p.2.counter := by
    rw [ledger.worldCalls]
    refine countP_flatMap_eq fun p _ => ?_
    simpa using p.1.countP_callsMade hk .world p.2
  have hpool : ((s.callsIn .pool).countP fun c => k = .ofResult c.result) =
      s.pooled.countP fun p => k = p.2.counter := by
    have hstarted : s.started = s.pooled := by
      rw [started, ended, List.map_nil, List.append_nil]
    rw [ledger.poolCalls.countP_eq, hstarted]
    refine countP_flatMap_eq fun p _ => ?_
    simpa using p.1.countP_callsMade hk .pool p.2
  rw [s.countP_calls, hinPlace, hworld, hpool, entries]

end Traffic
end PacketDispatch
