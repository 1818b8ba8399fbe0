import PacketDispatch.Proofs.Schedule.Passing
import PacketDispatch.Schedule.Ticking

/-!
# Outstanding work

A world loop settles by ticks that follow each other while jobs wait.  When no job pushes another, the
work to do is what waits at the start.  Each tick then runs as many jobs as its budget allows and at
least one, so how many ticks there are is known before the first of them, and the totals grow by what
the jobs came to.  Only a job that breaks out stops the ticks earlier.
-/

namespace PacketDispatch

variable {J S ε : Type}

namespace JobRunner

/-- A job pushes nothing: it leaves the queue as it finds it. -/
def PushesNothing (run : JobRunner J S ε) (job : J) : Prop :=
  ∀ q s, (run job q s).queue = q

/-- A job comes to an end and does not break out, whatever it finds. -/
def Returns (run : JobRunner J S ε) (job : J) : Prop :=
  ∀ q s, ∃ e, (run job q s).ended = .ok e

end JobRunner

/-! ## What becomes of the jobs that wait -/

/-- Of the jobs that waited in a queue the first ones ran to their ends; then one may have broken out,
and the others still wait in their order. -/
structure Accounts (run : JobRunner J S ε) (q : WorldQueue J) (ran : List (J × JobEnd ε))
    (broken : Option String) (q' : WorldQueue J) : Prop where
  sized : q'.capacity = q.capacity
  isOpen : q'.isOpen = q.isOpen
  whole : broken = none → ran.map Prod.fst ++ q'.pending = q.pending
  short : ∀ reason, broken = some reason →
    ∃ job, ¬run.Returns job ∧ ran.map Prod.fst ++ job :: q'.pending = q.pending

namespace Accounts

variable {run : JobRunner J S ε} {q q' q'' : WorldQueue J} {ran ran' : List (J × JobEnd ε)}
  {broken : Option String} {job : J} {rest : List J}

theorem nothing (run : JobRunner J S ε) (q : WorldQueue J) : Accounts run q [] none q where
  sized := rfl
  isOpen := rfl
  whole _ := rfl
  short _ h := nomatch h

/-- The first job runs to its end. -/
theorem first (h : q.pending = job :: rest) (e : JobEnd ε) :
    Accounts run q [(job, e)] none { q with pending := rest } where
  sized := rfl
  isOpen := rfl
  whole _ := h.symm
  short _ h := nomatch h

/-- The first job breaks out. -/
theorem breaks (h : q.pending = job :: rest) (hjob : ¬run.Returns job) (reason : String) :
    Accounts run q [] (some reason) { q with pending := rest } where
  sized := rfl
  isOpen := rfl
  whole h := nomatch h
  short _ _ := ⟨job, hjob, h.symm⟩

theorem trans (h : Accounts run q ran none q') (h' : Accounts run q' ran' broken q'') :
    Accounts run q (ran ++ ran') broken q'' where
  sized := h'.sized.trans h.sized
  isOpen := h'.isOpen.trans h.isOpen
  whole hbroken := by
    rw [List.map_append, List.append_assoc, h'.whole hbroken, h.whole rfl]
  short reason hbroken := by
    obtain ⟨last, hlast, hsplit⟩ := h'.short reason hbroken
    refine ⟨last, hlast, ?_⟩
    rw [List.map_append, List.append_assoc, hsplit, h.whole rfl]

/-- What still waits when nothing has broken out was waiting before. -/
theorem pending_subset (h : Accounts run q ran none q') : q'.pending ⊆ q.pending := by
  intro job hjob
  rw [← h.whole rfl]
  exact List.mem_append_right _ hjob

theorem size_eq (h : Accounts run q ran none q') : ran.length + q'.size = q.size := by
  have hlength := congrArg List.length (h.whole rfl)
  rwa [List.length_append, List.length_map] at hlength

/-- Nothing changes about the queue but the jobs that wait. -/
theorem queue_eq {waiting : List J} (h : Accounts run q ran broken q')
    (hwaiting : q'.pending = waiting) : q' = { q with pending := waiting } := by
  rw [← hwaiting, ← h.sized, ← h.isOpen]

/-- When so many jobs have run as could run, they are the first ones. -/
theorem map_fst_eq_take {limit : Nat} (h : Accounts run q ran none q')
    (full : ran.length = min limit q.size) : ran.map Prod.fst = q.pending.take limit := by
  have hlength : (ran.map Prod.fst).length = min limit q.pending.length := by
    rw [List.length_map]
    exact full
  rw [List.take_eq_take_min, ← hlength, ← h.whole rfl, List.take_left]

theorem queue_eq_drop {limit : Nat} (h : Accounts run q ran none q')
    (full : ran.length = min limit q.size) : q' = { q with pending := q.pending.drop limit } := by
  have hsplit : q.pending.take limit ++ q'.pending = q.pending :=
    h.map_fst_eq_take full ▸ h.whole rfl
  apply h.queue_eq
  exact List.append_cancel_left (hsplit.trans (List.take_append_drop limit q.pending).symm)

theorem broken_eq_none (h : Accounts run q ran broken q')
    (returns : ∀ job ∈ q.pending, run.Returns job) : broken = none := by
  rw [Option.eq_none_iff_forall_ne_some]
  intro reason hbroken
  obtain ⟨job, hjob, hsplit⟩ := h.short reason hbroken
  apply hjob
  apply returns
  rw [← hsplit]
  exact List.mem_append_right _ List.mem_cons_self

end Accounts

/-! ## Passes -/

namespace WorldQueue

/-- A pass serves a queue: it takes jobs from the front and runs them one after another, each on what
the one before it left, until it stops or one of them breaks out. -/
inductive Serves (run : JobRunner J S ε) : WorldQueue J → S → Pass J S ε → Prop
  | stops (q : WorldQueue J) (s : S) : Serves run q s ⟨q, s, [], none⟩
  | breaks {q q' : WorldQueue J} {s s' : S} {job : J} {rest : List J} {reason : String}
      (first : q.pending = job :: rest)
      (broke : run job { q with pending := rest } s = ⟨q', s', .error reason⟩) :
      Serves run q s ⟨q', s', [], some reason⟩
  | ends {q q' : WorldQueue J} {s s' : S} {job : J} {rest : List J} {e : JobEnd ε}
      {p : Pass J S ε} (first : q.pending = job :: rest)
      (ended : run job { q with pending := rest } s = ⟨q', s', .ok e⟩)
      (others : Serves run q' s' p) :
      Serves run q s { p with ran := (job, e) :: p.ran }

variable {run : JobRunner J S ε} {q q' : WorldQueue J} {s s' : S} {p : Pass J S ε} {job : J}
  {rest : List J}

theorem isEmpty_iff : q.isEmpty = true ↔ q.pending = [] :=
  List.isEmpty_iff

/-- A part of a pass starts with the job in front. -/
theorem runUpTo_succ_of_pending_cons (limit : Nat) (s : S) (h : q.pending = job :: rest) :
    q.runUpTo run (limit + 1) s =
      let r := run job { q with pending := rest } s
      match r.ended with
      | .error reason => ⟨r.queue, r.state, [], some reason⟩
      | .ok e =>
        let p := r.queue.runUpTo run limit r.state
        { p with ran := (job, e) :: p.ran } := by
  have hpop : q.pop? = some (job, { q with pending := rest }) := by simp only [pop?, h]
  rcases hrun : run job { q with pending := rest } s with ⟨q', s', reason | e⟩
  · simp only [runUpTo, hpop, hrun]
  · simp only [runUpTo, hpop, hrun]

theorem serves_runUpTo (run : JobRunner J S ε) (limit : Nat) (q : WorldQueue J) (s : S) :
    q.Serves run s (q.runUpTo run limit s) := by
  induction limit generalizing q s with
  | zero => exact .stops q s
  | succ limit ih =>
      rcases hpending : q.pending with _ | ⟨job, rest⟩
      · rw [runUpTo_of_pending_nil run _ s hpending]
        exact .stops q s
      · rw [runUpTo_succ_of_pending_cons limit s hpending]
        rcases hrun : run job { q with pending := rest } s with ⟨q', s', reason | e⟩
        · exact .breaks hpending hrun
        · exact .ends hpending hrun (ih q' s')

/-- The queue that a job leaves which pushes nothing. -/
theorem queue_of_pushesNothing {ended : Except String (JobEnd ε)}
    (alone : run.PushesNothing job) (h : run job q s = ⟨q', s', ended⟩) : q' = q := by
  have hqueue := alone q s
  rwa [h] at hqueue

theorem not_returns_of_error {reason : String} (h : run job q s = ⟨q', s', .error reason⟩) :
    ¬run.Returns job := by
  intro hreturns
  obtain ⟨e, he⟩ := hreturns q s
  rw [h] at he
  cases he

theorem Serves.accounts (h : q.Serves run s p)
    (alone : ∀ job ∈ q.pending, run.PushesNothing job) :
    Accounts run q p.ran p.broken p.queue := by
  induction h with
  | stops q s => exact .nothing run q
  | breaks hfirst hbroke =>
      have hjob := alone _ (hfirst ▸ List.mem_cons_self)
      obtain rfl := queue_of_pushesNothing hjob hbroke
      exact .breaks hfirst (not_returns_of_error hbroke) _
  | ends hfirst hended _ ih =>
      have hjob := alone _ (hfirst ▸ List.mem_cons_self)
      obtain rfl := queue_of_pushesNothing hjob hended
      have hrest := ih fun job hmem => alone job (hfirst ▸ List.mem_cons_of_mem _ hmem)
      exact (Accounts.first hfirst _).trans hrest

/-- A pass that nothing breaks out of ends when its limit is reached or no job waits. -/
theorem length_ran_runUpTo (limit : Nat) (s : S)
    (alone : ∀ job ∈ q.pending, run.PushesNothing job)
    (whole : (q.runUpTo run limit s).broken = none) :
    (q.runUpTo run limit s).ran.length = min limit q.size := by
  induction limit generalizing q s with
  | zero => exact (Nat.zero_min _).symm
  | succ limit ih =>
      rcases hpending : q.pending with _ | ⟨job, rest⟩
      · rw [runUpTo_of_pending_nil run _ s hpending, size, hpending]
        rfl
      · rw [runUpTo_succ_of_pending_cons limit s hpending] at whole ⊢
        have hjob := alone job (hpending ▸ List.mem_cons_self)
        rcases hrun : run job { q with pending := rest } s with ⟨q', s', reason | e⟩
        · rw [hrun] at whole
          cases whole
        · obtain rfl := queue_of_pushesNothing hjob hrun
          rw [hrun] at whole
          have hrest := ih s' (fun j hmem => alone j (hpending ▸ List.mem_cons_of_mem _ hmem)) whole
          have hsize : q.size = rest.length + 1 := congrArg List.length hpending
          rw [hsize, Nat.add_min_add_right]
          exact congrArg Nat.succ hrest

end WorldQueue

/-! ## Totals -/

namespace LoopReport

/-- The totals after some more ticks in which some jobs ran. -/
def plus (r : LoopReport) (ticks : Nat) (ran : List (J × JobEnd ε)) : LoopReport :=
  ⟨r.ticks + ticks, r.executed + ran.length, r.failed + ran.countP (·.2.isFailed),
    r.sessionsGone + ran.countP (·.2.isGone)⟩

theorem absorb_report (r : LoopReport) (p : Pass J S ε) : r.absorb p.report = r.plus 1 p.ran := rfl

theorem plus_plus (r : LoopReport) (m n : Nat) (ran ran' : List (J × JobEnd ε)) :
    (r.plus m ran).plus n ran' = r.plus (m + n) (ran ++ ran') := by
  simp only [plus, List.length_append, List.countP_append, Nat.add_assoc]

end LoopReport

/-- How many ticks it takes until no job waits: none when none waits, one without a budget, and else
as many as the budget goes into the number of jobs, rounded up. -/
def ticksFor (budget waiting : Nat) : Nat :=
  if waiting = 0 then 0 else if budget = 0 then 1 else (waiting + budget - 1) / budget

/-- The first tick runs as many jobs as it may. -/
theorem ticksFor_eq_succ {waiting : Nat} (budget : Nat) (h : 0 < waiting) :
    ticksFor budget waiting =
      ticksFor budget (waiting - if budget = 0 then waiting else budget) + 1 := by
  have hwaiting : waiting ≠ 0 := Nat.ne_of_gt h
  rcases Nat.eq_zero_or_pos budget with rfl | hbudget
  · rw [if_pos rfl, Nat.sub_self, ticksFor, if_neg hwaiting, if_pos rfl, ticksFor, if_pos rfl]
  · have hbudget' : budget ≠ 0 := Nat.ne_of_gt hbudget
    rw [if_neg hbudget', ticksFor, if_neg hwaiting, if_neg hbudget']
    rcases Nat.lt_or_ge budget waiting with hmore | hlast
    · have hrest : 0 < waiting - budget := Nat.sub_pos_of_lt hmore
      have hsplit : waiting + budget - 1 = waiting - budget + budget - 1 + budget := by omega
      rw [ticksFor, if_neg (Nat.ne_of_gt hrest), if_neg hbudget', hsplit,
        Nat.add_div_right _ hbudget]
    · have hnone : waiting - budget = 0 := Nat.sub_eq_zero_of_le hlast
      rw [hnone, ticksFor, if_pos rfl]
      apply Nat.div_eq_of_lt_le
      · omega
      · omega

/-! ## Ticks that follow each other -/

namespace WorldLoop

variable {run : JobRunner J S ε} {note : List Line → S → S} {l : WorldLoop J S}

/-- The loop after a tick with a pass that nothing broke out of. -/
def after (note : List Line → S → S) (l : WorldLoop J S) (p : Pass J S ε) : WorldLoop J S :=
  let report := l.report.absorb p.report
  ⟨l.budget, report, p.queue,
    note (p.report.budgetLines l.budget ++ report.tickLines p.report) p.state⟩

theorem tick_of_whole {p : Pass J S ε} (h : l.queue.pass run l.budget l.state = p)
    (whole : p.broken = none) : l.tick run note = ⟨l.after note p, .ok p.report⟩ := by
  simp only [tick, h, whole, after]

theorem tick_of_broken {p : Pass J S ε} {reason : String}
    (h : l.queue.pass run l.budget l.state = p) (broken : p.broken = some reason) :
    l.tick run note = ⟨{ l with queue := p.queue, state := p.state }, .error reason⟩ := by
  simp only [tick, h, broken]

/-- A loop whose jobs push nothing settles: while jobs wait, a pass serves as many of them as the
budget allows, is added to the totals, and its lines are written.  A job that breaks out is the end
of it. -/
inductive Settles (run : JobRunner J S ε) (note : List Line → S → S) :
    WorldLoop J S → List (Pass J S ε) → WorldLoop J S × Option String → Prop
  | rests {l : WorldLoop J S} (idle : l.queue.pending = []) : Settles run note l [] (l, none)
  | ticks {l : WorldLoop J S} {p : Pass J S ε} {passes : List (Pass J S ε)}
      {r : WorldLoop J S × Option String} (waits : l.queue.pending ≠ [])
      (serves : l.queue.Serves run l.state p) (whole : p.broken = none)
      (full : p.ran.length = min (WorldQueue.passLimit l.budget l.queue) l.queue.size)
      (others : Settles run note (l.after note p) passes r) :
      Settles run note l (p :: passes) r
  | breaks {l : WorldLoop J S} {p : Pass J S ε} {reason : String} (waits : l.queue.pending ≠ [])
      (serves : l.queue.Serves run l.state p) (broken : p.broken = some reason) :
      Settles run note l [p] ({ l with queue := p.queue, state := p.state }, some reason)

theorem settle_of_idle (h : l.queue.pending = []) (fuel : Nat) :
    l.settle run note fuel = (l, none) := by
  cases fuel with
  | zero => rfl
  | succ fuel => rw [settle, if_pos (WorldQueue.isEmpty_iff.mpr h)]

theorem settle_succ_of_whole {p : Pass J S ε} (waits : l.queue.pending ≠ [])
    (h : l.queue.pass run l.budget l.state = p) (whole : p.broken = none) (fuel : Nat) :
    l.settle run note (fuel + 1) = (l.after note p).settle run note fuel := by
  rw [settle, if_neg fun hempty => waits (WorldQueue.isEmpty_iff.mp hempty)]
  simp only [tick_of_whole h whole]

theorem settle_succ_of_broken {p : Pass J S ε} {reason : String} (waits : l.queue.pending ≠ [])
    (h : l.queue.pass run l.budget l.state = p) (broken : p.broken = some reason) (fuel : Nat) :
    l.settle run note (fuel + 1) =
      ({ l with queue := p.queue, state := p.state }, some reason) := by
  rw [settle, if_neg fun hempty => waits (WorldQueue.isEmpty_iff.mp hempty)]
  simp only [tick_of_broken h broken]

/-- A loop whose jobs push nothing settles, in no more ticks than there are jobs. -/
theorem exists_settles (note : List Line → S → S) (bound : Nat) (hbound : l.queue.size ≤ bound)
    (alone : ∀ job ∈ l.queue.pending, run.PushesNothing job) :
    ∃ passes r, l.Settles run note passes r ∧ passes.length ≤ bound ∧
      ∀ fuel, passes.length ≤ fuel → l.settle run note fuel = r := by
  induction bound generalizing l with
  | zero =>
      have hidle : l.queue.pending = [] := List.eq_nil_of_length_eq_zero (Nat.le_zero.mp hbound)
      exact ⟨[], (l, none), .rests hidle, Nat.le_refl 0, fun fuel _ => settle_of_idle hidle fuel⟩
  | succ bound ih =>
      by_cases hidle : l.queue.pending = []
      · exact ⟨[], (l, none), .rests hidle, Nat.zero_le _, fun fuel _ => settle_of_idle hidle fuel⟩
      · obtain ⟨p, hp⟩ : ∃ p, l.queue.pass run l.budget l.state = p := ⟨_, rfl⟩
        have hserves : l.queue.Serves run l.state p :=
          hp ▸ WorldQueue.serves_runUpTo run _ l.queue l.state
        have haccounts := hserves.accounts alone
        cases hbroken : p.broken with
        | some reason =>
            refine ⟨[p], _, .breaks hidle hserves hbroken, Nat.succ_le_succ (Nat.zero_le _), ?_⟩
            intro fuel hfuel
            obtain ⟨rest, rfl⟩ := Nat.exists_eq_add_of_le' hfuel
            exact settle_succ_of_broken hidle hp hbroken rest
        | none =>
            have hfull : p.ran.length =
                min (WorldQueue.passLimit l.budget l.queue) l.queue.size := by
              subst hp
              exact WorldQueue.length_ran_runUpTo _ l.state alone hbroken
            rw [hbroken] at haccounts
            -- The bound goes down because a pass over a queue with jobs runs one of them at least.
            have hless : (l.after note p).queue.size ≤ bound := by
              obtain ⟨limit, hlimit⟩ := WorldQueue.exists_passLimit_eq_succ l.budget hidle
              have hwaiting : 0 < l.queue.size := List.length_pos_iff.mpr hidle
              have hsize := haccounts.size_eq
              change p.queue.size ≤ bound
              omega
            obtain ⟨passes, r, hsettles, hlength, hfuel⟩ :=
              ih hless fun job hjob => alone job (haccounts.pending_subset hjob)
            refine ⟨p :: passes, r, .ticks hidle hserves hbroken hfull hsettles,
              Nat.succ_le_succ hlength, ?_⟩
            intro fuel henough
            obtain ⟨rest, rfl⟩ := Nat.exists_eq_add_of_le' henough
            rw [List.length_cons, ← Nat.add_assoc, settle_succ_of_whole hidle hp hbroken]
            exact hfuel _ (Nat.le_add_left _ _)

namespace Settles

variable {passes : List (Pass J S ε)} {r : WorldLoop J S × Option String}

/-- What becomes of the jobs that wait when a loop settles. -/
theorem accounts (h : l.Settles run note passes r)
    (alone : ∀ job ∈ l.queue.pending, run.PushesNothing job) :
    Accounts run l.queue (passes.flatMap Pass.ran) r.2 r.1.queue := by
  induction h with
  | rests _ => exact .nothing run _
  | @ticks l p passes r _ hserves hwhole _ _ ih =>
      have hpass := hserves.accounts alone
      rw [hwhole] at hpass
      rw [List.flatMap_cons]
      exact hpass.trans (ih fun job hjob => alone job (hpass.pending_subset hjob))
  | @breaks l p reason _ hserves hbroken =>
      rw [List.flatMap_cons, List.flatMap_nil, List.append_nil, ← hbroken]
      exact hserves.accounts alone

theorem pending_eq_nil (h : l.Settles run note passes r) (settled : r.2 = none) :
    r.1.queue.pending = [] := by
  induction h with
  | rests hidle => exact hidle
  | ticks _ _ _ _ _ ih => exact ih settled
  | breaks _ _ _ => cases settled

/-- Every tick adds itself and its jobs to the totals. -/
theorem report_eq (h : l.Settles run note passes r) (settled : r.2 = none) :
    r.1.report = l.report.plus passes.length (passes.flatMap Pass.ran) := by
  induction h with
  | rests _ => rfl
  | @ticks l p passes r _ _ _ _ _ ih =>
      have hreport : (l.after note p).report = l.report.plus 1 p.ran := l.report.absorb_report p
      rw [ih settled, hreport, LoopReport.plus_plus, List.flatMap_cons, List.length_cons,
        Nat.add_comm 1]
  | breaks _ _ _ => cases settled

theorem length_eq (h : l.Settles run note passes r)
    (alone : ∀ job ∈ l.queue.pending, run.PushesNothing job) (settled : r.2 = none) :
    passes.length = ticksFor l.budget l.queue.size := by
  induction h with
  | @rests l hidle => rw [WorldQueue.size, hidle]; rfl
  | @ticks l p passes r hwaits hserves hwhole hfull _ ih =>
      have hpass := hserves.accounts alone
      rw [hwhole] at hpass
      have hrest := ih (fun job hjob => alone job (hpass.pending_subset hjob)) settled
      have hsize : (l.after note p).queue.size =
          l.queue.size - WorldQueue.passLimit l.budget l.queue := by
        have hsum := hpass.size_eq
        change p.queue.size = _
        omega
      have hwaiting : 0 < l.queue.size := List.length_pos_iff.mpr hwaits
      calc
        passes.length + 1 =
            ticksFor l.budget (l.queue.size - WorldQueue.passLimit l.budget l.queue) + 1 := by
          rw [hrest, hsize]
          rfl
        _ = ticksFor l.budget l.queue.size := (ticksFor_eq_succ l.budget hwaiting).symm
  | breaks _ _ _ => cases settled

end Settles

/-- The work of a loop is done: the jobs that waited have run in their order, none of them waits, it
took the ticks that it had to take, and the totals have grown by the ticks, the jobs, and the jobs that
failed or were discarded. -/
structure Clears (l : WorldLoop J S) (passes : List (Pass J S ε)) (l' : WorldLoop J S) : Prop where
  queue : l'.queue = { l.queue with pending := [] }
  order : (passes.flatMap Pass.ran).map Prod.fst = l.queue.pending
  ticks : passes.length = ticksFor l.budget l.queue.pending.length
  report : l'.report =
    ⟨l.report.ticks + passes.length, l.report.executed + l.queue.pending.length,
      l.report.failed + (passes.flatMap Pass.ran).countP (·.2.isFailed),
      l.report.sessionsGone + (passes.flatMap Pass.ran).countP (·.2.isGone)⟩

/-- A loop that settles without a job that breaks out has done its work. -/
theorem Settles.clears {passes : List (Pass J S ε)} {l' : WorldLoop J S}
    (h : l.Settles run note passes (l', none))
    (alone : ∀ job ∈ l.queue.pending, run.PushesNothing job) : l.Clears passes l' := by
  have haccounts : Accounts run l.queue (passes.flatMap Pass.ran) none l'.queue :=
    h.accounts alone
  have hempty : l'.queue.pending = [] := h.pending_eq_nil rfl
  have horder : (passes.flatMap Pass.ran).map Prod.fst = l.queue.pending := by
    have hwhole := haccounts.whole rfl
    rwa [hempty, List.append_nil] at hwhole
  have hran : (passes.flatMap Pass.ran).length = l.queue.pending.length := by
    rw [← horder, List.length_map]
  refine ⟨haccounts.queue_eq hempty, horder, h.length_eq alone rfl, ?_⟩
  rw [h.report_eq rfl, LoopReport.plus, hran]

end WorldLoop
end PacketDispatch
