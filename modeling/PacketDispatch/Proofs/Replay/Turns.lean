import PacketDispatch.Proofs.Replay.Forecast
import PacketDispatch.Proofs.World.Turns

/-!
# Logins and logouts follow their history

Whether a login or a logout of a replayed session succeeds can be told from the logins and logouts of
that session before it: from the last one that succeeded.  Neither the clock nor the grace window nor
the phases that were recorded have a part in it.
-/

namespace PacketDispatch
namespace Replay

open WorldSession

/-! ## Turns -/

/-- The call of an exchange returned. -/
def Exchange.succeeded (x : Exchange) : Bool :=
  x.results.any fun result => result.isOk

/-- The call of an exchange failed. -/
def Exchange.failed (x : Exchange) : Bool :=
  x.results.any fun result => !result.isOk

/-- The opcode of an exchange. -/
def Exchange.opcode (x : Exchange) : Opcode :=
  x.dispatched.record.opcode

/-- A login or a logout that was scheduled. -/
def Exchange.isTurn (x : Exchange) : Bool :=
  (x.opcode = loginOpcode ∨ x.opcode = logoutOpcode) ∧ x.dispatched.outcome.isScheduled = true

theorem Exchange.isTurn_iff {x : Exchange} :
    x.isTurn = true ↔ (x.opcode = loginOpcode ∨ x.opcode = logoutOpcode) ∧
      x.dispatched.outcome.isScheduled = true :=
  decide_eq_true_iff

theorem Exchange.not_isTurn_of_isRejected {x : Exchange}
    (h : x.dispatched.outcome.isRejected = true) : ¬x.isTurn = true := by
  rw [isTurn_iff]
  rintro ⟨-, hscheduled⟩
  cases hout : x.dispatched.outcome <;>
    simp [hout, Outcome.isRejected, Outcome.isScheduled] at h hscheduled

/-- The logins and logouts of a session that were scheduled, in the order of their records. -/
def turnsOf (number : UInt32) (said : List Exchange) : List Exchange :=
  said.filter fun x => x.session = number ∧ x.isTurn = true

/-- The latest of some turns that succeeded. -/
def lastSuccess (turns : List Exchange) : Option Exchange :=
  (turns.filter Exchange.succeeded).getLast?

theorem turnsOf_concat (number : UInt32) (said : List Exchange) (x : Exchange) :
    turnsOf number (said ++ [x]) =
      turnsOf number said ++ if x.session = number ∧ x.isTurn = true then [x] else [] := by
  rw [turnsOf, List.filter_append, turnsOf, List.filter_singleton]
  exact congrArg _ (Bool.cond_decide ..)

theorem lastSuccess_concat (turns : List Exchange) (x : Exchange) :
    lastSuccess (turns ++ [x]) = if x.succeeded then some x else lastSuccess turns := by
  by_cases h : x.succeeded <;> simp [lastSuccess, h]

/-- One call was made for a turn, and whether it failed goes by the latest turn before it that
succeeded: a login fails after a login, and a logout fails after a logout or when there is none. -/
structure Follows (earlier : List Exchange) (x : Exchange) : Prop where
  called : ∃ result, x.results = [result]
  login : x.opcode = loginOpcode →
    (x.failed = true ↔ ∃ y, lastSuccess earlier = some y ∧ y.opcode = loginOpcode)
  logout : x.opcode = logoutOpcode →
    (x.failed = true ↔ lastSuccess earlier = none ∨
      ∃ y, lastSuccess earlier = some y ∧ y.opcode = logoutOpcode)

/-- Each of some turns goes by those before it. -/
def FollowHistory (turns : List Exchange) : Prop :=
  ∀ earlier x later, turns = earlier ++ x :: later → Follows earlier x

theorem followHistory_concat {turns : List Exchange} {x : Exchange} (h : FollowHistory turns)
    (last : Follows turns x) : FollowHistory (turns ++ [x]) := by
  intro earlier y later hsplit
  rcases List.eq_nil_or_concat later with rfl | ⟨init, z, rfl⟩
  · obtain ⟨rfl, hlast⟩ := List.append_inj' hsplit rfl
    obtain rfl := List.singleton_inj.mp hlast
    exact last
  · rw [List.concat_eq_append, ← List.cons_append, ← List.append_assoc] at hsplit
    obtain ⟨hinit, -⟩ := List.append_inj' hsplit rfl
    exact h earlier y init hinit

/-! ## The phase that turns leave -/

/-- The last phase that a session entered, when the latest turn that succeeded is known. -/
def phaseAfter : Option Exchange → Phase
  | none => .authed
  | some x => if x.opcode = loginOpcode then .loggedIn else .recentlyLoggedOut

/-- The turns of a session that entered a phase last: each goes by those before it, and the phase is
the one that the latest success leaves. -/
structure Leaves (turns : List Exchange) (phase : Phase) : Prop where
  follow : FollowHistory turns
  phase : phase = phaseAfter (lastSuccess turns)
  opcode : ∀ y, lastSuccess turns = some y → y.opcode = loginOpcode ∨ y.opcode = logoutOpcode

namespace Leaves

variable {turns : List Exchange} {phase : Phase} {x : Exchange} {c : Call WorldSession}
  {env : Envelope}

theorem start : Leaves [] .authed where
  follow := by
    intro earlier x later hsplit
    simp at hsplit
  phase := rfl
  opcode := nofun

theorem loggedIn_iff (h : Leaves turns phase) :
    phase = .loggedIn ↔ ∃ y, lastSuccess turns = some y ∧ y.opcode = loginOpcode := by
  rw [h.phase]
  cases lastSuccess turns with
  | none => simp [phaseAfter]
  | some y => by_cases hy : y.opcode = loginOpcode <;> simp [phaseAfter, hy]

theorem not_loggedIn_iff (h : Leaves turns phase) :
    phase ≠ .loggedIn ↔ lastSuccess turns = none ∨
      ∃ y, lastSuccess turns = some y ∧ y.opcode = logoutOpcode := by
  rw [ne_eq, h.loggedIn_iff]
  cases hlast : lastSuccess turns with
  | none => simp
  | some y =>
      have hdistinct : loginOpcode ≠ logoutOpcode := by decide
      rcases h.opcode y hlast with hy | hy <;> simp [hy, hdistinct, hdistinct.symm]

/-- A session is in the world, or it may enter it. -/
theorem phase_cases (h : Leaves turns phase) :
    phase = .loggedIn ∨ phase = .authed ∨ phase = .recentlyLoggedOut := by
  rw [h.phase]
  cases lastSuccess turns with
  | none => exact Or.inr (Or.inl rfl)
  | some y => by_cases hy : y.opcode = loginOpcode <;> simp [phaseAfter, hy]

/-- A login that was called fails for a session in the world, and else leaves it there. -/
theorem login (h : Leaves turns phase) (hopcode : x.opcode = loginOpcode)
    (hbody : c.body = onPlayerLogin env) (hresults : x.results = [c.resultIn phase]) :
    Leaves (turns ++ [x]) (c.phaseAfter phase) := by
  have hok := isOk_resultIn_login hbody phase
  have hsucceeded : x.succeeded = (c.resultIn phase).isOk := by
    simp [Exchange.succeeded, hresults]
  have hfailed : x.failed = true ↔ phase = .loggedIn := by
    simp only [Exchange.failed, hresults, List.any_cons, List.any_nil, Bool.or_false,
      Bool.not_eq_true', ← Bool.not_eq_true, hok]
    rcases h.phase_cases with rfl | rfl | rfl <;> simp
  have hfollows : Follows turns x := by
    refine ⟨⟨_, hresults⟩, fun _ => hfailed.trans h.loggedIn_iff, fun hlogout => ?_⟩
    exact absurd (hopcode.symm.trans hlogout) (by decide)
  refine ⟨followHistory_concat h.follow hfollows, ?_, ?_⟩
  · rw [phaseAfter_login hbody, lastSuccess_concat, hsucceeded]
    by_cases hsuccess : (c.resultIn phase).isOk = true
    · rw [if_pos hsuccess, if_pos hsuccess, phaseAfter, if_pos hopcode]
    · rw [if_neg hsuccess, if_neg hsuccess]
      exact h.phase
  · intro y hy
    rw [lastSuccess_concat] at hy
    split at hy
    · exact Option.some.inj hy ▸ Or.inl hopcode
    · exact h.opcode y hy

/-- A logout that was called fails for a session that is not in the world, and else takes it out. -/
theorem logout (h : Leaves turns phase) (hopcode : x.opcode = logoutOpcode)
    (hbody : c.body = onLogoutRequest env) (hresults : x.results = [c.resultIn phase]) :
    Leaves (turns ++ [x]) (c.phaseAfter phase) := by
  have hok := isOk_resultIn_logout hbody phase
  have hsucceeded : x.succeeded = (c.resultIn phase).isOk := by
    simp [Exchange.succeeded, hresults]
  have hfailed : x.failed = true ↔ phase ≠ .loggedIn := by
    simp only [Exchange.failed, hresults, List.any_cons, List.any_nil, Bool.or_false,
      Bool.not_eq_true', ← Bool.not_eq_true, hok]
    rcases h.phase_cases with rfl | rfl | rfl <;> simp
  have hlogin : x.opcode ≠ loginOpcode := by
    rw [hopcode]
    decide
  have hfollows : Follows turns x :=
    ⟨⟨_, hresults⟩, fun heq => absurd heq hlogin, fun _ => hfailed.trans h.not_loggedIn_iff⟩
  refine ⟨followHistory_concat h.follow hfollows, ?_, ?_⟩
  · rw [phaseAfter_logout hbody, lastSuccess_concat, hsucceeded]
    by_cases hsuccess : (c.resultIn phase).isOk = true
    · rw [if_pos hsuccess, if_pos hsuccess, phaseAfter, if_neg hlogin]
    · rw [if_neg hsuccess, if_neg hsuccess]
      exact h.phase
  · intro y hy
    rw [lastSuccess_concat] at hy
    split at hy
    · exact Option.some.inj hy ▸ Or.inr hopcode
    · exact h.opcode y hy

end Leaves

/-! ## Replays -/

/-- A message that is not rejected by its verdict becomes a call. -/
theorem exists_call_of_verdict {t : Table WorldSession} {passed entered : Phase} {env : Envelope}
    {room : Bool} (h : (t.verdict passed env entered room).isRejected = false) :
    ∃ d c, t.decide passed env = .call d c := by
  cases hdecide : t.decide passed env with
  | call d c => exact ⟨d, c, rfl⟩
  | stop outcome =>
      have hrejected := Table.isRejected_of_decide_eq_stop hdecide
      simp only [Table.verdict, hdecide, hrejected] at h
      cases h

/-- A call of a descriptor with a raw handler has the body of that handler. -/
theorem body_of_decide {t : Table WorldSession} {passed : Phase} {env : Envelope}
    {d found : Descriptor WorldSession} {c : Call WorldSession} {name : String}
    {body : Envelope → Body WorldSession} (hdecide : t.decide passed env = .call d c)
    (hlookup : t.lookup env.opcode = some found) (hhandler : found.handler = Handler.raw name body) :
    d = found ∧ c.body = body env := by
  obtain ⟨hfound, -, hprepare⟩ := Table.decide_eq_call_iff.mp hdecide
  obtain rfl : d = found := Option.some.inj (hfound.symm.trans hlookup)
  rw [hhandler] at hprepare
  exact ⟨rfl, congrArg Call.body (Except.ok.inj hprepare).symm⟩

/-- A message of an opcode that runs on the world thread is scheduled when it becomes a call. -/
theorem verdict_of_world {t : Table WorldSession} {passed entered : Phase} {env : Envelope}
    {room : Bool} {d : Descriptor WorldSession} {c : Call WorldSession}
    (hdecide : t.decide passed env = .call d c) (world : d.lane = .world) :
    t.verdict passed env entered room = .scheduled .world := by
  simp only [Table.verdict, hdecide, world]

/-- Whatever the next record of a session comes to, its turns follow their history. -/
theorem Leaves.answer {t : Table WorldSession} (takes : t.TakesTurns) {f : Forecast}
    {record : Record} {turns : List Exchange} (h : Leaves turns (f.entered record.session))
    {env : Envelope} (hopcode : env.opcode = record.opcode) (sequence : UInt64) :
    Leaves (turns ++ if (Exchange.of record sequence (f.answer t record env)).isTurn = true then
        [.of record sequence (f.answer t record env)] else [])
      (f.answer t record env).phase := by
  rw [Forecast.answer]
  generalize f.entered record.session = entered at h
  generalize f.gauge.hasRoom = room
  generalize hverdict : t.verdict record.phase env entered room = outcome
  cases hrejected : outcome.isRejected with
  | true =>
      rw [Table.answerTo_of_isRejected hrejected,
        if_neg (Exchange.not_isTurn_of_isRejected hrejected), List.append_nil]
      exact h
  | false =>
      obtain ⟨d, c, hdecide⟩ := exists_call_of_verdict (hverdict ▸ hrejected)
      rw [Table.answerTo_of_call hrejected hdecide]
      -- The two opcodes that stand for turns run on the world thread, so they are scheduled.
      by_cases hlogin : record.opcode = loginOpcode
      · obtain ⟨found, hlookup, world, hhandler⟩ := takes.login
        obtain ⟨rfl, hbody⟩ := body_of_decide hdecide (hopcode.trans hlogin ▸ hlookup) hhandler
        obtain rfl := hverdict.symm.trans (verdict_of_world hdecide world)
        have hturn : (Exchange.of record sequence
            ⟨.scheduled .world, [c.resultIn entered], c.phaseAfter entered⟩).isTurn = true :=
          Exchange.isTurn_iff.mpr ⟨Or.inl hlogin, rfl⟩
        rw [if_pos hturn]
        exact h.login hlogin hbody rfl
      · by_cases hlogout : record.opcode = logoutOpcode
        · obtain ⟨found, hlookup, world, hhandler⟩ := takes.logout
          obtain ⟨rfl, hbody⟩ := body_of_decide hdecide (hopcode.trans hlogout ▸ hlookup) hhandler
          obtain rfl := hverdict.symm.trans (verdict_of_world hdecide world)
          have hturn : (Exchange.of record sequence
              ⟨.scheduled .world, [c.resultIn entered], c.phaseAfter entered⟩).isTurn = true :=
            Exchange.isTurn_iff.mpr ⟨Or.inr hlogout, rfl⟩
          rw [if_pos hturn]
          exact h.logout hlogout hbody rfl
        · obtain ⟨hlookup, -, hprepare⟩ := Table.decide_eq_call_iff.mp hdecide
          have aloof := takes.others env.opcode d hlookup (hopcode ▸ hlogin) (hopcode ▸ hlogout)
            env c hprepare
          have hturn : ¬(Exchange.of record sequence
              ⟨outcome, [c.resultIn entered], c.phaseAfter entered⟩).isTurn = true := by
            rw [Exchange.isTurn_iff]
            rintro ⟨hturn | hturn, -⟩
            · exact hlogin hturn
            · exact hlogout hturn
          rw [if_neg hturn, List.append_nil]
          exact (Call.phaseAfter_of_aloof aloof entered).symm ▸ h

/-- In the forecast of a replay the turns of each session follow their history. -/
theorem leaves_forecast {t : Table WorldSession} (takes : t.TakesTurns) (permits : Nat)
    (timing : Timing) (records : List Record) (number : UInt32) :
    Leaves (turnsOf number (forecast t permits timing records).said)
      ((forecast t permits timing records).entered number) := by
  induction records using List.reverseRecOn with
  | nil => exact .start
  | append_singleton records record ih =>
      rw [forecast_concat, Forecast.read]
      generalize forecast t permits timing records = f at ih ⊢
      cases hpayload : Run.payload record with
      | error fault => exact ih
      | ok bytes =>
          dsimp only
          rw [turnsOf_concat, Exchange.session_of]
          by_cases hnumber : record.session = number
          · subst hnumber
            simp only [Function.update_self, true_and]
            exact ih.answer takes rfl _
          · rw [if_neg fun h => hnumber h.1, List.append_nil,
              Function.update_of_ne (Ne.symm hnumber)]
            exact ih

/-- Logins and logouts of a replay go by their history and never by the clock. Take any trace, any
settings that fit, and two timings with the same work of the pool, however the time passes in each,
with any two grace windows. Replayed on the production table with the handlers of the world, the
trace comes to its end in both; of the logins and logouts of a session that were scheduled, each is
called once, a login fails when the latest of them before it that succeeded is a login, a logout
fails when that is a logout or when there is none, and else they succeed. So both replays have the
same outcomes and the same results of calls, record by record, the same summary and the same
tally. -/
theorem replayed_turns_follow_history {d : Settings.Dispatch} {processors : Nat}
    (fits : d.Fits processors) (trace : List Record) {timing timing' : Timing}
    (same : timing.work = timing'.work) (grace grace' : Nat) :
    ∃ w r r', Console.buildWorld d processors WorldSession.opening.table = .ok w ∧
      run timing grace trace w = .ok r ∧ run timing' grace' trace w = .ok r' ∧
      r.exchanges.map (fun x => x.dispatched.record) = trace.filter Record.decodes ∧
      (∀ number, FollowHistory (turnsOf number r.exchanges)) ∧
      r.exchanges = r'.exchanges ∧ r.summary = r'.summary ∧
      r.world.engine.scene.tally = r'.world.engine.scene.tally := by
  obtain ⟨hclear, -⟩ := Settings.Dispatch.capacity_of_validate fits.valid
  have takes := WorldSession.takesTurns_opening
  have hforecast : forecast WorldSession.opening.table (d.permits processors) timing' trace =
      forecast WorldSession.opening.table (d.permits processors) timing trace := by
    rw [← forecast_work, ← same, forecast_work]
  obtain ⟨r, s, hrun, books, finished, hlog, hcalls⟩ :=
    exists_run_foretold takes.toSteady _ d.worldDrainBudget hclear timing grace trace
  obtain ⟨r', s', hrun', books', finished', hlog', hcalls'⟩ :=
    exists_run_foretold takes.toSteady _ d.worldDrainBudget hclear timing' grace' trace
  rw [hforecast] at hlog' hcalls'
  have hsingle := length_results_forecast_le WorldSession.opening.table (d.permits processors)
    timing trace
  have hsaid := Run.exchanges_eq hlog hcalls hsingle
  have hsaid' := Run.exchanges_eq hlog' hcalls' hsingle
  have hlogs : r.log.Perm r'.log := by
    rw [← hlog, ← hlog']
  have hrecords : r.exchanges.map (fun x => x.dispatched.record) = trace.filter Record.decodes := by
    rw [← finished.records, ← hlog, hsaid, List.map_map]
    rfl
  refine ⟨_, r, r', fits.buildWorld _, hrun, hrun', hrecords, ?_,
    hsaid.trans hsaid'.symm, finished.summary_eq_of_perm finished' (.refl _) hlogs,
    finished.tally_eq_of_placedCalls finished' books books' hcalls hcalls' hlogs (.refl _)⟩
  intro number
  rw [hsaid]
  exact (leaves_forecast takes _ timing trace number).follow

/-- A session that logs in twice and out twice, and in again. -/
def comings : List Record :=
  let enter : Record := ⟨7, .authed, loginOpcode, ""⟩
  let leave : Record := ⟨7, .loggedIn, logoutOpcode, ""⟩
  [enter, enter, leave, leave, enter]

/-- The pool works as in a given timing, and a minute passes after each dispatch. -/
def Timing.slowly (timing : Timing) : Timing :=
  { timing with afterDispatch := fun place => timing.afterDispatch place ++ [.elapse 60000] }

theorem Timing.work_slowly (timing : Timing) : timing.slowly.work = timing.work := by
  simp [work, slowly, Background.isWork]

theorem replayed_turns_follow_history_comings :
    ∃ w r r',
      Console.buildWorld ⟨some 1, 1, 1, 50, 20, false⟩ 4 WorldSession.opening.table = .ok w ∧
      run .eager 20000 comings w = .ok r ∧ run Timing.eager.slowly 0 comings w = .ok r' ∧
      (∀ number, FollowHistory (turnsOf number r.exchanges)) ∧
      r.exchanges = r'.exchanges ∧ r.summary = r'.summary ∧
      r.world.engine.scene.tally = r'.world.engine.scene.tally := by
  have fits : Settings.Dispatch.Fits ⟨some 1, 1, 1, 50, 20, false⟩ 4 := ⟨rfl, rfl⟩
  obtain ⟨w, r, r', hbuild, hrun, hrun', -, hfollow, hsame⟩ :=
    replayed_turns_follow_history fits comings (Timing.work_slowly .eager).symm 20000 0
  exact ⟨w, r, r', hbuild, hrun, hrun', hfollow, hsame⟩

end Replay
end PacketDispatch
