import PacketDispatch.Proofs.Engine.Gauge
import PacketDispatch.Proofs.World.Prospects

/-!
# Outcomes that can be told beforehand

With a clear world queue only the pool can refuse a message.  So the outcome of a message depends on
the table, on the last phase that its client entered, and on whether the pool has room; and what the
message comes to depends on its outcome and that phase.  The clock has no part in either.
-/

namespace PacketDispatch
namespace Table

/-- What a message with an outcome comes to for a client that entered a phase last. Nothing is
called for a message that was rejected. -/
def answerTo (t : Table WorldSession) (outcome : Outcome) (passed : Phase) (env : Envelope)
    (entered : Phase) : Answer :=
  if outcome.isRejected then ⟨outcome, [], entered⟩
  else { t.answer passed env entered with outcome := outcome }

/-- The outcome of a message for a client that entered a phase last, when the pool has room and when
it has none. -/
def verdict (t : Table WorldSession) (passed : Phase) (env : Envelope) (entered : Phase)
    (room : Bool) : Outcome :=
  match t.decide passed env with
  | .stop outcome => outcome
  | .call d c =>
    match d.lane, room with
    | .inPlace, _ => .ofResult (c.resultIn entered)
    | .pool, false => .dropped (.saturated env.opcode .pool)
    | lane, _ => .scheduled lane

variable {t : Table WorldSession} {passed entered : Phase} {env : Envelope} {outcome : Outcome}

theorem answerTo_of_isRejected (h : outcome.isRejected = true) :
    t.answerTo outcome passed env entered = ⟨outcome, [], entered⟩ :=
  if_pos h

theorem answerTo_of_call {d : Descriptor WorldSession} {c : Call WorldSession}
    (h : outcome.isRejected = false) (hdecide : t.decide passed env = .call d c) :
    t.answerTo outcome passed env entered =
      ⟨outcome, [c.resultIn entered], c.phaseAfter entered⟩ := by
  simp only [answerTo, h, answer, hdecide, Bool.false_eq_true, if_false]

@[simp] theorem outcome_answerTo (t : Table WorldSession) (outcome : Outcome) (passed : Phase)
    (env : Envelope) (entered : Phase) :
    (t.answerTo outcome passed env entered).outcome = outcome := by
  unfold answerTo
  split <;> rfl

/-- One call is made for a message at most. -/
theorem length_results_answerTo_le (t : Table WorldSession) (outcome : Outcome) (passed : Phase)
    (env : Envelope) (entered : Phase) :
    (t.answerTo outcome passed env entered).results.length ≤ 1 := by
  unfold answerTo answer
  split
  · exact Nat.zero_le 1
  · split
    · exact Nat.zero_le 1
    · exact Nat.le_refl 1

end Table

namespace Engine

variable {e : Engine WorldSession} {t : Table WorldSession} {entered : Phase} {ref : SessionRef}

/-- Whether or not the pool has room, a message comes to what its verdict says. -/
theorem verdict_of_route (steady : t.Steady) (standard : e.scheduler = .standard)
    (clear : e.queue.Clear) (calm : e.Calm) (last : e.phases[ref]? = some entered)
    (live : e.scene.connected ref = true) (passed : Phase) (env : Envelope) :
    (e.route t passed ref env).1 = t.verdict passed env entered e.pool.gauge.hasRoom ∧
      Gains e ref (t.answerTo (e.route t passed ref env).1 passed env entered)
        (e.route t passed ref env).2 := by
  have settled := clear.pending
  have hway := way_of_route t passed env live
  generalize e.route t passed ref env = routed at hway
  cases hway with
  | stopped lines hdecide =>
      have hrejected := Table.isRejected_of_decide_eq_stop hdecide
      rw [Table.answerTo_of_isRejected hrejected]
      simp only [Table.verdict, hdecide]
      exact ⟨trivial, gains_of_stop calm last _ lines⟩
  | @ranInPlace d c session remarks hdecide inPlace present =>
      obtain ⟨hresult, gains⟩ := gains_of_inPlace calm settled last present
        (steady.call_steady hdecide) (.ofResult (c.body e.scene.now session).ending.isolated)
        remarks
      rw [Table.answerTo_of_call (Outcome.isRejected_ofResult _) hdecide]
      simp only [Table.verdict, hdecide, inPlace]
      exact ⟨congrArg Outcome.ofResult hresult, gains⟩
  | @handedOn d c lines hdecide deferred room =>
      rw [Table.answerTo_of_call rfl hdecide]
      simp only [Table.verdict, hdecide]
      cases hlane : d.lane with
      | inPlace => simp [hlane, Lane.deferred] at deferred
      | pool =>
          rw [hlane] at room
          rw [(hasRoom_pool_iff standard).mp room]
          exact ⟨rfl, gains_of_pool calm settled last live (steady.call_aloof hdecide hlane) _
            lines⟩
      | world =>
          exact ⟨rfl, gains_of_world calm settled last live (steady.call_steady hdecide) _ lines⟩
  | @refused d c lines hdecide deferred full =>
      rw [Table.answerTo_of_isRejected rfl]
      refine ⟨?_, gains_of_stop calm last _ lines⟩
      simp only [Table.verdict, hdecide]
      cases hlane : d.lane with
      | inPlace => simp [hlane, Lane.deferred] at deferred
      | pool =>
          rw [hlane, hasRoom_pool_iff standard, Bool.not_eq_true] at full
          rw [full]
      | world =>
          have room : e.HasRoom .world := by
            refine ⟨standard, clear.isOpen, ?_⟩
            rw [WorldQueue.size, settled]
            exact clear.room
          exact absurd room (hlane ▸ full)

/-- Such a message arrives, and its verdict also says how the gauge of the pool moves. -/
theorem exists_verdict_of_arrive (steady : t.Steady) (installed : e.table = some t)
    (standard : e.scheduler = .standard) (clear : e.queue.Clear) (calm : e.Calm)
    (last : e.phases[ref]? = some entered) (live : e.scene.connected ref = true) (passed : Phase)
    (env : Envelope) :
    ∃ outcome arrived, e.arrive passed ref env = .ok (outcome, arrived) ∧
      outcome = t.verdict passed env entered e.pool.gauge.hasRoom ∧
      Gains e ref (t.answerTo outcome passed env entered) arrived ∧
      arrived.dispatched = e.dispatched + 1 ∧
      arrived.pool.gauge =
        if outcome = .scheduled .pool then e.pool.gauge.accept else e.pool.gauge := by
  obtain ⟨houtcome, gains⟩ :=
    verdict_of_route steady standard clear calm last live passed env
  have harrive : e.arrive passed ref env = _ := arrive_of_connected installed live
  refine ⟨_, _, harrive, houtcome,
    ⟨⟨gains.calm.aloof, gains.calm.steady, gains.calm.live⟩, gains.phases, gains.results,
      gains.isOpen, gains.free⟩, rfl, ?_⟩
  exact (admits_of_arrive installed harrive).gauge

end Engine
end PacketDispatch
