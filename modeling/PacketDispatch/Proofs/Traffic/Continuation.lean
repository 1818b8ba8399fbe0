import PacketDispatch.Proofs.Traffic.Basic

/-!
# How a run goes on

A program around an engine is traffic in disguise: it dispatches messages, lets the pool work and
lets the world thread proceed, and writes lines of its own.  One moment leads to another when
everything that lasts is handed on from the first to the second.
-/

namespace PacketDispatch
namespace Traffic

variable {σ : Type} {s s' s'' : Traffic σ}

/-- Whatever lasts, and holds at one moment, holds at a later one. -/
def Leads (s s' : Traffic σ) : Prop :=
  ∀ P : Traffic σ → Prop, Lasts P → P s → P s'

namespace Leads

theorem refl (s : Traffic σ) : Leads s s :=
  fun _ _ h => h

theorem trans (h : Leads s s') (h' : Leads s' s'') : Leads s s'' :=
  fun P lasts hs => h' P lasts (h P lasts hs)

end Leads

theorem leads_run (s : Traffic σ) (events : List (Event σ)) : Leads s (s.run events) :=
  fun _ lasts h => lasts.run events h

theorem leads_note (s : Traffic σ) (lines : List Line) :
    Leads s (s.mapEngine fun e => e.note lines) :=
  fun _ lasts h => lasts.note s lines h

theorem leads_connect (s : Traffic σ) (session : σ) :
    Leads s (s.mapEngine fun e => (e.connect session).2) :=
  fun _ lasts h => lasts.connect s session h

theorem leads_arrive (s : Traffic σ) (phase : Phase) (ref : SessionRef) (env : Envelope) :
    Leads s (s.arrive phase ref env) :=
  fun _ lasts h => lasts.arrive s phase ref env h

theorem leads_settle (s : Traffic σ) (place : Nat) : Leads s (s.settle place) :=
  fun _ lasts h => lasts.settle s place h

theorem leads_next (s : Traffic σ) : Leads s s.next :=
  fun _ lasts h => lasts.next s h

/-! ## Events beside the dispatching thread -/

/-- What events beside the dispatching thread leave: the engine after them, and a history in which
only pool jobs may have ended. -/
structure PassesBy (s : Traffic σ) (events : List Background) (s' : Traffic σ) : Prop where
  engine : s'.engine = s.engine.happenAll events
  underway : s'.underway = s.underway
  arrivals : s'.arrivals = s.arrivals
  drained : s'.drained = s.drained

theorem passesBy_beside (s : Traffic σ) (b : Background) : PassesBy s [b] (s.beside b) := by
  cases b <;> exact ⟨rfl, rfl, rfl, rfl⟩

theorem passesBy_run (events : List Background) (s : Traffic σ) :
    PassesBy s events (s.run (events.map .beside)) := by
  induction events generalizing s with
  | nil => exact ⟨rfl, rfl, rfl, rfl⟩
  | cons b events ih =>
      have hfirst := s.passesBy_beside b
      have hrest := ih (s.beside b)
      exact {
        engine := by
          have hengine := hrest.engine
          rw [hfirst.engine] at hengine
          exact hengine
        underway := hrest.underway.trans hfirst.underway
        arrivals := hrest.arrivals.trans hfirst.arrivals
        drained := hrest.drained.trans hfirst.drained }

/-! ## Dispatches that are counted late -/

/-- A dispatch from its arrival to the counting of its outcome, with events between the two. -/
structure Sends (s : Traffic σ) (phase : Phase) (ref : SessionRef) (env : Envelope)
    (events : List Background) (outcome : Outcome) (arrived : Engine σ) (s' : Traffic σ) :
    Prop where
  engine : s'.engine = (arrived.happenAll events).record env.opcode outcome
  underway : s'.underway = []
  arrivals : s'.arrivals = s.arrivals ++ [s.arrival phase ref env outcome]
  drained : s'.drained = s.drained

/-- Whatever comes between the arrival of a message and the counting of its outcome, it is a
dispatch like any other. -/
theorem exists_leads_sends {phase : Phase} {ref : SessionRef} {env : Envelope} {outcome : Outcome}
    {arrived : Engine σ} (events : List Background) (idle : s.underway = [])
    (h : s.engine.arrive phase ref env = .ok (outcome, arrived)) :
    ∃ s', Leads s s' ∧ Sends s phase ref env events outcome arrived s' := by
  let begun := s.arrive phase ref env
  have hbegun : begun = { s with
      engine := arrived
      underway := [(env.opcode, outcome)]
      arrivals := s.arrivals ++ [s.arrival phase ref env outcome] } := by
    simp only [begun, arrive, h, idle, List.nil_append]
  let later := begun.run (events.map .beside)
  have hlater : PassesBy begun events later := passesBy_run events begun
  have hunderway : later.underway = [(env.opcode, outcome)] := by
    rw [hlater.underway, hbegun]
  have hsettle : later.settle 0 = { later with
      engine := later.engine.record env.opcode outcome
      underway := [] } := by
    simp [settle, hunderway]
  refine ⟨later.settle 0, ?_, ?_⟩
  · exact (s.leads_arrive phase ref env).trans
      ((begun.leads_run _).trans (later.leads_settle 0))
  · rw [hsettle]
    refine ⟨?_, rfl, ?_, ?_⟩
    · change later.engine.record env.opcode outcome = _
      rw [hlater.engine, hbegun]
    · change later.arrivals = _
      rw [hlater.arrivals, hbegun]
    · change later.drained = _
      rw [hlater.drained, hbegun]

end Traffic
end PacketDispatch
