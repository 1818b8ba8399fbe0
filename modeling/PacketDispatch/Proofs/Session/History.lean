import PacketDispatch.Gate
import PacketDispatch.Session.Login

/-!
# Admission and the history of a login

A login keeps a phase and the time of a logout, and no history.  What the gate grants to it depends
on its history all the same: on whether it has passed the queue, and on the last of the requests
that succeeded.  The invariant that links the hidden state to the past is kept by every request,
whether it succeeds or is refused, and whatever times the requests bear.
-/

namespace PacketDispatch

/-! ## What the gate grants -/

namespace Requirement

theorem check_authed_eq_granted {phase : Phase} :
    authed.check phase = .granted ↔ phase ≠ .queued := by
  cases phase <;> simp [check]

theorem check_loggedIn_eq_granted {phase : Phase} :
    loggedIn.check phase = .granted ↔ phase = .loggedIn ∨ phase = .transfer := by
  cases phase <;> simp [check]

theorem check_loggedInOrRecent_eq_granted {phase : Phase} :
    loggedInOrRecent.check phase = .granted ↔
      (phase = .loggedIn ∨ phase = .transfer) ∨ phase = .recentlyLoggedOut := by
  cases phase <;> simp [check]

theorem check_transfer_eq_granted {phase : Phase} :
    transfer.check phase = .granted ↔ phase = .transfer := by
  cases phase <;> simp [check]

end Requirement

namespace Login

/-! ## Requests and their history -/

/-- What is asked of a login, and when. -/
structure Request where
  action : Action
  time : Instant
  deriving DecidableEq, Repr

/-- The login after a request; one that is refused leaves it as it was. -/
def serve (l : Login) (r : Request) : Login :=
  match l.perform r.action r.time with
  | .ok l' => l'
  | .error _ => l

/-- Requests are served one after another. -/
def serveAll (l : Login) (requests : List Request) : Login :=
  requests.foldl serve l

/-- The requests that succeed, in their order. -/
def accepted (l : Login) : List Request → List Request
  | [] => []
  | r :: rest =>
    match l.perform r.action r.time with
    | .ok l' => r :: l'.accepted rest
    | .error _ => l.accepted rest

/-- A new login, which waits in the queue or has passed it. -/
def opening (waits : Bool) (grace : Nat) : Login :=
  if waits then queued grace else authed grace

/-- A character enters the world or leaves it. -/
def Action.isTurn : Action → Bool
  | .login | .logout => true
  | _ => false

/-- A character enters the world, leaves it, or moves between its parts. -/
def Action.isMove : Action → Bool
  | .leaveQueue => false
  | _ => true

/-- The last request by which a character entered the world or left it. -/
def lastTurn (past : List Request) : Option Request :=
  (past.filter fun r => r.action.isTurn).getLast?

/-- The last request by which a character entered the world, left it, or moved in it. -/
def lastMove (past : List Request) : Option Request :=
  (past.filter fun r => r.action.isMove).getLast?

theorem lastTurn_concat (past : List Request) (r : Request) :
    lastTurn (past ++ [r]) = if r.action.isTurn then some r else lastTurn past := by
  by_cases h : r.action.isTurn <;> simp [lastTurn, h]

theorem lastMove_concat (past : List Request) (r : Request) :
    lastMove (past ++ [r]) = if r.action.isMove then some r else lastMove past := by
  by_cases h : r.action.isMove <;> simp [lastMove, h]

/-! ## What one request changes -/

/-- What each action needs, and what it leaves behind. -/
inductive Accepts (l : Login) : Request → Login → Prop
  | leaveQueue {time : Instant} (phase : l.phase = .queued) :
      Accepts l ⟨.leaveQueue, time⟩ { l with phase := .authed }
  | login {time : Instant} (phase : l.phase = .authed ∨ l.phase = .recentlyLoggedOut) :
      Accepts l ⟨.login, time⟩ { l with phase := .loggedIn, loggedOutAt := none }
  | beginTransfer {time : Instant} (phase : l.phase = .loggedIn) :
      Accepts l ⟨.beginTransfer, time⟩ { l with phase := .transfer }
  | finishTransfer {time : Instant} (phase : l.phase = .transfer) :
      Accepts l ⟨.finishTransfer, time⟩ { l with phase := .loggedIn }
  | logout {time : Instant} (phase : l.phase = .loggedIn ∨ l.phase = .transfer) :
      Accepts l ⟨.logout, time⟩
        { l with phase := .recentlyLoggedOut, loggedOutAt := some time }

variable {l l' : Login} {r : Request} {now : Instant}

/-- The grace window changes nothing but its own phase, so the other phases are as stored. -/
theorem phaseAt_eq_iff {phase : Phase} (notAuthed : phase ≠ .authed)
    (notRecent : phase ≠ .recentlyLoggedOut) :
    l.phaseAt now = phase ↔ l.phase = phase := by
  unfold phaseAt
  split
  · rename_i hphase _
    rw [hphase]
    split
    · exact iff_of_false notAuthed.symm notRecent.symm
    · exact Iff.rfl
  · exact Iff.rfl

/-- A login whose logout has a time is recent until its grace is over, and then as before the
login. -/
theorem phaseAt_of_recentlyLoggedOut {time : Instant} (hphase : l.phase = .recentlyLoggedOut)
    (htime : l.loggedOutAt = some time) :
    l.phaseAt now = if now - time < l.grace then .recentlyLoggedOut else .authed := by
  simp only [phaseAt, hphase, htime]
  by_cases h : now - time < l.grace
  · rw [if_pos h, if_neg (Nat.not_le.mpr h)]
  · rw [if_neg h, if_pos (Nat.not_lt.mp h)]

theorem phase_of_phaseAt_recent (h : l.phaseAt now = .recentlyLoggedOut) :
    l.phase = .recentlyLoggedOut := by
  cases hphase : l.phase with
  | recentlyLoggedOut => rfl
  | queued | authed | loggedIn | transfer => simp [phaseAt, hphase] at h

/-- A login that looks authenticated is so, or its grace window is over. -/
theorem phase_of_phaseAt_authed (h : l.phaseAt now = .authed) :
    l.phase = .authed ∨ l.phase = .recentlyLoggedOut := by
  cases hphase : l.phase with
  | authed => exact Or.inl rfl
  | recentlyLoggedOut => exact Or.inr rfl
  | queued | loggedIn | transfer => simp [phaseAt, hphase] at h

/-- A request that succeeds found the phase that its action needs. -/
theorem accepts_of_perform (h : l.perform r.action r.time = .ok l') :
    Accepts l r l' := by
  obtain ⟨action, time⟩ := r
  cases action with
  | leaveQueue =>
      simp only [perform, Login.leaveQueue] at h
      split at h
      · rename_i hphase
        exact Except.ok.inj h ▸ .leaveQueue hphase
      · cases h
  | login =>
      simp only [perform, Login.login] at h
      split at h
      · rename_i hphase
        exact Except.ok.inj h ▸ .login (phase_of_phaseAt_authed hphase)
      · rename_i hphase
        exact Except.ok.inj h ▸ .login (Or.inr (phase_of_phaseAt_recent hphase))
      · cases h
  | beginTransfer =>
      simp only [perform, Login.beginTransfer] at h
      split at h
      · rename_i hphase
        exact Except.ok.inj h ▸ .beginTransfer hphase
      · cases h
  | finishTransfer =>
      simp only [perform, Login.finishTransfer] at h
      split at h
      · rename_i hphase
        exact Except.ok.inj h ▸ .finishTransfer hphase
      · cases h
  | logout =>
      simp only [perform, Login.logout] at h
      split at h
      · rename_i hphase
        exact Except.ok.inj h ▸ .logout (Or.inl hphase)
      · rename_i hphase
        exact Except.ok.inj h ▸ .logout (Or.inr hphase)
      · cases h

theorem Accepts.grace_eq (h : Accepts l r l') :
    l'.grace = l.grace := by
  cases h <;> rfl

/-- Whoever asks in vain to leave the queue does not wait in it. -/
theorem phase_ne_queued_of_refused {refused : Refused}
    (h : l.perform .leaveQueue now = .error refused) :
    l.phase ≠ .queued := by
  intro hphase
  simp [perform, Login.leaveQueue, hphase] at h

/-! ## The invariant -/

/-- The hidden state of a login follows from its past: from whether it has passed the queue, and
from the requests that succeeded. -/
structure Follows (grace : Nat) (passed : Prop) (past : List Request) (l : Login) : Prop where
  grace : l.grace = grace
  queue : passed ↔ l.phase ≠ .queued
  inWorld : l.phase = .loggedIn ∨ l.phase = .transfer ↔
    ∃ r, lastTurn past = some r ∧ r.action = .login
  moving : l.phase = .transfer ↔ ∃ r, lastMove past = some r ∧ r.action = .beginTransfer
  left : ∀ time, l.phase = .recentlyLoggedOut ∧ l.loggedOutAt = some time ↔
    lastTurn past = some ⟨.logout, time⟩
  stamped : l.phase = .recentlyLoggedOut → ∃ time, l.loggedOutAt = some time

namespace Follows

variable {grace : Nat} {passed : Prop} {past : List Request}

theorem opening (waits : Bool) (grace : Nat) :
    Follows grace (waits = false) [] (opening waits grace) := by
  cases waits <;>
    constructor <;> simp [Login.opening, authed, queued, lastTurn, lastMove]

/-- A request that succeeds becomes part of the past. -/
theorem accept (h : Follows grace passed past l) (accepts : Accepts l r l') :
    Follows grace (passed ∨ r.action = .leaveQueue) (past ++ [r]) l' := by
  have hgrace := accepts.grace_eq.trans h.grace
  have hpassed : r.action ≠ .leaveQueue → passed := by
    intro haction
    apply h.queue.mpr
    cases accepts with
    | leaveQueue _ => exact absurd rfl haction
    | beginTransfer hphase | finishTransfer hphase => simp [hphase]
    | login hphase | logout hphase => rcases hphase with hphase | hphase <;> simp [hphase]
  cases accepts with
  | leaveQueue hphase =>
      -- Nobody in the queue has a character in the world, and leaving it moves none.
      exact {
        grace := hgrace
        queue := by simp
        inWorld := by simpa [lastTurn_concat, Action.isTurn, hphase] using h.inWorld
        moving := by simpa [lastMove_concat, Action.isMove, hphase] using h.moving
        left := by simpa [lastTurn_concat, Action.isTurn, hphase] using h.left
        stamped := by simp }
  | login hphase =>
      exact {
        grace := hgrace
        queue := by simp [hpassed]
        inWorld := by simp [lastTurn_concat, Action.isTurn]
        moving := by simp [lastMove_concat, Action.isMove]
        left := by simp [lastTurn_concat, Action.isTurn]
        stamped := by simp }
  | beginTransfer hphase =>
      exact {
        grace := hgrace
        queue := by simp [hpassed]
        inWorld := by simpa [lastTurn_concat, Action.isTurn, hphase] using h.inWorld
        moving := by simp [lastMove_concat, Action.isMove]
        left := by simpa [lastTurn_concat, Action.isTurn, hphase] using h.left
        stamped := by simp }
  | finishTransfer hphase =>
      exact {
        grace := hgrace
        queue := by simp [hpassed]
        inWorld := by simpa [lastTurn_concat, Action.isTurn, hphase] using h.inWorld
        moving := by simp [lastMove_concat, Action.isMove]
        left := by simpa [lastTurn_concat, Action.isTurn, hphase] using h.left
        stamped := by simp }
  | logout hphase =>
      exact {
        grace := hgrace
        queue := by simp [hpassed]
        inWorld := by simp [lastTurn_concat, Action.isTurn]
        moving := by simp [lastMove_concat, Action.isMove]
        left := by simp [lastTurn_concat, Action.isTurn]
        stamped := by simp }

/-- A request that is refused changes nothing; if it was to leave the queue, the queue has been
passed before. -/
theorem refuse {refused : Refused} (h : Follows grace passed past l)
    (herror : l.perform r.action r.time = .error refused) :
    Follows grace (passed ∨ r.action = .leaveQueue) past l := by
  have hpassed : passed ∨ r.action = .leaveQueue ↔ passed := by
    constructor
    · rintro (hpassed | haction)
      · exact hpassed
      · rw [haction] at herror
        exact h.queue.mpr (phase_ne_queued_of_refused herror)
    · exact Or.inl
  exact { h with queue := hpassed.trans h.queue }

/-- Whatever is asked of a login, its hidden state follows from its past. -/
theorem serveAll (h : Follows grace passed past l) (requests : List Request) :
    Follows grace (passed ∨ ∃ r ∈ requests, r.action = .leaveQueue)
      (past ++ l.accepted requests) (l.serveAll requests) := by
  induction requests generalizing l passed past with
  | nil => simpa [accepted, Login.serveAll] using h
  | cons r rest ih =>
      cases hperform : l.perform r.action r.time with
      | ok l' =>
          have hserve : l.serve r = l' := by simp only [serve, hperform]
          have hrest := ih (h.accept (accepts_of_perform hperform))
          simpa [accepted, hperform, Login.serveAll, hserve, or_assoc] using hrest
      | error refused =>
          have hserve : l.serve r = l := by simp only [serve, hperform]
          have hrest := ih (h.refuse hperform)
          simpa [accepted, hperform, Login.serveAll, hserve, or_assoc] using hrest

/-- The grace window is open when a logout came last and less than the grace has passed since. -/
theorem recent (h : Follows grace passed past l) (now : Instant) :
    l.phaseAt now = .recentlyLoggedOut ↔
      ∃ r, lastTurn past = some r ∧ r.action = .logout ∧ now - r.time < grace := by
  constructor
  · intro hrecent
    have hphase := phase_of_phaseAt_recent hrecent
    obtain ⟨time, htime⟩ := h.stamped hphase
    refine ⟨⟨.logout, time⟩, (h.left time).mp ⟨hphase, htime⟩, rfl, ?_⟩
    rw [phaseAt_of_recentlyLoggedOut hphase htime, h.grace] at hrecent
    by_cases hopen : now - time < grace
    · exact hopen
    · simp [hopen] at hrecent
  · rintro ⟨⟨action, time⟩, hlast, rfl, hopen⟩
    obtain ⟨hphase, htime⟩ := (h.left time).mpr hlast
    rw [phaseAt_of_recentlyLoggedOut hphase htime, h.grace, if_pos hopen]

end Follows

/-! ## Admission over a history -/

/-- Whatever was asked of a new login, and whenever, and at every time: the gate grants the four
requirements that it can grant by the history of the login alone. It grants `authed` when the login
never waited or was asked to leave the queue, `loggedIn` when the character that entered the world
last has not left it, `loggedInOrRecent` then and until the grace window after the last logout is
over, and `transfer` when nothing happened to the character since its transfer began. -/
theorem gate_follows_history
    (waits : Bool) (grace : Nat) (requests : List Request) (now : Instant) :
    let past := (opening waits grace).accepted requests
    let phase := ((opening waits grace).serveAll requests).phaseAt now
    (Requirement.authed.check phase = .granted ↔
        waits = false ∨ ∃ r ∈ requests, r.action = .leaveQueue) ∧
      (Requirement.loggedIn.check phase = .granted ↔
        ∃ r, lastTurn past = some r ∧ r.action = .login) ∧
      (Requirement.loggedInOrRecent.check phase = .granted ↔
        ∃ r, lastTurn past = some r ∧
          (r.action = .login ∨ r.action = .logout ∧ now - r.time < grace)) ∧
      (Requirement.transfer.check phase = .granted ↔
        ∃ r, lastMove past = some r ∧ r.action = .beginTransfer) := by
  intro past phase
  have follows : Follows grace (waits = false ∨ ∃ r ∈ requests, r.action = .leaveQueue) past
      ((opening waits grace).serveAll requests) := by
    simpa using (Follows.opening waits grace).serveAll requests
  have hinWorld : phase = .loggedIn ∨ phase = .transfer ↔
      ∃ r, lastTurn past = some r ∧ r.action = .login := by
    rw [phaseAt_eq_iff (by decide) (by decide), phaseAt_eq_iff (by decide) (by decide)]
    exact follows.inWorld
  refine ⟨?_, ?_, ?_, ?_⟩
  · rw [Requirement.check_authed_eq_granted, Ne, phaseAt_eq_iff (by decide) (by decide)]
    exact follows.queue.symm
  · rw [Requirement.check_loggedIn_eq_granted]
    exact hinWorld
  · rw [Requirement.check_loggedInOrRecent_eq_granted, hinWorld, follows.recent now,
      ← exists_or]
    simp only [← and_or_left]
  · rw [Requirement.check_transfer_eq_granted, phaseAt_eq_iff (by decide) (by decide)]
    exact follows.moving

example :
    let l := (authed 20).serveAll [⟨.login, 0⟩, ⟨.beginTransfer, 3⟩, ⟨.logout, 5⟩, ⟨.leaveQueue, 6⟩]
    l.phaseAt 2 = .recentlyLoggedOut ∧ l.phaseAt 24 = .recentlyLoggedOut ∧
      l.phaseAt 25 = .authed := by
  decide

end Login
end PacketDispatch
