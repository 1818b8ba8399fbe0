import PacketDispatch.Proofs.Session.Grace

/-!
# The fields of a login

A login changes in place: an action checks what it needs and then sets one field after another.  The
phase and the time of the logout have to be set together, for a phase that looks back to a logout
without a time would never end.  They are, by every action that comes to setting them; and the
checks come first, so an action that is refused sets nothing.
-/

namespace PacketDispatch
namespace Login

/-! ## Actions in place -/

/-- An action needs a phase. -/
def require (phase : Phase) (action : Action) : EStateM Refused Login Unit := do
  let l ← get
  unless l.phase = phase do throw ⟨l.phase, action⟩

/-- A phase is entered. -/
def enter (phase : Phase) : EStateM Refused Login Unit :=
  modify fun l => { l with phase := phase }

/-- The time of the logout is set or forgotten. -/
def stamp (time? : Option Instant) : EStateM Refused Login Unit :=
  modify fun l => { l with loggedOutAt := time? }

/-- An action at a time, which sets the fields of a login one after another.  What is set before a
refusal would stay. -/
def performInPlace (now : Instant) : Action → EStateM Refused Login Unit
  | .leaveQueue => do
    require .queued .leaveQueue
    enter .authed
  | .login => do
    match (← get).phaseAt now with
    | .authed | .recentlyLoggedOut =>
      enter .loggedIn
      stamp none
    | phase => throw ⟨phase, .login⟩
  | .beginTransfer => do
    require .loggedIn .beginTransfer
    enter .transfer
  | .finishTransfer => do
    require .transfer .finishTransfer
    enter .loggedIn
  | .logout => do
    match (← get).phase with
    | .loggedIn | .transfer =>
      enter .recentlyLoggedOut
      stamp (some now)
    | phase => throw ⟨phase, .logout⟩

variable {l l' : Login} {r : Request} {now : Instant} {grace : Nat}

/-- Nothing is set before the phase that is needed has been found. -/
theorem run_require_enter (l : Login) (needed next : Phase) (action : Action) :
    (do require needed action; enter next).run l =
      if l.phase = needed then .ok () { l with phase := next } else .error ⟨l.phase, action⟩ l := by
  by_cases hphase : l.phase = needed
  · rw [if_pos hphase]
    simp [require, enter, hphase]
  · rw [if_neg hphase]
    simp [require, hphase]

/-- In place an action has the same result, and one that is refused leaves the login as it was. -/
theorem performInPlace_eq (l : Login) (action : Action) (now : Instant) :
    (performInPlace now action).run l =
      match l.perform action now with
      | .ok l' => .ok () l'
      | .error refused => .error refused l := by
  cases action with
  | leaveQueue | beginTransfer | finishTransfer =>
      refine (run_require_enter l _ _ _).trans ?_
      simp only [perform, leaveQueue, beginTransfer, finishTransfer]
      split <;> rfl
  | login =>
      simp only [performInPlace, perform, login, EStateM.run_bind, EStateM.run_get]
      cases l.phaseAt now <;> rfl
  | logout =>
      simp only [performInPlace, perform, logout, EStateM.run_bind, EStateM.run_get]
      cases l.phase <;> rfl

/-- A request in place ends where serving it ends, whether it succeeds or is refused. -/
theorem run_performInPlace (l : Login) (r : Request) :
    (performInPlace r.time r.action).run l = .ok () (l.serve r) ∨
      ∃ refused, (performInPlace r.time r.action).run l = .error refused l ∧ l.serve r = l := by
  rw [performInPlace_eq]
  cases hperform : l.perform r.action r.time with
  | ok l' =>
      rw [serve_of_ok hperform]
      exact Or.inl rfl
  | error refused => exact Or.inr ⟨refused, rfl, serve_of_error hperform⟩

/-! ## What all requests keep -/

/-- The fields of a login fit: it has the grace that it began with, and the time of a logout just
while its phase looks back to one. -/
structure Coherent (grace : Nat) (l : Login) : Prop where
  grace : l.grace = grace
  stamped : l.loggedOutAt.isSome = true ↔ l.phase = .recentlyLoggedOut

/-- No action leads into the queue. -/
theorem Accepts.phase_ne_queued (h : Accepts l r l') : l'.phase ≠ .queued := by
  cases h <;> nofun

namespace Coherent

theorem opening (waits : Bool) (grace : Nat) : Coherent grace (opening waits grace) := by
  cases waits with
  | false => exact ⟨rfl, nofun, nofun⟩
  | true => exact ⟨rfl, nofun, nofun⟩

/-- A login that had no time of a logout needs none in a phase that looks back to none. -/
theorem enter (h : Coherent grace l) {phase : Phase} (hphase : l.phase ≠ .recentlyLoggedOut)
    (hnext : phase ≠ .recentlyLoggedOut) : Coherent grace { l with phase := phase } where
  grace := h.grace
  stamped := iff_of_false (fun hstamp => hphase (h.stamped.mp hstamp)) hnext

theorem accept (h : Coherent grace l) (accepts : Accepts l r l') : Coherent grace l' := by
  cases accepts with
  | leaveQueue hphase | beginTransfer hphase | finishTransfer hphase =>
      exact h.enter (by rw [hphase]; decide) (by decide)
  | login _ => exact ⟨h.grace, nofun, nofun⟩
  | logout _ => exact ⟨h.grace, fun _ => rfl, fun _ => rfl⟩

theorem serve (h : Coherent grace l) (r : Request) : Coherent grace (l.serve r) := by
  cases hperform : l.perform r.action r.time with
  | ok l' =>
      rw [serve_of_ok hperform]
      exact h.accept (accepts_of_perform hperform)
  | error refused =>
      rw [serve_of_error hperform]
      exact h

theorem serveAll (h : Coherent grace l) (requests : List Request) :
    Coherent grace (l.serveAll requests) := by
  induction requests generalizing l with
  | nil => exact h
  | cons r rest ih => exact ih (h.serve r)

/-- Whoever looks back to a logout knows its time. -/
theorem exists_loggedOutAt (h : Coherent grace l) (hphase : l.phase = .recentlyLoggedOut) :
    ∃ time, l.loggedOutAt = some time :=
  Option.isSome_iff_exists.mp (h.stamped.mpr hphase)

end Coherent

theorem phase_serve_ne_queued (h : l.phase ≠ .queued) (r : Request) :
    (l.serve r).phase ≠ .queued := by
  cases hperform : l.perform r.action r.time with
  | ok l' =>
      rw [serve_of_ok hperform]
      exact (accepts_of_perform hperform).phase_ne_queued
  | error refused =>
      rw [serve_of_error hperform]
      exact h

/-- Whoever has left the queue never waits again. -/
theorem phase_serveAll_ne_queued (h : l.phase ≠ .queued) (requests : List Request) :
    (l.serveAll requests).phase ≠ .queued := by
  induction requests generalizing l with
  | nil => exact h
  | cons r rest ih => exact ih (phase_serve_ne_queued h r)

/-- The fields of a login stay coherent, and its grace window closes.  Whatever has been asked of a
new login, and whenever: it has the time of a logout just while the phase that it stores looks back
to one, and its grace is as it was.  A request that is refused leaves all fields as they were, also
when the fields are set in place.  Whoever does not wait in the queue never waits in it again.  And
whoever looks back to a logout knows its time: at every time the phase is that of the open window
when less than the grace has passed since, and else as before the login, so from some time on it
stays so. -/
theorem login_fields_stay_coherent (waits : Bool) (grace : Nat) (requests : List Request) :
    let l := (opening waits grace).serveAll requests
    (l.loggedOutAt.isSome = true ↔ l.phase = .recentlyLoggedOut) ∧ l.grace = grace ∧
      (∀ r, (performInPlace r.time r.action).run l = .ok () (l.serve r) ∨
        ∃ refused, (performInPlace r.time r.action).run l = .error refused l ∧ l.serve r = l) ∧
      (l.phase ≠ .queued → ∀ later t,
        (l.serveAll later).phase ≠ .queued ∧ (l.serveAll later).phaseAt t ≠ .queued) ∧
      (l.phase = .recentlyLoggedOut → ∃ time, l.loggedOutAt = some time ∧
        (∀ t, l.phaseAt t = if t - time < grace then .recentlyLoggedOut else .authed) ∧
        ∀ t, time + grace ≤ t → l.phaseAt t = .authed) := by
  intro l
  have hcoherent : Coherent grace l := (Coherent.opening waits grace).serveAll requests
  refine ⟨hcoherent.stamped, hcoherent.grace, run_performInPlace l, ?_, ?_⟩
  · intro hphase later t
    have hlater := phase_serveAll_ne_queued hphase later
    refine ⟨hlater, ?_⟩
    rwa [Ne, phaseAt_eq_iff (by decide) (by decide)]
  · intro hphase
    obtain ⟨time, htime⟩ := hcoherent.exists_loggedOutAt hphase
    have hwindow : ∀ t, l.phaseAt t = if t - time < grace then .recentlyLoggedOut else .authed := by
      intro t
      rw [phaseAt_of_recentlyLoggedOut hphase htime, hcoherent.grace]
    refine ⟨time, htime, hwindow, fun t hlater => ?_⟩
    rw [hwindow, if_neg (Nat.not_lt.mpr (Nat.le_sub_of_add_le' hlater))]

end Login
end PacketDispatch
