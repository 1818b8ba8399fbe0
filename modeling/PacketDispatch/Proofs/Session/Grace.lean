import PacketDispatch.Proofs.Session.History

/-!
# When the grace window is over

The grace window closes by itself: no request ends it, and the login goes on storing the phase that
it had.  The phase at a time says that the window is over, and all that is asked of the login from
then on goes as if the character had never been in the world.  One thing tells the difference: a
logout is refused for the phase that is stored.
-/

namespace PacketDispatch
namespace Login

variable {l m : Login} {now t : Instant} {r : Request}

/-! ## After the window -/

/-- The grace window of a login is over. -/
structure Expired (now : Instant) (l : Login) : Prop where
  phase : l.phase = .recentlyLoggedOut
  out : ∃ time, l.loggedOutAt = some time ∧ l.grace ≤ now - time

/-- A window that is over stays so. -/
theorem Expired.phaseAt_eq (h : Expired now l) (later : now ≤ t) : l.phaseAt t = .authed := by
  obtain ⟨time, hout, hgrace⟩ := h.out
  have hclosed : ¬ t - time < l.grace :=
    Nat.not_lt.mpr (Nat.le_trans hgrace (Nat.sub_le_sub_right later time))
  rw [phaseAt_of_recentlyLoggedOut h.phase hout, if_neg hclosed]

/-- The phase at a time is the stored one, or the window is over. -/
theorem phaseAt_ne_phase_iff : l.phaseAt now ≠ l.phase ↔ Expired now l := by
  constructor
  · intro hne
    unfold phaseAt at hne
    split at hne
    · rename_i time hphase hout
      split at hne
      · rename_i hgrace
        exact ⟨hphase, time, hout, hgrace⟩
      · exact absurd hphase.symm hne
    · exact absurd rfl hne
  · intro hexpired
    rw [hexpired.phaseAt_eq (Nat.le_refl now), hexpired.phase]
    decide

/-- The window is over when a logout came last and its grace has passed. -/
theorem Follows.expired_iff {grace : Nat} {passed : Prop} {past : List Request}
    (h : Follows grace passed past l) :
    Expired now l ↔
      ∃ r, lastTurn past = some r ∧ r.action = .logout ∧ grace ≤ now - r.time := by
  constructor
  · rintro ⟨hphase, time, hout, hgrace⟩
    exact ⟨⟨.logout, time⟩, (h.left time).mp ⟨hphase, hout⟩, rfl, h.grace ▸ hgrace⟩
  · rintro ⟨⟨action, time⟩, hlast, rfl, hgrace⟩
    obtain ⟨hphase, hout⟩ := (h.left time).mpr hlast
    exact ⟨hphase, time, hout, h.grace.symm ▸ hgrace⟩

/-! ## The window is forgotten -/

/-- From some time on one login is as good as another: as itself and, when its window is over by then,
as one that has never been in the world. -/
inductive AlikeFrom (now : Instant) : Login → Login → Prop
  | same (l : Login) : AlikeFrom now l l
  | expired {l : Login} (h : Expired now l) : AlikeFrom now l (authed l.grace)

theorem serve_of_ok {l' : Login} (h : l.perform r.action r.time = .ok l') : l.serve r = l' := by
  simp only [serve, h]

theorem serve_of_error {refused : Refused} (h : l.perform r.action r.time = .error refused) :
    l.serve r = l := by
  simp only [serve, h]

namespace AlikeFrom

theorem phaseAt_eq (h : AlikeFrom now l m) (later : now ≤ t) : l.phaseAt t = m.phaseAt t := by
  cases h with
  | same => rfl
  | expired hexpired => exact hexpired.phaseAt_eq later

/-- A request succeeds for both and makes them the same, or fails for both and changes nothing. -/
theorem perform_cases (h : AlikeFrom now l m) (later : r.action.isTurn = true → now ≤ r.time) :
    (∃ l', l.perform r.action r.time = .ok l' ∧ m.perform r.action r.time = .ok l') ∨
      ∃ refused refused', l.perform r.action r.time = .error refused ∧
        m.perform r.action r.time = .error refused' := by
  cases h with
  | same =>
      cases hperform : l.perform r.action r.time with
      | ok l' => exact Or.inl ⟨l', rfl, rfl⟩
      | error refused => exact Or.inr ⟨refused, refused, rfl, rfl⟩
  | expired hexpired =>
      obtain ⟨action, asked⟩ := r
      have hphase := hexpired.phase
      cases action with
      | login =>
          have hthen : l.phaseAt asked = .authed := hexpired.phaseAt_eq (later rfl)
          refine Or.inl ⟨⟨.loggedIn, none, l.grace⟩, ?_, ?_⟩
          · simp only [perform, login, hthen]
          · rfl
      | leaveQueue => exact Or.inr (by simp [perform, leaveQueue, hphase, authed])
      | beginTransfer => exact Or.inr (by simp [perform, beginTransfer, hphase, authed])
      | finishTransfer => exact Or.inr (by simp [perform, finishTransfer, hphase, authed])
      | logout => exact Or.inr (by simp [perform, logout, hphase, authed])

/-- So the two answer a request alike, and are as good as each other after it. -/
theorem serve (h : AlikeFrom now l m) (later : r.action.isTurn = true → now ≤ r.time) :
    (l.perform r.action r.time).isOk = (m.perform r.action r.time).isOk ∧
      AlikeFrom now (l.serve r) (m.serve r) := by
  rcases h.perform_cases later with ⟨l', hl, hm⟩ | ⟨refused, refused', hl, hm⟩
  · rw [serve_of_ok hl, serve_of_ok hm, hl, hm]
    exact ⟨rfl, .same l'⟩
  · rw [serve_of_error hl, serve_of_error hm, hl, hm]
    exact ⟨rfl, h⟩

/-- Whatever is asked of the two, they are as good as each other. -/
theorem serveAll (h : AlikeFrom now l m) {requests : List Request}
    (later : ∀ r ∈ requests, r.action.isTurn = true → now ≤ r.time) :
    AlikeFrom now (l.serveAll requests) (m.serveAll requests) ∧
      l.accepted requests = m.accepted requests := by
  induction requests generalizing l m with
  | nil => exact ⟨h, rfl⟩
  | cons r rest ih =>
      obtain ⟨hfirst, hrest⟩ := List.forall_mem_cons.mp later
      obtain ⟨halike, haccepted⟩ := ih (h.serve hfirst).2 hrest
      refine ⟨halike, ?_⟩
      rcases h.perform_cases hfirst with ⟨l', hl, hm⟩ | ⟨refused, refused', hl, hm⟩
      · rw [serve_of_ok hl, serve_of_ok hm] at haccepted
        simp only [accepted, hl, hm]
      · rw [serve_of_error hl, serve_of_error hm] at haccepted
        simp only [accepted, hl, hm, haccepted]

end AlikeFrom

/-- A login looks recent only when a logout has succeeded. -/
theorem exists_logout_of_recent {grace : Nat} {requests : List Request}
    (h : ((authed grace).serveAll requests).phaseAt t = .recentlyLoggedOut) :
    ∃ r ∈ (authed grace).accepted requests, r.action = .logout := by
  have follows := (Follows.opening false grace).serveAll requests
  obtain ⟨r, hlast, hlogout, -⟩ := (follows.recent t).mp h
  have hmem := List.mem_of_getLast? hlast
  exact ⟨r, (List.mem_filter.mp hmem).1, hlogout⟩

/-- However a login came to be stored as recent, once its grace window is over it is as good as one that
has never been in the world.  Whatever is asked of the two, with no login or logout before that time,
the same requests succeed, and after each of them both are in the same phase at every time from then
on.  So the window stays closed until another logout succeeds. -/
theorem expired_window_is_forgotten (waits : Bool) (grace : Nat) (before : List Request)
    (now : Instant)
    (stored : ((opening waits grace).serveAll before).phase = .recentlyLoggedOut)
    (expired : ((opening waits grace).serveAll before).phaseAt now = .authed)
    (requests : List Request)
    (later : ∀ r ∈ requests, r.action.isTurn = true → now ≤ r.time) :
    let l := (opening waits grace).serveAll before
    let fresh := authed grace
    l.accepted requests = fresh.accepted requests ∧
      (∀ past r rest, requests = past ++ r :: rest →
        ((l.serveAll past).perform r.action r.time).isOk =
          ((fresh.serveAll past).perform r.action r.time).isOk) ∧
      ∀ past rest, requests = past ++ rest → ∀ t, now ≤ t →
        (l.serveAll past).phaseAt t = (fresh.serveAll past).phaseAt t ∧
          ((l.serveAll past).phaseAt t = .recentlyLoggedOut →
            ∃ r ∈ l.accepted past, r.action = .logout) := by
  intro l fresh
  have follows := (Follows.opening waits grace).serveAll before
  have hexpired : Expired now l := by
    rw [← phaseAt_ne_phase_iff, expired, stored]
    decide
  have hgrace : l.grace = grace := follows.grace
  have halike : AlikeFrom now l fresh := by
    have hwhole := AlikeFrom.expired hexpired
    rwa [hgrace] at hwhole
  refine ⟨(halike.serveAll later).2, ?_, ?_⟩
  · rintro past r rest rfl
    have hpast := halike.serveAll fun q hq => later q (List.mem_append_left _ hq)
    exact (hpast.1.serve (later r (by simp))).1
  · rintro past rest rfl t ht
    obtain ⟨hpast, haccepted⟩ :=
      halike.serveAll fun q hq => later q (List.mem_append_left rest hq)
    have hphase := hpast.phaseAt_eq ht
    refine ⟨hphase, fun hrecent => ?_⟩
    rw [haccepted]
    exact exists_logout_of_recent (hphase ▸ hrecent)

/-- The second visit is over before it is asked for anything, and a third one begins. -/
theorem expired_window_is_forgotten_thirdVisit :
    let before : List Request := [⟨.leaveQueue, 0⟩, ⟨.login, 1⟩, ⟨.logout, 2⟩, ⟨.login, 3⟩,
      ⟨.beginTransfer, 4⟩, ⟨.logout, 5⟩]
    let requests : List Request := [⟨.leaveQueue, 0⟩, ⟨.logout, 25⟩, ⟨.login, 30⟩, ⟨.logout, 40⟩]
    let l := (opening true 20).serveAll before
    l.phase = .recentlyLoggedOut ∧ l.phaseAt 25 = .authed ∧
      l.accepted requests = (authed 20).accepted requests ∧
      (l.serveAll requests).phaseAt 59 = ((authed 20).serveAll requests).phaseAt 59 := by
  intro before requests l
  have stored : l.phase = .recentlyLoggedOut := by decide
  have expired : l.phaseAt 25 = .authed := by decide
  have later : ∀ r ∈ requests, r.action.isTurn = true → 25 ≤ r.time := by decide
  obtain ⟨haccepted, -, hphase⟩ :=
    expired_window_is_forgotten true 20 before 25 stored expired requests later
  have hlast := hphase requests [] (List.append_nil requests).symm 59 (by decide)
  exact ⟨stored, expired, haccepted, hlast.1⟩

/-! ## Refusals -/

theorem login_eq_error {refused : Refused} (h : l.login now = .error refused) :
    refused = ⟨l.phaseAt now, .login⟩ := by
  unfold login at h
  split at h
  · cases h
  · cases h
  · exact (Except.error.inj h).symm

theorem logout_eq_error {refused : Refused} (h : l.logout now = .error refused) :
    refused = ⟨l.phase, .logout⟩ := by
  unfold logout at h
  split at h
  · cases h
  · cases h
  · exact (Except.error.inj h).symm

/-- Whatever was asked of a login before, a refused login names the phase that the session is in at
the time.  So does a refused logout as long as no grace window is over; once a logout came last and
its grace has passed, the refusal of another names the window, and the session is at its start. -/
theorem refusals_name_phase_or_past_window (waits : Bool) (grace : Nat) (requests : List Request)
    (now : Instant) :
    let past := (opening waits grace).accepted requests
    let l := (opening waits grace).serveAll requests
    (∀ refused, l.login now = .error refused → refused = ⟨l.phaseAt now, .login⟩) ∧
      ∀ refused, l.logout now = .error refused →
        refused.action = .logout ∧
          (refused.phase = l.phaseAt now ∨
            refused.phase = .recentlyLoggedOut ∧ l.phaseAt now = .authed) ∧
          (refused.phase ≠ l.phaseAt now ↔
            ∃ r, lastTurn past = some r ∧ r.action = .logout ∧ grace ≤ now - r.time) := by
  intro past l
  have follows : Follows grace _ past l := (Follows.opening waits grace).serveAll requests
  refine ⟨fun refused => login_eq_error, fun refused hrefused => ?_⟩
  obtain rfl := logout_eq_error hrefused
  refine ⟨rfl, ?_, ?_⟩
  · by_cases hsame : l.phaseAt now = l.phase
    · exact Or.inl hsame.symm
    · have hexpired := phaseAt_ne_phase_iff.mp hsame
      exact Or.inr ⟨hexpired.phase, hexpired.phaseAt_eq (Nat.le_refl now)⟩
  · rw [ne_comm, phaseAt_ne_phase_iff]
    exact follows.expired_iff

/-- A logout is asked for twice, and the second time the grace of the first has passed. -/
theorem refusals_name_phase_or_past_window_lateLogout :
    let requests : List Request := [⟨.login, 0⟩, ⟨.logout, 1000⟩]
    let l := (opening false 20000).serveAll requests
    l.logout 21000 = .error ⟨.recentlyLoggedOut, .logout⟩ ∧
      ∃ r, lastTurn ((opening false 20000).accepted requests) = some r ∧ r.action = .logout ∧
        20000 ≤ 21000 - r.time := by
  intro requests l
  have hrefused : l.logout 21000 = .error ⟨.recentlyLoggedOut, .logout⟩ := rfl
  obtain ⟨-, hlogout⟩ := refusals_name_phase_or_past_window false 20000 requests 21000
  obtain ⟨-, -, hiff⟩ := hlogout _ hrefused
  have hdiffers : Phase.recentlyLoggedOut ≠ l.phaseAt 21000 := by decide
  exact ⟨hrefused, hiff.mp hdiffers⟩

/-- A refused logout may name a phase that the session is no longer in. -/
theorem not_refusals_name_phase :
    ¬ ∀ (waits : Bool) (grace : Nat) (requests : List Request) (now : Instant) (refused : Refused),
      ((opening waits grace).serveAll requests).login now = .error refused ∨
          ((opening waits grace).serveAll requests).logout now = .error refused →
        refused.phase = ((opening waits grace).serveAll requests).phaseAt now := by
  intro h
  have hnames := h false 20000 [⟨.login, 0⟩, ⟨.logout, 1000⟩] 21000 ⟨.recentlyLoggedOut, .logout⟩
    (Or.inr rfl)
  exact absurd hnames (by decide)

end Login
end PacketDispatch
