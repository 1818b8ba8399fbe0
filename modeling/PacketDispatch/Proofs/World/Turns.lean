import PacketDispatch.Proofs.World.Prospects

/-!
# Logins and logouts on the production table

Two opcodes of the production table stand for the handlers that look at the phase of a client and
change it.  Both run on the world thread.  The handlers of all other opcodes are aloof.
-/

namespace PacketDispatch

/-- Stubbing leaves a key alone that has a handler. -/
theorem Bindings.resolve?_stubbed {σ : Type} {b : Bindings σ} {key : String} {h : Handler σ}
    (bound : b.resolve? key = some h) (rows : List Manifest.Row) :
    (b.stubbed rows).resolve? key = some h := by
  rw [stubbed, stubUnbound, resolve?_stubKeys, bound, Option.some_or]

namespace WorldSession

/-- The opcode with which a client enters the world. -/
def loginOpcode : Opcode := 0x03D

/-- The opcode with which a client leaves the world. -/
def logoutOpcode : Opcode := 0x04B

end WorldSession

namespace Manifest

/-- The row of logins. -/
def loginRow : Row :=
  .client WorldSession.loginOpcode "CMSG_PLAYER_LOGIN" .authed .world "player_login"

/-- The row of logouts. -/
def logoutRow : Row :=
  .client WorldSession.logoutOpcode "CMSG_LOGOUT_REQUEST" .loggedIn .world "logout_request"

/-- A key that has two bytes in common with one of the two that look at the phase. -/
def turnLike (key : String) : Bool :=
  keyByte 1 key == keyByte 1 "player_login" && keyByte 10 key == keyByte 10 "player_login" ||
    keyByte 4 key == keyByte 4 "logout_request" && keyByte 7 key == keyByte 7 "logout_request"

theorem turnLike_of_mem_phaseKeys {key : String} (h : key ∈ WorldSession.phaseKeys) :
    turnLike key = true := by
  simp only [WorldSession.phaseKeys, List.mem_cons, List.not_mem_nil, or_false] at h
  rcases h with rfl | rfl <;> simp [turnLike]

/-- Two bytes are enough to tell the two keys from all others. -/
theorem filter_turnLike_production :
    (production.filter fun r => r.key?.any turnLike) = [loginRow, logoutRow] := by
  decide +kernel

end Manifest

/-- A table that calls the handlers of logins and logouts for the messages of these two opcodes, on
the world thread, and aloof handlers for all others. -/
structure Table.TakesTurns (t : Table WorldSession) : Prop extends Steady t where
  login : ∃ d, t.lookup WorldSession.loginOpcode = some d ∧ d.lane = .world ∧
    d.handler = Handler.raw "player_login" WorldSession.onPlayerLogin
  logout : ∃ d, t.lookup WorldSession.logoutOpcode = some d ∧ d.lane = .world ∧
    d.handler = Handler.raw "logout_request" WorldSession.onLogoutRequest
  others : ∀ id d, t.lookup id = some d → id ≠ WorldSession.loginOpcode →
    id ≠ WorldSession.logoutOpcode → d.handler.Makes Body.Aloof

namespace WorldSession

open Manifest

/-- A row of the world thread is found with the handler that its key was bound to before stubs were
added. -/
theorem exists_lookup_opening {r : Row} (hr : r ∈ production) {requirement : Requirement}
    {key : String} (hkind : r.kind = .client requirement .world key) {h : Handler WorldSession}
    (bound : boundHandlers.1.resolve? key = some h) :
    ∃ d, opening.table.lookup r.id = some d ∧ d.lane = .world ∧ d.handler = h := by
  have hresolve : bindings.resolve? key = some h := Bindings.resolve?_stubbed bound production
  have hbound : r.Bound bindings := by
    refine Row.unbound?_eq_none_iff.mp ?_
    simp [Row.unbound?, Row.key?, hkind, Bindings.contains, hresolve]
  obtain ⟨d, hlookup, describes⟩ :=
    (wellNumbered_production.installed_iff_bound bindings hr).mpr hbound
  obtain ⟨hlane, hhandler⟩ := describes.client _ _ _ hkind
  refine ⟨d, ?_, hlane, Option.some.inj (hhandler.symm.trans hresolve)⟩
  rw [opening, load_table]
  exact hlookup

theorem takesTurns_opening : opening.table.TakesTurns where
  toSteady := steady_opening
  login := by
    have hrow : loginRow ∈ production.filter fun r => r.key?.any turnLike := by
      rw [filter_turnLike_production]
      exact List.mem_cons_self
    exact exists_lookup_opening (List.mem_filter.mp hrow).1 rfl rfl
  logout := by
    have hrow : logoutRow ∈ production.filter fun r => r.key?.any turnLike := by
      rw [filter_turnLike_production]
      exact List.mem_cons_of_mem _ List.mem_cons_self
    exact exists_lookup_opening (List.mem_filter.mp hrow).1 rfl rfl
  others := by
    intro id d hlookup hlogin hlogout
    rw [opening, load_table] at hlookup
    obtain ⟨r, hr, -, rfl, describes⟩ :=
      (wellNumbered_production.lookup_eq_some_iff bindings).mp hlookup
    cases hkind : r.kind with
    | server requirement =>
        rw [(describes.server _ hkind).2]
        exact (behaves_discard "" _ _ _).aloof (by decide)
    | client requirement lane key =>
        obtain ⟨-, hresolve⟩ := describes.client _ _ _ hkind
        apply (behaves_bindings key d.handler hresolve).aloof
        intro hkey
        have hturn : r ∈ production.filter fun r => r.key?.any turnLike := by
          refine List.mem_filter.mpr ⟨hr, ?_⟩
          simpa [Row.key?, hkind] using turnLike_of_mem_phaseKeys hkey
        rw [filter_turnLike_production] at hturn
        rcases List.mem_cons.mp hturn with rfl | hsecond
        · exact hlogin rfl
        · obtain rfl := List.mem_singleton.mp hsecond
          exact hlogout rfl

/-! ## What the two handlers come to -/

variable {c : Call WorldSession} {env : Envelope}

/-- A login fails for a client that is in the world, or in the queue. -/
theorem isOk_resultIn_login (h : c.body = onPlayerLogin env) (phase : Phase) :
    (c.resultIn phase).isOk = true ↔ phase = .authed ∨ phase = .recentlyLoggedOut := by
  rw [Call.resultIn, h]
  cases phase <;> simp [onPlayerLogin, perform, Login.perform, login_eq_match, standIn, tells, fails,
    Except.map, Ending.isolated, Except.isOk, Except.toBool]

theorem isOk_resultIn_logout (h : c.body = onLogoutRequest env) (phase : Phase) :
    (c.resultIn phase).isOk = true ↔ phase = .loggedIn ∨ phase = .transfer := by
  rw [Call.resultIn, h]
  cases phase <;> simp [onLogoutRequest, perform, Login.perform, Login.logout, standIn, tells, fails,
    Except.map, Ending.isolated, Except.isOk, Except.toBool]

theorem phaseAfter_login (h : c.body = onPlayerLogin env) (phase : Phase) :
    c.phaseAfter phase = if (c.resultIn phase).isOk then .loggedIn else phase := by
  rw [Call.resultIn, Call.phaseAfter, h]
  cases phase <;> rfl

theorem phaseAfter_logout (h : c.body = onLogoutRequest env) (phase : Phase) :
    c.phaseAfter phase = if (c.resultIn phase).isOk then .recentlyLoggedOut else phase := by
  rw [Call.resultIn, Call.phaseAfter, h]
  cases phase <;> rfl

end WorldSession
end PacketDispatch
