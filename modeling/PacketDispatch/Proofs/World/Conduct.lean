import PacketDispatch.Proofs.Handler.Preparation
import PacketDispatch.Proofs.Manifest.Production
import PacketDispatch.World.Handlers

/-!
# How the handlers of the world behave

No handler of the world asks who its client is.  What a call comes to depends on the last phase
that the client entered, and not on the time; and only the handlers of logins and logouts look at
that phase or change it.  Both run on the world thread, so whatever runs on the pool comes to the
same at any moment.
-/

namespace PacketDispatch

/-! ## Handlers and bindings that keep to a rule -/

/-- Every call that a handler makes has a body that keeps to a rule. -/
def Handler.Makes {σ : Type} (rule : Body σ → Prop) (h : Handler σ) : Prop :=
  ∀ env c, h.prepare env = .ok c → rule c.body

/-- Every key stands for a handler that keeps to a rule. -/
def Bindings.Keeps {σ : Type} (rule : String → Handler σ → Prop) (b : Bindings σ) : Prop :=
  ∀ key h, b.resolve? key = some h → rule key h

namespace Handler.Makes

variable {σ : Type} {rule : Body σ → Prop}

theorem raw {name : String} {body : Envelope → Body σ} (h : ∀ env, rule (body env)) :
    Makes rule (Handler.raw name body) := by
  intro env c hprepare
  obtain rfl : _ = c := Except.ok.inj hprepare
  exact h env

theorem typed {π : Type} {name : String} {read : Wire.Reader π} {body : π → Body σ}
    (h : ∀ packet, rule (body packet)) : Makes rule (Handler.typed name read body) := by
  intro env c hprepare
  rcases hread : read.run env.payload with ⟨result, cursor⟩
  cases result with
  | error fault => simp [Handler.typed, hread] at hprepare
  | ok packet =>
      simp only [Handler.typed, hread] at hprepare
      obtain rfl : _ = c := Except.ok.inj hprepare
      exact h packet

theorem imp {rule' : Body σ → Prop} {h : Handler σ} (makes : Makes rule h)
    (weaker : ∀ body, rule body → rule' body) : Makes rule' h :=
  fun env c hprepare => weaker c.body (makes env c hprepare)

end Handler.Makes

namespace Bindings.Keeps

variable {σ : Type} {rule : String → Handler σ → Prop} {b : Bindings σ}

theorem insert (h : Keeps rule b) {key : String} {handler : Handler σ} (hrule : rule key handler) :
    Keeps rule (b.insert key handler) := by
  intro other found hresolve
  have hlookup := lookup_put key other handler b.entries
  by_cases hkey : other = key
  · rw [if_pos hkey] at hlookup
    obtain rfl : handler = found := Option.some.inj (hlookup.symm.trans hresolve)
    exact hkey ▸ hrule
  · rw [if_neg hkey] at hlookup
    exact h other found (hlookup.symm.trans hresolve)

theorem bindAll (h : Keeps rule b) (entries : List (String × Handler σ))
    (hrule : ∀ entry ∈ entries, rule entry.1 entry.2) : Keeps rule (b.bindAll entries).1 := by
  induction entries generalizing b with
  | nil => exact h
  | cons entry rest ih =>
      exact ih (h.insert (hrule entry List.mem_cons_self))
        fun later hlater => hrule later (List.mem_cons_of_mem entry hlater)

theorem stubKeys (h : Keeps rule b) (keys : List String)
    (hrule : ∀ key, rule key (Handler.stub key)) : Keeps rule (b.stubKeys keys).1 :=
  stubKeys_induction (fun _ key hb _ => hb.insert (hrule key)) h keys

theorem stubbed (h : Keeps rule b) (rows : List Manifest.Row)
    (hrule : ∀ key, rule key (Handler.stub key)) : Keeps rule (b.stubbed rows) :=
  h.stubKeys _ hrule

end Bindings.Keeps

/-! ## Steady and aloof bodies -/

/-- A client of which nothing is known but the last phase that it entered. -/
def WorldSession.standIn (phase : Phase) : WorldSession :=
  ⟨SessionId.ofNumber 0, 0, ⟨phase, none, 0⟩⟩

/-- How a call ends against a client in a phase. -/
def Call.resultIn (c : Call WorldSession) (phase : Phase) : Except HandlerError Unit :=
  (c.body 0 (.standIn phase)).ending.isolated

/-- The last phase that a client in a phase has entered after a call. -/
def Call.phaseAfter (c : Call WorldSession) (phase : Phase) : Phase :=
  (c.body 0 (.standIn phase)).session.login.phase

/-- A body goes by the last phase that its client entered: neither the time nor anything else about
the client makes a difference for how it ends and for the phase that it leaves. -/
structure Body.Steady (body : Body WorldSession) : Prop where
  ending : ∀ now s, (body now s).ending = (body 0 (.standIn s.login.phase)).ending
  phase : ∀ now s, (body now s).session.login.phase =
    (body 0 (.standIn s.login.phase)).session.login.phase

/-- A body ends in the same way against every client, and leaves its phase alone. -/
structure Body.Aloof (body : Body WorldSession) : Prop where
  ending : ∀ now s now' s', (body now s).ending = (body now' s').ending
  phase : ∀ now s, (body now s).session.login.phase = s.login.phase

theorem Body.Aloof.steady {body : Body WorldSession} (h : body.Aloof) : body.Steady where
  ending := fun now s => h.ending now s 0 (.standIn s.login.phase)
  phase := fun now s => (h.phase now s).trans (h.phase 0 (.standIn s.login.phase)).symm

namespace Call

variable {c : Call WorldSession}

theorem isolated_of_steady (h : c.body.Steady) (now : Instant) (s : WorldSession) :
    (c.body now s).ending.isolated = c.resultIn s.login.phase :=
  congrArg Ending.isolated (h.ending now s)

theorem phase_of_steady (h : c.body.Steady) (now : Instant) (s : WorldSession) :
    (c.body now s).session.login.phase = c.phaseAfter s.login.phase :=
  h.phase now s

theorem resultIn_of_aloof (h : c.body.Aloof) (phase phase' : Phase) :
    c.resultIn phase = c.resultIn phase' :=
  congrArg Ending.isolated (h.ending 0 _ 0 _)

theorem phaseAfter_of_aloof (h : c.body.Aloof) (phase : Phase) : c.phaseAfter phase = phase :=
  h.phase 0 (.standIn phase)

end Call

/-! ## The handlers of the world -/

namespace WorldSession

/-- The keys of the two handlers that look at the phase. -/
def phaseKeys : List String :=
  ["logout_request", "player_login"]

/-- A handler makes steady calls, and aloof ones unless its key is one of the two. -/
structure Behaves (key : String) (h : Handler WorldSession) : Prop where
  steady : h.Makes Body.Steady
  aloof : key ∉ phaseKeys → h.Makes Body.Aloof

theorem Behaves.of_aloof {key : String} {h : Handler WorldSession} (aloof : h.Makes Body.Aloof) :
    Behaves key h :=
  ⟨aloof.imp fun _ => Body.Aloof.steady, fun _ => aloof⟩

theorem behaves_discard (key name : String) (level : Level) (notice : Envelope → String) :
    Behaves key (Handler.discard name level notice) :=
  .of_aloof (.raw fun _ => ⟨fun _ _ _ _ => rfl, fun _ _ => rfl⟩)

theorem aloof_onCharDelete (p : Wire.CharDelete) : (onCharDelete p).Aloof := by
  by_cases hguid : p.guid = 0
  · constructor <;> intros <;> simp [onCharDelete, hguid, fails]
  · constructor <;> intros <;> simp [onCharDelete, hguid, tells]

theorem aloof_onTogglePvp (p : Wire.TogglePvp) : (onTogglePvp p).Aloof := by
  obtain ⟨_ | _ | _⟩ := p <;> exact ⟨fun _ _ _ _ => rfl, fun _ _ => rfl⟩

/-- A login goes by the last phase entered: the end of a grace window changes the phase of a client
that may log in anyway. -/
theorem login_eq_match (l : Login) (now : Instant) :
    l.login now =
      match l.phase with
      | .authed | .recentlyLoggedOut => .ok { l with phase := .loggedIn, loggedOutAt := none }
      | phase => .error ⟨phase, .login⟩ := by
  obtain ⟨phase, loggedOutAt, grace⟩ := l
  cases phase with
  | recentlyLoggedOut =>
      cases loggedOutAt with
      | none => rfl
      | some time =>
          by_cases hover : grace ≤ now - time <;> simp [Login.login, Login.phaseAt, hover]
  | queued | authed | loggedIn | transfer => rfl

theorem steady_onPlayerLogin (env : Envelope) : (onPlayerLogin env).Steady := by
  constructor <;> rintro now ⟨id, account, phase, loggedOutAt, grace⟩ <;> cases phase <;>
    simp [onPlayerLogin, standIn, perform, Login.perform, login_eq_match, Except.map, fails, tells]

theorem steady_onLogoutRequest (env : Envelope) : (onLogoutRequest env).Steady := by
  constructor <;> rintro now ⟨id, account, phase, loggedOutAt, grace⟩ <;> cases phase <;> rfl

theorem behaves_of_mem_handlers {h : Handler WorldSession} (hmem : h ∈ handlers) :
    Behaves h.name h := by
  simp only [handlers, List.mem_cons, List.not_mem_nil, or_false] at hmem
  rcases hmem with rfl | rfl | rfl | rfl | rfl | rfl | rfl
  · exact .of_aloof (.typed fun _ => ⟨fun _ _ _ _ => rfl, fun _ _ => rfl⟩)
  · exact .of_aloof (.typed aloof_onCharDelete)
  · exact .of_aloof (.typed fun _ => ⟨fun _ _ _ _ => rfl, fun _ _ => rfl⟩)
  · exact .of_aloof (.typed fun _ => ⟨fun _ _ _ _ => rfl, fun _ _ => rfl⟩)
  · exact .of_aloof (.typed aloof_onTogglePvp)
  · exact ⟨.raw steady_onLogoutRequest, fun hkey => absurd List.mem_cons_self hkey⟩
  · exact ⟨.raw steady_onPlayerLogin,
      fun hkey => absurd (List.mem_cons_of_mem _ List.mem_cons_self) hkey⟩

/-- The bindings of the world keep to a rule of its own handlers and of those that only write a
line. -/
theorem keeps_bindings {rule : String → Handler WorldSession → Prop}
    (discards : ∀ key name level notice, rule key (Handler.discard name level notice))
    (own : ∀ h ∈ handlers, rule h.name h) : bindings.Keeps rule := by
  have hinitial : (Bindings.initial : Bindings WorldSession).Keeps rule := by
    intro key h hresolve
    rw [Bindings.resolve?, Bindings.initial, Bindings.lookup_cons_eq_ite,
      Bindings.lookup_cons_eq_ite] at hresolve
    by_cases hnull : key = Manifest.nullKey
    · rw [if_pos hnull] at hresolve
      exact Option.some.inj hresolve ▸ discards key _ _ _
    · by_cases hearly : key = Manifest.earlyKey
      · rw [if_neg hnull, if_pos hearly] at hresolve
        exact Option.some.inj hresolve ▸ discards key _ _ _
      · rw [if_neg hnull, if_neg hearly] at hresolve
        cases hresolve
  have hbound : boundHandlers.1.Keeps rule := by
    refine hinitial.bindAll _ fun entry hentry => ?_
    obtain ⟨h, hmem, rfl⟩ := List.mem_map.mp hentry
    exact own h hmem
  exact hbound.stubbed Manifest.production fun key => discards key key _ _

theorem behaves_bindings : bindings.Keeps Behaves :=
  keeps_bindings behaves_discard fun _ => behaves_of_mem_handlers

end WorldSession

/-! ## The table of the world -/

/-- What a table calls is steady, and what it calls on the pool is aloof. -/
structure Table.Steady (t : Table WorldSession) : Prop where
  steady : ∀ id d, t.lookup id = some d → d.handler.Makes Body.Steady
  aloof : ∀ id d, t.lookup id = some d → d.lane = .pool → d.handler.Makes Body.Aloof

namespace Manifest

/-- The byte at a place of a key. -/
def keyByte (place : Nat) (key : String) : Option UInt8 :=
  key.toByteArray.data.toList[place]?

/-- A row of the pool whose key has a byte in common with one of the two, at a place where the keys
of the pool have others. -/
def Row.phaseLike (r : Row) : Bool :=
  match r.kind with
  | .client _ .pool key =>
      keyByte 2 key == keyByte 2 "logout_request" || keyByte 1 key == keyByte 1 "player_login"
  | _ => false

/-- One byte of each key is enough to tell the keys of the pool from the two. -/
theorem filter_phaseLike_production : production.filter Row.phaseLike = [] := by
  decide +kernel

theorem not_mem_phaseKeys_of_pool {r : Row} (hr : r ∈ production) {requirement : Requirement}
    {key : String} (hkind : r.kind = .client requirement .pool key) :
    key ∉ WorldSession.phaseKeys := by
  intro hmem
  have hlike := List.filter_eq_nil_iff.mp filter_phaseLike_production r hr
  simp only [WorldSession.phaseKeys, List.mem_cons, List.not_mem_nil, or_false] at hmem
  rcases hmem with rfl | rfl <;> simp [Row.phaseLike, hkind] at hlike

end Manifest

theorem WorldSession.steady_opening : WorldSession.opening.table.Steady := by
  have behaves := WorldSession.behaves_bindings
  rw [WorldSession.opening, Manifest.load_table]
  constructor
  · intro id d hlookup
    obtain ⟨r, hr, -, -, describes⟩ :=
      (Manifest.wellNumbered_production.lookup_eq_some_iff WorldSession.bindings).mp hlookup
    cases hkind : r.kind with
    | client requirement lane key =>
        exact (behaves key d.handler (describes.client _ _ _ hkind).2).steady
    | server requirement =>
        rw [(describes.server _ hkind).2]
        exact (WorldSession.behaves_discard "" _ _ _).steady
  · intro id d hlookup hlane
    obtain ⟨r, hr, -, -, describes⟩ :=
      (Manifest.wellNumbered_production.lookup_eq_some_iff WorldSession.bindings).mp hlookup
    cases hkind : r.kind with
    | client requirement lane key =>
        obtain ⟨hsame, hresolve⟩ := describes.client _ _ _ hkind
        obtain rfl : lane = .pool := hsame.symm.trans hlane
        exact (behaves key d.handler hresolve).aloof
          (Manifest.not_mem_phaseKeys_of_pool hr hkind)
    | server requirement =>
        rw [(describes.server _ hkind).1] at hlane
        cases hlane

end PacketDispatch
