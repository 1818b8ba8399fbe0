import PacketDispatch.Engine.Basic

/-!
# The journal and the presence of sessions

Log lines are written on every path through the engine; they change the journal and nothing else.
Whether a session is there is decided by its seat alone, and calls change the values of sessions but
never who is there.
-/

namespace PacketDispatch

/-! ## The journal -/

namespace Engine

variable {σ : Type}

@[simp] theorem note_table (e : Engine σ) (lines : List Line) :
    (e.note lines).table = e.table := rfl

@[simp] theorem note_scheduler (e : Engine σ) (lines : List Line) :
    (e.note lines).scheduler = e.scheduler := rfl

@[simp] theorem note_pool (e : Engine σ) (lines : List Line) :
    (e.note lines).pool = e.pool := rfl

@[simp] theorem note_queue (e : Engine σ) (lines : List Line) :
    (e.note lines).queue = e.queue := rfl

@[simp] theorem note_dispatched (e : Engine σ) (lines : List Line) :
    (e.note lines).dispatched = e.dispatched := rfl

@[simp] theorem note_seats (e : Engine σ) (lines : List Line) :
    (e.note lines).scene.seats = e.scene.seats := rfl

@[simp] theorem note_now (e : Engine σ) (lines : List Line) :
    (e.note lines).scene.now = e.scene.now := rfl

@[simp] theorem note_tally (e : Engine σ) (lines : List Line) :
    (e.note lines).scene.tally = e.scene.tally := rfl

@[simp] theorem note_calls (e : Engine σ) (lines : List Line) :
    (e.note lines).scene.calls = e.scene.calls := rfl

theorem note_note (e : Engine σ) (first second : List Line) :
    (e.note first).note second = e.note (first ++ second) := by
  simp [note, Scene.writeLines, Scene.write]

/-- Installing a table changes the table at most, and is noted. -/
theorem exists_install_eq_note (e : Engine σ) (t : Table σ) :
    ∃ table lines, (e.install t).2 = { e with table := table }.note lines := by
  unfold install
  split
  · exact ⟨e.table, _, rfl⟩
  · exact ⟨some t, _, rfl⟩

end Engine

/-! ## Sessions that are there -/

namespace Scene

variable {σ : Type}

/-- Who is there: for each seat whether its client is connected and how many pool threads are busy
with it.  The values of the sessions do not matter. -/
def presence (s : Scene σ) : List (Bool × Nat) :=
  s.seats.map fun seat => (seat.connected, seat.holders)

theorem length_presence (s : Scene σ) :
    s.presence.length = s.seats.length := by
  simp [presence]

theorem alive_eq_presence (s : Scene σ) (ref : SessionRef) :
    s.alive ref = ((s.presence[ref]?).map fun p => p.1 || p.2 != 0).getD false := by
  cases h : s.seats[ref]? with
  | none => simp [alive, presence, h]
  | some seat => simp [alive, presence, h, Seat.alive]

theorem alive_congr {s s' : Scene σ} (h : s'.presence = s.presence) (ref : SessionRef) :
    s'.alive ref = s.alive ref := by
  rw [alive_eq_presence, alive_eq_presence, h]

theorem length_seats_congr {s s' : Scene σ} (h : s'.presence = s.presence) :
    s'.seats.length = s.seats.length := by
  rw [← length_presence, ← length_presence, h]

theorem exists_session_of_connected {s : Scene σ} {ref : SessionRef}
    (h : s.connected ref = true) :
    ∃ session, s.session? ref = some session := by
  cases hseat : s.seats[ref]? with
  | none => simp [connected, hseat] at h
  | some seat => exact ⟨seat.session, by simp [session?, hseat]⟩

theorem exists_session_of_alive {s : Scene σ} {ref : SessionRef}
    (h : s.alive ref = true) :
    ∃ session, s.session? ref = some session := by
  cases hseat : s.seats[ref]? with
  | none => simp [alive, hseat] at h
  | some seat => exact ⟨seat.session, by simp [session?, hseat]⟩

theorem lt_length_of_connected {s : Scene σ} {ref : SessionRef}
    (h : s.connected ref = true) :
    ref < s.seats.length := by
  cases hseat : s.seats[ref]? with
  | none => simp [connected, hseat] at h
  | some seat => exact (List.getElem?_eq_some_iff.mp hseat).1

@[simp] theorem recordJob_calls (s : Scene σ) (ended : JobEnd HandlerError) :
    (s.recordJob ended).calls = s.calls := rfl

@[simp] theorem recordJob_tally (s : Scene σ) (ended : JobEnd HandlerError) :
    (s.recordJob ended).tally = s.tally.recordJob ended := rfl

@[simp] theorem presence_recordJob (s : Scene σ) (ended : JobEnd HandlerError) :
    (s.recordJob ended).presence = s.presence := rfl

/-! ### Coming and going -/

theorem presence_modifySeat (s : Scene σ) (ref : SessionRef)
    {f : Seat σ → Seat σ} {g : Bool × Nat → Bool × Nat}
    (h : ∀ seat, ((f seat).connected, (f seat).holders) = g (seat.connected, seat.holders)) :
    (s.modifySeat ref f).presence = s.presence.modify ref g := by
  apply List.ext_getElem?
  intro i
  simp only [presence, modifySeat, List.getElem?_map, List.getElem?_modify]
  by_cases hi : ref = i <;> cases s.seats[i]? <;> simp [hi, h]

theorem presence_connect (s : Scene σ) (session : σ) :
    (s.connect session).2.presence = s.presence ++ [(true, 0)] := by
  simp [connect, presence]

theorem presence_disconnect (s : Scene σ) (ref : SessionRef) :
    (s.disconnect ref).presence = s.presence.modify ref fun p => (false, p.2) :=
  s.presence_modifySeat ref fun _ => rfl

theorem presence_hold (s : Scene σ) (ref : SessionRef) :
    (s.hold ref).presence = s.presence.modify ref fun p => (p.1, p.2 + 1) :=
  s.presence_modifySeat ref fun _ => rfl

theorem presence_letGo (s : Scene σ) (ref : SessionRef) :
    (s.letGo ref).presence = s.presence.modify ref fun p => (p.1, p.2 - 1) :=
  s.presence_modifySeat ref fun _ => rfl

@[simp] theorem length_seats_hold (s : Scene σ) (ref : SessionRef) :
    (s.hold ref).seats.length = s.seats.length := by
  simp [hold, modifySeat]

@[simp] theorem hold_calls (s : Scene σ) (ref : SessionRef) :
    (s.hold ref).calls = s.calls := rfl

@[simp] theorem hold_tally (s : Scene σ) (ref : SessionRef) :
    (s.hold ref).tally = s.tally := rfl

@[simp] theorem length_seats_letGo (s : Scene σ) (ref : SessionRef) :
    (s.letGo ref).seats.length = s.seats.length := by
  simp [letGo, modifySeat]

@[simp] theorem letGo_calls (s : Scene σ) (ref : SessionRef) :
    (s.letGo ref).calls = s.calls := rfl

@[simp] theorem letGo_tally (s : Scene σ) (ref : SessionRef) :
    (s.letGo ref).tally = s.tally := rfl

/-- A new client changes nothing for the sessions before it. -/
theorem alive_connect_of_lt {s : Scene σ} {ref : SessionRef} (session : σ)
    (h : ref < s.seats.length) :
    (s.connect session).2.alive ref = s.alive ref := by
  rw [alive_eq_presence, alive_eq_presence, presence_connect,
    List.getElem?_append_left (by simpa [length_presence] using h)]

theorem alive_disconnect_eq_false {s : Scene σ} {other : SessionRef} (ref : SessionRef)
    (h : s.alive other = false) :
    (s.disconnect ref).alive other = false := by
  rw [alive_eq_presence] at h ⊢
  rw [presence_disconnect, List.getElem?_modify]
  by_cases hi : ref = other <;> cases hp : s.presence[other]? <;> simp_all

theorem alive_letGo_eq_false {s : Scene σ} {other : SessionRef} (ref : SessionRef)
    (h : s.alive other = false) :
    (s.letGo ref).alive other = false := by
  rw [alive_eq_presence] at h ⊢
  rw [presence_letGo, List.getElem?_modify]
  by_cases hi : ref = other <;> cases hp : s.presence[other]? <;> simp_all

/-- A pool thread keeps a session that is there, and changes nothing for the others. -/
theorem alive_hold {s : Scene σ} {ref : SessionRef} (h : s.alive ref = true)
    (other : SessionRef) :
    (s.hold ref).alive other = s.alive other := by
  rw [alive_eq_presence] at h
  rw [alive_eq_presence, alive_eq_presence, presence_hold, List.getElem?_modify]
  by_cases hi : ref = other
  · subst hi
    cases hp : s.presence[ref]? <;> simp_all
  · simp [hi]

end Scene
end PacketDispatch
