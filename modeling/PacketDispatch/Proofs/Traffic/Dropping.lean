import PacketDispatch.Proofs.Table.Sentinel
import PacketDispatch.Proofs.Traffic.Reckoning
import Mathlib.Data.List.Count

/-!
# Drops of single opcodes are exact

A client may send any number as an opcode.  At every moment the drops of single opcodes are those
of the dispatches that are through: an opcode that a table could hold has an entry once a message
with it was dropped, for whatever reason, and the entry says how often.  A message with any other
opcode is unknown to every table, so its drop is one of the unknown ones and has no entry.
-/

namespace PacketDispatch

/-- What a message came back with: its opcode and its outcome. -/
def Arrival.answer (a : Arrival) : Opcode × Outcome :=
  (a.envelope.opcode, a.outcome)

namespace Traffic

variable {σ : Type} {s s' : Traffic σ}

/-- The dispatches that are through, with what they came back with: all that arrived but for those
under way. -/
def returned (s : Traffic σ) : List (Opcode × Outcome) :=
  (s.arrivals.map Arrival.answer).diff s.underway

/-! ## What is known of every message that arrived -/

/-- The dispatches under way are among those that arrived. Each message found a table, and was
dropped as unknown if the table does not have its opcode. -/
structure Entered (s : Traffic σ) : Prop where
  underway : s.underway.Subperm (s.arrivals.map Arrival.answer)
  unknown : ∀ a ∈ s.arrivals, ∃ t, s.engine.table = some t ∧
    (t.lookup a.envelope.opcode = none → a.outcome = .dropped (.unknownOpcode a.envelope.opcode))

namespace Entered

theorem start (e : Engine σ) : Entered (start e) :=
  ⟨List.Subperm.refl [], nofun⟩

theorem of_same (h : Entered s) (table : s'.engine.table = s.engine.table)
    (underway : s'.underway = s.underway) (arrivals : s'.arrivals = s.arrivals) :
    Entered s' := by
  refine ⟨?_, ?_⟩
  · rw [underway, arrivals]
    exact h.underway
  · rw [table, arrivals]
    exact h.unknown

/-- A message that arrives finds a table, and leaves it where it is. -/
theorem arrive (h : Entered s) (phase : Phase) (ref : SessionRef) (env : Envelope) :
    Entered (s.arrive phase ref env) := by
  rcases s.arrive_cases phase ref env with hsame | ⟨outcome, hbegins⟩
  · rw [hsame]
    exact h
  · generalize s.arrive phase ref env = s' at hbegins ⊢
    have harrive := hbegins.engine
    cases installed : s.engine.table with
    | none => simp [Engine.arrive, installed] at harrive
    | some t =>
        have htable : s'.engine.table = some t :=
          (Engine.admits_of_arrive installed harrive).table.trans installed
        refine ⟨?_, ?_⟩
        · rw [hbegins.underway, hbegins.arrivals, List.map_append]
          exact (List.subperm_append_right _).mpr h.underway
        · intro a ha
          refine ⟨t, htable, fun hlookup => ?_⟩
          rw [hbegins.arrivals] at ha
          rcases List.mem_append.mp ha with hold | hnew
          · obtain ⟨t', installed', hunknown⟩ := h.unknown a hold
            obtain rfl := Option.some.inj (installed.symm.trans installed')
            exact hunknown hlookup
          · obtain rfl := List.mem_singleton.mp hnew
            obtain ⟨-, houtcome⟩ := Engine.route_of_arrive installed harrive
            have hunknown : t.lookup env.opcode = none := hlookup
            rw [Engine.route_of_stop (Table.decide_of_unknown hunknown)] at houtcome
            exact houtcome.symm

theorem settle (h : Entered s) (place : Nat) : Entered (s.settle place) := by
  unfold Traffic.settle
  split
  · exact h
  · refine ⟨?_, h.unknown⟩
    exact (List.eraseIdx_sublist s.underway place).subperm.trans h.underway

theorem next (h : Entered s) : Entered s.next := by
  rcases s.next_cases with hsame | ⟨j, ended, htakes⟩
  · rw [hsame]
    exact h
  · exact h.of_same htakes.table htakes.underway htakes.arrivals

/-- The first table comes before the first message; a later one is handed back. -/
theorem install (h : Entered s) (t : Table σ) :
    Entered (s.mapEngine fun e => (e.install t).2) := by
  cases installed : s.engine.table with
  | some t' =>
      refine h.of_same ?_ rfl rfl
      rw [mapEngine_engine]
      simp only [Engine.install, installed, Engine.note]
  | none =>
      refine ⟨h.underway, fun a ha => ?_⟩
      obtain ⟨t', installed', -⟩ := h.unknown a ha
      rw [installed] at installed'
      cases installed'

theorem startPooled (h : Entered s) (place : Nat) :
    Entered (s.mapEngine fun e => e.startPooled place) := by
  rcases s.engine.startPooled_cases place with hsame | ⟨j, ended, hstarts⟩
  · simpa only [mapEngine, hsame] using h
  · exact h.of_same hstarts.table rfl rfl

theorem finish (h : Entered s) (place : Nat) : Entered (s.finish place) := by
  rcases s.engine.finishPooled_cases place with ⟨-, hsame⟩ | ⟨r, pool, -, hfinishes⟩
  · refine h.of_same ?_ rfl rfl
    rw [finish_engine, hsame]
  · exact h.of_same hfinishes.table rfl rfl

theorem lasts : Lasts (@Entered σ) where
  note _ _ h := h.of_same rfl rfl rfl
  install _ t h := h.install t
  connect _ _ h := h.of_same rfl rfl rfl
  disconnect _ _ h := h.of_same rfl rfl rfl
  arrive _ phase ref env h := h.arrive phase ref env
  settle _ place h := h.settle place
  next _ h := h.next
  closeQueue _ h := h.of_same rfl rfl rfl
  closePool _ h := h.of_same rfl rfl rfl
  startPooled _ place h := h.startPooled place
  finish _ place h := h.finish place
  advance _ _ h := h.of_same rfl rfl rfl

/-- What arrived is under way or through. -/
theorem countP_arrivals (h : Entered s) (kind : Opcode × Outcome → Bool) :
    (s.arrivals.countP fun a => kind a.answer) =
      s.underway.countP kind + s.returned.countP kind := by
  have hdiff := List.countP_diff h.underway kind
  have hle := h.underway.countP_le kind
  have hmap : (s.arrivals.map Arrival.answer).countP kind =
      s.arrivals.countP fun a => kind a.answer := List.countP_map
  rw [returned, hdiff, ← hmap]
  omega

end Entered

/-! ## What the tally says of them -/

variable (tallied : Tallied s) (entered : Entered s)

include tallied entered

theorem count_eq_countP_returned {k : Counter}
    (outcomes : ∀ ended : JobEnd HandlerError, k ≠ ended.counter) :
    s.engine.scene.tally.count k = s.returned.countP fun p => p.2.moves k := by
  have hcounts := tallied.counts k
  have harrivals : s.entries k =
      s.underway.countP (fun p => p.2.moves k) + s.returned.countP fun p => p.2.moves k :=
    (s.entries_eq_countP outcomes).trans (entered.countP_arrivals fun p => p.2.moves k)
  omega

theorem dropsOf_eq_countP_returned (id : Opcode) :
    s.engine.scene.tally.dropsOf id = s.returned.countP fun p => p.2.dropsFor p.1 id := by
  have hdrops := tallied.drops id
  have harrivals := entered.countP_arrivals fun p => p.2.dropsFor p.1 id
  simp only [Arrival.answer] at harrivals
  omega

theorem dropped_eq_countP_returned :
    s.engine.scene.tally.dropped = s.returned.countP fun p => p.2.isDropped := by
  rw [Outcome.countP_isDropped s.returned Prod.snd,
    ← count_eq_countP_returned tallied entered (fun ended => by cases ended <;> nofun),
    ← count_eq_countP_returned tallied entered (fun ended => by cases ended <;> nofun),
    ← count_eq_countP_returned tallied entered (fun ended => by cases ended <;> nofun),
    ← count_eq_countP_returned tallied entered (fun ended => by cases ended <;> nofun)]
  rfl

/-- An opcode that a table could hold has an entry once a message of it was dropped, and no other
opcode has one. -/
theorem mem_drops_iff {id : Opcode} {n : Nat} :
    (id, n) ∈ s.engine.scene.tally.drops ↔
      id.toNat < opcodeLimit ∧ 0 < n ∧
        n = s.returned.countP fun p => p.1 = id ∧ p.2.isDropped = true := by
  have hdrops := dropsOf_eq_countP_returned tallied entered id
  rw [tallied.ordered.mem_iff]
  by_cases hlimit : id.toNat < opcodeLimit
  · have hcount : (s.returned.countP fun p => p.2.dropsFor p.1 id) =
        s.returned.countP fun p => p.1 = id ∧ p.2.isDropped = true := by
      refine List.countP_congr fun p _ => ?_
      simp only [Outcome.dropsFor, decide_eq_true_eq]
      constructor
      · rintro ⟨hdropped, hid, -⟩
        exact ⟨hid.symm, hdropped⟩
      · rintro ⟨rfl, hdropped⟩
        exact ⟨hdropped, rfl, hlimit⟩
    rw [Tally.dropsOf, hcount] at hdrops
    rw [hdrops]
    exact ⟨fun h => ⟨hlimit, h.1, h.2.symm⟩, fun h => ⟨h.2.1, h.2.2.symm⟩⟩
  · have hnone : (s.returned.countP fun p => p.2.dropsFor p.1 id) = 0 := by
      refine List.countP_eq_zero.mpr fun p _ => ?_
      simp only [Outcome.dropsFor, decide_eq_true_eq]
      rintro ⟨-, rfl, hbelow⟩
      exact hlimit hbelow
    rw [Tally.dropsOf, hnone] at hdrops
    rw [hdrops]
    exact ⟨fun h => absurd h.2 (Nat.ne_of_lt h.1), fun h => absurd h.1 hlimit⟩

/-- The entries add up to the drops of opcodes that a table could hold. -/
theorem sum_drops_eq :
    (s.engine.scene.tally.drops.map Prod.snd).sum =
      s.returned.countP fun p => p.2.isDropped = true ∧ p.1.toNat < opcodeLimit := by
  let kept := s.returned.filter fun p => p.2.isDropped = true ∧ p.1.toNat < opcodeLimit
  have hcounts : ∀ id, Tally.dropsIn id s.engine.scene.tally.drops =
      (kept.map Prod.fst).count id := by
    intro id
    refine (dropsOf_eq_countP_returned tallied entered id).trans ?_
    rw [List.count_eq_countP, List.countP_map, List.countP_filter]
    refine List.countP_congr fun p _ => ?_
    simp only [Outcome.dropsFor, Function.comp_apply, Bool.and_eq_true, beq_iff_eq,
      decide_eq_true_eq]
    constructor
    · rintro ⟨hdropped, rfl, hbelow⟩
      exact ⟨rfl, hdropped, hbelow⟩
    · rintro ⟨rfl, hdropped, hbelow⟩
      exact ⟨hdropped, rfl, hbelow⟩
  rw [tallied.ordered.sum_eq_length hcounts, List.length_map, List.countP_eq_length_filter]

omit tallied

/-- A message whose opcode no table could hold comes back as unknown. -/
theorem unknown_of_beyond (built : ∀ t, s.engine.table = some t → t.Built)
    {p : Opcode × Outcome} (hp : p ∈ s.returned) (beyond : opcodeLimit ≤ p.1.toNat) :
    p.2 = .dropped (.unknownOpcode p.1) := by
  obtain ⟨a, ha, rfl⟩ := List.mem_map.mp (List.diff_subset _ _ hp)
  obtain ⟨t, installed, hunknown⟩ := entered.unknown a ha
  exact hunknown ((built t installed).lookup_eq_none beyond)

omit entered

/-- Whatever happens to a fresh engine, and at every moment: the drops of single opcodes are in
increasing order of opcodes; an opcode has an entry exactly when it is below the limit and a
message of it came back dropped, and the entry says how many did, whatever the reason; so there are
never more entries than opcodes below the limit. The entries and the drops of other opcodes add up
to all drops, and each message of another opcode came back as unknown, which the counter of unknown
messages counts. -/
theorem drops_by_opcode_are_exact
    (scheduler : Scheduler) (permits capacity : Nat) (table : Option (Table σ))
    (events : List (Event σ)) :
    let fresh := Engine.create scheduler (Pool.start permits) (WorldQueue.empty capacity)
    let s := (start { fresh with table := table }).run events
    let c := s.engine.scene.tally
    (∀ t, s.engine.table = some t → t.Built) →
      c.drops.Pairwise (fun p q => p.1.toNat < q.1.toNat) ∧
        (∀ id, (∃ n, (id, n) ∈ c.drops) ↔
          id.toNat < opcodeLimit ∧ ∃ p ∈ s.returned, p.1 = id ∧ p.2.isDropped = true) ∧
        (∀ id n, (id, n) ∈ c.drops →
          n = s.returned.countP fun p => p.1 = id ∧ p.2.isDropped = true) ∧
        c.drops.length ≤ opcodeLimit ∧
        (c.drops.map Prod.snd).sum +
            s.returned.countP (fun p => p.2.isDropped = true ∧ opcodeLimit ≤ p.1.toNat) =
          c.dropped ∧
        (∀ p ∈ s.returned, opcodeLimit ≤ p.1.toNat → p.2 = .dropped (.unknownOpcode p.1)) ∧
        c.unknown = s.returned.countP fun p => p.2.counter = .unknown := by
  intro fresh s c built
  have tallied : Tallied s := Tallied.lasts.run events (Tallied.start rfl)
  have entered : Entered s := Entered.lasts.run events (Entered.start _)
  refine ⟨tallied.ordered.sorted, fun id => ?_, fun id n hin => ?_, ?_, ?_,
    fun p hp beyond => unknown_of_beyond entered built hp beyond, ?_⟩
  · constructor
    · rintro ⟨n, hin⟩
      obtain ⟨hlimit, hpos, hn⟩ := (mem_drops_iff tallied entered).mp hin
      obtain ⟨p, hp, hdropped⟩ := List.countP_pos_iff.mp (hn ▸ hpos)
      exact ⟨hlimit, p, hp, of_decide_eq_true hdropped⟩
    · rintro ⟨hlimit, p, hp, hdropped⟩
      refine ⟨_, (mem_drops_iff tallied entered).mpr ⟨hlimit, ?_, rfl⟩⟩
      exact List.countP_pos_iff.mpr ⟨p, hp, decide_eq_true hdropped⟩
  · exact ((mem_drops_iff tallied entered).mp hin).2.2
  · exact tallied.ordered.length_le fun p hp => ((mem_drops_iff tallied entered).mp hp).1
  · have hsplit := List.countP_eq_countP_filter_add s.returned (fun p => p.2.isDropped)
      fun p => p.1.toNat < opcodeLimit
    rw [List.countP_filter, List.countP_filter] at hsplit
    rw [sum_drops_eq tallied entered, dropped_eq_countP_returned tallied entered, hsplit]
    simp only [Bool.decide_and, Bool.decide_eq_true, ← Nat.not_lt, decide_not]
  · refine (count_eq_countP_returned tallied entered (k := .unknown)
      (fun ended => by cases ended <;> nofun)).trans (List.countP_congr fun p _ => ?_)
    simp [Outcome.moves, eq_comm]

/-- Messages of the null opcode, of the last opcode that a table could hold, of the first one that
none could, of a huge one, and of opcodes of a table: one that is denied twice and one that nobody
has room for. One dispatch is still under way. -/
def straysAndDenials : List (Event Nat) :=
  [.install (Table.empty.addAll
      [.client 2 "TWO" .loggedIn .inPlace (Handler.stub "two"),
        .client 3 "THREE" .authed .pool (Handler.stub "three")]).1,
    .connect 0, .dispatch .authed 0 ⟨0, [], ⟨"a"⟩, 0⟩, .dispatch .authed 0 ⟨0x51E, [], ⟨"a"⟩, 1⟩,
    .dispatch .authed 0 ⟨0x51F, [], ⟨"a"⟩, 2⟩, .dispatch .authed 0 ⟨0xFFFFFFFF, [], ⟨"a"⟩, 3⟩,
    .dispatch .authed 0 ⟨2, [], ⟨"a"⟩, 4⟩, .dispatch .authed 0 ⟨3, [], ⟨"a"⟩, 5⟩,
    .dispatch .authed 0 ⟨2, [], ⟨"a"⟩, 6⟩, .arrive .authed 0 ⟨0, [], ⟨"a"⟩, 7⟩]

theorem drops_by_opcode_are_exact_straysAndDenials :
    let fresh : Engine Nat := Engine.create .standard (Pool.start 0) (WorldQueue.empty 8)
    let s := (start { fresh with table := none }).run straysAndDenials
    let c := s.engine.scene.tally
    c.drops = [(0, 1), (2, 2), (3, 1), (0x51E, 1)] ∧ c.dropped = 7 ∧ c.unknown = 4 ∧
      s.returned.length = 7 ∧
      (c.drops.map Prod.snd).sum +
          s.returned.countP (fun p => p.2.isDropped = true ∧ opcodeLimit ≤ p.1.toNat) =
        c.dropped ∧
      ∀ p ∈ s.returned, opcodeLimit ≤ p.1.toNat → p.2 = .dropped (.unknownOpcode p.1) := by
  obtain ⟨-, -, -, -, hsum, hbeyond, -⟩ := drops_by_opcode_are_exact .standard 0 8 none
    straysAndDenials fun t installed => Option.some.inj installed ▸ Table.Built.registered _
  exact ⟨by decide, by decide, by decide, by decide, hsum, hbeyond⟩

end Traffic
end PacketDispatch
