import PacketDispatch.Proofs.Replay.Course
import PacketDispatch.Proofs.World.Prospects
import Mathlib.Logic.Function.Basic

/-!
# What is said with each session

A replay holds a conversation with each of its sessions: the records of the session, with their
outcomes and with the results of the calls that were made for them.  Where nothing is refused for
want of room, what is said with a session can be told from its own records, without looking at those
of any other session or at the timing of the pool.
-/

namespace PacketDispatch
namespace Replay

/-! ## Exchanges -/

/-- A dispatched record, with the results of the calls that were made for it. -/
structure Exchange where
  dispatched : Dispatched
  results : List (Except HandlerError Unit)

/-- The number of the session of an exchange. -/
def Exchange.session (x : Exchange) : UInt32 :=
  x.dispatched.record.session

/-- The exchange in which a record with a sequence number has its answer. -/
def Exchange.of (record : Record) (sequence : UInt64) (answer : Answer) : Exchange :=
  ⟨⟨record, sequence, answer.outcome⟩, answer.results⟩

@[simp] theorem Exchange.session_of (record : Record) (sequence : UInt64) (answer : Answer) :
    (Exchange.of record sequence answer).session = record.session := rfl

/-- The records of a session, in their order. -/
def recordsOf (number : UInt32) (records : List Record) : List Record :=
  records.filter fun record => record.session = number

/-- The exchanges with a session, in their order. -/
def exchangesOf (number : UInt32) (said : List Exchange) : List Exchange :=
  said.filter fun x => x.session = number

/-- The results of the calls that were made for the dispatched record at a place. -/
def Run.resultsAt (r : Run) (place : Nat) : List (Except HandlerError Unit) :=
  (r.world.engine.scene.calls.filter fun c => c.ticket = place).map CallRecord.result

/-- Everything that was said in a replay. -/
def Run.exchanges (r : Run) : List Exchange :=
  r.log.zipIdx.map fun p => ⟨p.1, r.resultsAt p.2⟩

theorem recordsOf_concat (number : UInt32) (records : List Record) (record : Record) :
    recordsOf number (records ++ [record]) =
      recordsOf number records ++ if record.session = number then [record] else [] := by
  rw [recordsOf, List.filter_append, recordsOf, List.filter_singleton]
  exact congrArg _ (Bool.cond_decide ..)

theorem exchangesOf_concat (number : UInt32) (said : List Exchange) (x : Exchange) :
    exchangesOf number (said ++ [x]) =
      exchangesOf number said ++ if x.session = number then [x] else [] := by
  rw [exchangesOf, List.filter_append, exchangesOf, List.filter_singleton]
  exact congrArg _ (Bool.cond_decide ..)

/-- The results in exchanges, each with the place of its exchange. -/
def placedResults (said : List Exchange) : List (Nat × Except HandlerError Unit) :=
  said.zipIdx.flatMap fun p => p.1.results.map fun result => (p.2, result)

theorem placedResults_concat (said : List Exchange) (x : Exchange) :
    placedResults (said ++ [x]) =
      placedResults said ++ x.results.map fun result => (said.length, result) := by
  rw [placedResults, List.zipIdx_append, List.flatMap_append, placedResults]
  simp

/-! ## Conversations -/

/-- What was said with one session, and the last phase that it entered. -/
structure Conversation where
  exchanges : List Exchange
  entered : Phase

namespace Conversation

/-- A session before its first record. -/
def start : Conversation :=
  ⟨[], .authed⟩

/-- One more record of the session. A record that does not decode is passed over. -/
def hear (t : Table WorldSession) (c : Conversation) (record : Record) : Conversation :=
  match Run.payload record with
  | .error _ => c
  | .ok bytes =>
      let sequence := UInt64.ofNat (c.exchanges.length + 1)
      let answer := t.answer record.phase
        ⟨record.opcode, bytes, SessionId.ofNumber record.session.toNat, sequence⟩ c.entered
      ⟨c.exchanges ++ [.of record sequence answer], answer.phase⟩

end Conversation

/-- The conversation with a session that has some records. -/
def converse (t : Table WorldSession) (records : List Record) : Conversation :=
  records.foldl (Conversation.hear t) .start

theorem converse_concat (t : Table WorldSession) (records : List Record) (record : Record) :
    converse t (records ++ [record]) = (converse t records).hear t record :=
  List.foldl_concat ..

/-- A record of another session, or one that does not decode, is not heard. -/
theorem converse_recordsOf_concat {t : Table WorldSession} {n : UInt32} {record : Record}
    (h : record.session = n → ∃ fault, Run.payload record = .error fault) (read : List Record) :
    converse t (recordsOf n (read ++ [record])) = converse t (recordsOf n read) := by
  rw [recordsOf_concat]
  by_cases hn : record.session = n
  · obtain ⟨fault, hpayload⟩ := h hn
    rw [if_pos hn, converse_concat, Conversation.hear, hpayload]
  · rw [if_neg hn, List.append_nil]

/-- One call is made for a message at most. -/
theorem length_results_le_one (t : Table WorldSession) (records : List Record) :
    ∀ x ∈ (converse t records).exchanges, x.results.length ≤ 1 := by
  induction records using List.reverseRecOn with
  | nil =>
      intro x hx
      exact absurd hx List.not_mem_nil
  | append_singleton records record ih =>
      rw [converse_concat, Conversation.hear]
      cases Run.payload record with
      | error fault => exact ih
      | ok bytes =>
          intro x hx
          rcases List.mem_append.mp hx with hold | hnew
          · exact ih x hold
          · rw [List.mem_singleton.mp hnew, Exchange.of, Table.answer]
            split
            · exact Nat.zero_le 1
            · exact Nat.le_refl 1

/-! ## What was said so far -/

/-- In a replay some exchanges were made so far, and each session entered some phase last: the
exchanges are in the log, the phases are those that the engine goes by, and the results are there or
yet to come. -/
structure Spoken (r : Run) (said : List Exchange) (entered : UInt32 → Phase) : Prop where
  log : said.map Exchange.dispatched = r.log
  phases : ∀ m ∈ r.members, r.world.engine.phases[m.ref]? = some (entered m.number)
  silent : ∀ n ∉ numbersOf r.members, entered n = .authed
  results : r.world.engine.results.Perm (placedResults said)
  dispatched : r.world.engine.dispatched = said.length
  calm : r.world.engine.Calm

namespace Spoken

variable {r : Run} {said : List Exchange} {entered : UInt32 → Phase}

theorem start (t : Table WorldSession) (permits capacity budget : Nat) :
    Spoken (Run.start (World.start ((Engine.create .standard (Pool.start permits)
      (WorldQueue.empty capacity)).withTable t) budget)) [] fun _ => .authed where
  log := rfl
  phases := nofun
  silent := fun _ _ => rfl
  results := .refl _
  dispatched := rfl
  calm := ⟨nofun, nofun, nofun⟩

/-- The world went on by itself. -/
theorem drift (h : Spoken r said entered) {w : World WorldSession}
    (drifts : Engine.Drifts r.world.engine w.engine) (summary : Summary) :
    Spoken { r with world := w, summary := summary } said entered where
  log := h.log
  phases := by
    intro m hm
    rw [drifts.phases]
    exact h.phases m hm
  silent := h.silent
  results := drifts.results.trans h.results
  dispatched := drifts.dispatched.trans h.dispatched
  calm := drifts.calm

/-- A session begins, and enters no phase but the first. -/
theorem enroll (h : Spoken r said entered) (settled : r.world.engine.queue.pending = [])
    {number : UInt32} (new : number ∉ numbersOf r.members) (grace : Nat) :
    Spoken
      { r with
        world := { r.world with
          engine := (r.world.engine.connect
            ⟨SessionId.ofNumber number.toNat, number, Login.authed grace⟩).2 }
        members := r.members ++ [⟨number, r.world.engine.scene.seats.length, 0⟩] } said entered := by
  let session : WorldSession := ⟨SessionId.ofNumber number.toNat, number, Login.authed grace⟩
  have hphases :
      (r.world.engine.connect session).2.phases = r.world.engine.phases ++ [.authed] :=
    Engine.phases_connect settled session
  have hlength : r.world.engine.phases.length = r.world.engine.scene.seats.length :=
    Engine.length_phases settled
  exact {
    log := h.log
    phases := by
      intro m hm
      change (r.world.engine.connect session).2.phases[m.ref]? = _
      rw [hphases]
      rcases List.mem_append.mp hm with hold | hnew
      · have hphase := h.phases m hold
        rw [List.getElem?_append_left (List.getElem?_eq_some_iff.mp hphase).1]
        exact hphase
      · rw [List.mem_singleton.mp hnew, h.silent number new, ← hlength,
          List.getElem?_concat_length]
    silent := by
      intro n hn
      refine h.silent n fun hmem => hn ?_
      rw [numbersOf_append]
      exact List.mem_append_left _ hmem
    results := by
      change (r.world.engine.connect session).2.results.Perm _
      rw [Engine.results_connect settled session]
      exact h.results
    dispatched := h.dispatched
    calm := ⟨h.calm.aloof, h.calm.steady, fun j hj =>
      Scene.connected_connect session (h.calm.live j hj)⟩ }

/-- A dispatched record has its answer, and its session the phase that the answer leaves. -/
theorem answer (h : Spoken r said entered) (roster : Roster r.members r.log) {m : Member}
    (hm : m ∈ r.members) {record : Record} (hnumber : m.number = record.session)
    {answer : Answer} {arrived : Engine WorldSession}
    (gains : Engine.Gains r.world.engine m.ref answer arrived)
    (next : arrived.dispatched = r.world.engine.dispatched + 1) {r' : Run}
    (drifts : Engine.Drifts arrived r'.world.engine) {sequence : UInt64}
    (members : r'.members = r.members.map (Member.countSent record.session))
    (log : r'.log = r.log ++ [⟨record, sequence, answer.outcome⟩]) :
    Spoken r' (said ++ [.of record sequence answer])
      (Function.update entered record.session answer.phase) where
  log := by
    rw [List.map_append, h.log, log]
    rfl
  phases := by
    intro k hk
    rw [members] at hk
    obtain ⟨k, hold, rfl⟩ := List.mem_map.mp hk
    rw [Member.ref_countSent, Member.number_countSent, drifts.phases, gains.phases]
    by_cases hsame : k.number = record.session
    · have hlt := (List.getElem?_eq_some_iff.mp (h.phases m hm)).1
      have href : m.ref = k.ref := (roster.ref_eq_iff hm hold).mpr (hnumber.trans hsame.symm)
      rw [hsame, Function.update_self, ← href, List.getElem?_set_self hlt]
    · have hdiffer : m.ref ≠ k.ref := by
        intro href
        exact hsame (((roster.ref_eq_iff hm hold).mp href).symm.trans hnumber)
      rw [Function.update_of_ne hsame, List.getElem?_set_ne hdiffer]
      exact h.phases k hold
  silent := by
    intro n hn
    rw [members, numbersOf_map_countSent] at hn
    have hother : n ≠ record.session := by
      intro heq
      apply hn
      rw [heq, ← hnumber]
      exact number_mem_numbersOf hm
    rw [Function.update_of_ne hother]
    exact h.silent n hn
  results := by
    rw [placedResults_concat, ← h.dispatched]
    exact drifts.results.trans (gains.results.trans (h.results.append_right _))
  dispatched := by
    rw [List.length_append, ← h.dispatched]
    exact drifts.dispatched.trans next
  calm := drifts.calm

end Spoken

/-! ## A replay and what it says -/

/-- A replay that has read some records has said what can be told from the records of each session:
what was said is in the log, the phases of the sessions are those of the conversations, and the
results are there or yet to come. -/
structure Heard (t : Table WorldSession) (permits : Nat) (read : List Record) (r : Run)
    (said : List Exchange) : Prop where
  log : said.map Exchange.dispatched = r.log
  told : ∀ n, exchangesOf n said = (converse t (recordsOf n read)).exchanges
  phases : ∀ m ∈ r.members,
    r.world.engine.phases[m.ref]? = some (converse t (recordsOf m.number read)).entered
  silent : ∀ n ∉ numbersOf r.members, converse t (recordsOf n read) = .start
  results : r.world.engine.results.Perm (placedResults said)
  dispatched : r.world.engine.dispatched = said.length
  calm : r.world.engine.Calm
  isOpen : r.world.engine.pool.isOpen = true
  free : permits ≤ r.world.engine.pool.free + said.length

namespace Heard

variable {t : Table WorldSession} {permits : Nat} {read : List Record} {r : Run}
  {said : List Exchange}

/-- The phases are those of the conversations. -/
theorem spoken (h : Heard t permits read r said) :
    Spoken r said fun n => (converse t (recordsOf n read)).entered where
  log := h.log
  phases := h.phases
  silent := fun n hn => congrArg Conversation.entered (h.silent n hn)
  results := h.results
  dispatched := h.dispatched
  calm := h.calm

theorem start (permits capacity budget : Nat) :
    Heard t permits []
      (Run.start (World.start ((Engine.create .standard (Pool.start permits)
        (WorldQueue.empty capacity)).withTable t) budget)) [] where
  log := rfl
  told := fun _ => rfl
  phases := nofun
  silent := fun _ _ => rfl
  results := .refl _
  dispatched := rfl
  calm := ⟨nofun, nofun, nofun⟩
  isOpen := rfl
  free := Nat.le_refl _

/-- The world went on by itself. -/
theorem drift (h : Heard t permits read r said) {w : World WorldSession}
    (drifts : Engine.Drifts r.world.engine w.engine) (summary : Summary) :
    Heard t permits read { r with world := w, summary := summary } said :=
  { h.spoken.drift drifts summary with
    told := h.told
    silent := h.silent
    isOpen := drifts.isOpen.trans h.isOpen
    free := Nat.le_trans h.free (Nat.add_le_add_right drifts.free _) }

/-- A record that does not decode is not heard. -/
theorem skip (h : Heard t permits read r said) {record : Record} {fault : Text.Base64.Fault}
    (hpayload : Run.payload record = .error fault) :
    Heard t permits (read ++ [record]) (r.skip record fault) said := by
  have hconverse : ∀ n, converse t (recordsOf n (read ++ [record])) =
      converse t (recordsOf n read) :=
    fun n => converse_recordsOf_concat (fun _ => ⟨fault, hpayload⟩) read
  have drifted : Heard t permits read (r.skip record fault) said :=
    h.drift (Engine.drifts_note h.calm [Run.skipLine record fault]) _
  exact { drifted with
    told := fun n => (h.told n).trans (congrArg _ (hconverse n).symm)
    phases := by
      intro m hm
      rw [hconverse]
      exact drifted.phases m hm
    silent := by
      intro n hn
      rw [hconverse]
      exact h.silent n hn }

/-- A session begins where its conversation does. -/
theorem enroll (h : Heard t permits read r said) (settled : r.world.engine.queue.pending = [])
    {number : UInt32} (new : number ∉ numbersOf r.members) (grace : Nat) :
    Heard t permits read
      { r with
        world := { r.world with
          engine := (r.world.engine.connect
            ⟨SessionId.ofNumber number.toNat, number, Login.authed grace⟩).2 }
        members := r.members ++ [⟨number, r.world.engine.scene.seats.length, 0⟩] } said :=
  { h.spoken.enroll settled new grace with
    told := h.told
    silent := by
      intro n hn
      refine h.silent n fun hmem => hn ?_
      rw [numbersOf_append]
      exact List.mem_append_left _ hmem
    isOpen := h.isOpen
    free := h.free }

/-- A session knows how much was said with it. -/
theorem sent_eq (h : Heard t permits read r said) (roster : Roster r.members r.log) {m : Member}
    (hm : m ∈ r.members) :
    m.sent = (converse t (recordsOf m.number read)).exchanges.length := by
  rw [← h.told, exchangesOf, ← List.countP_eq_length_filter, roster.sent m hm, ← h.log,
    List.countP_map]
  rfl

/-- What a dispatched record comes to is said with its session, and with no other. -/
theorem answer (h : Heard t permits read r said) (roster : Roster r.members r.log) {m : Member}
    (hm : m ∈ r.members) {record : Record} (hnumber : m.number = record.session)
    {bytes : List UInt8} (hpayload : Run.payload record = .ok bytes) {answer : Answer}
    (hanswer : answer = t.answer record.phase (m.envelope record bytes)
      (converse t (recordsOf m.number read)).entered)
    {arrived : Engine WorldSession} (gains : Engine.Gains r.world.engine m.ref answer arrived)
    (next : arrived.dispatched = r.world.engine.dispatched + 1) {r' : Run}
    (drifts : Engine.Drifts arrived r'.world.engine)
    (members : r'.members = r.members.map (Member.countSent record.session))
    (log : r'.log = r.log ++ [⟨record, (m.envelope record bytes).sequence, answer.outcome⟩]) :
    Heard t permits (read ++ [record]) r'
      (said ++ [.of record (m.envelope record bytes).sequence answer]) := by
  have hsent := h.sent_eq roster hm
  have hheard : converse t (recordsOf m.number (read ++ [record])) =
      ⟨(converse t (recordsOf m.number read)).exchanges ++
        [.of record (m.envelope record bytes).sequence answer], answer.phase⟩ := by
    rw [recordsOf_concat, if_pos hnumber.symm, converse_concat, Conversation.hear, hpayload,
      hanswer, Member.envelope, hsent]
  have hothers : ∀ n, n ≠ m.number →
      converse t (recordsOf n (read ++ [record])) = converse t (recordsOf n read) := by
    intro n hn
    exact converse_recordsOf_concat (fun heq => absurd (heq.symm.trans hnumber.symm) hn) read
  have spoken := h.spoken.answer roster hm hnumber gains next drifts members log
  have hentered : ∀ n, Function.update (fun n => (converse t (recordsOf n read)).entered)
      record.session answer.phase n = (converse t (recordsOf n (read ++ [record]))).entered := by
    intro n
    by_cases hn : n = m.number
    · rw [hn, hheard, hnumber, Function.update_self]
    · rw [hothers n hn, Function.update_of_ne (hnumber ▸ hn)]
  exact { spoken with
    told := by
      intro n
      rw [exchangesOf_concat, h.told, Exchange.session_of]
      by_cases hn : n = m.number
      · rw [hn, hheard, if_pos hnumber.symm]
      · rw [hothers n hn, if_neg (fun heq => hn (heq.symm.trans hnumber.symm)), List.append_nil]
    phases := by
      intro k hk
      rw [← hentered]
      exact spoken.phases k hk
    silent := by
      intro n hn
      rw [members, numbersOf_map_countSent] at hn
      rw [hothers n fun heq => hn (heq ▸ number_mem_numbersOf hm)]
      exact h.silent n hn
    isOpen := drifts.isOpen.trans (gains.isOpen.trans h.isOpen)
    free := by
      have hfree := h.free
      have hgains := gains.free
      have hdrifts := drifts.free
      rw [List.length_append, List.length_singleton]
      omega }

/-- The session of the next record is there, or it begins. -/
theorem member (h : Heard t permits read r said) (settled : r.world.engine.queue.pending = [])
    (number : UInt32) (grace : Nat) :
    Heard t permits read (r.member number grace).2 said := by
  rcases r.member_cases number grace with ⟨m, -, -, hmember⟩ | ⟨hnew, hmember⟩
  · rw [hmember]
    exact h
  · rw [hmember]
    exact h.enroll settled hnew grace

end Heard

/-- What comes after a message was sent changes nothing of what can be told. -/
theorem Run.drifts_carryOn {r : Run} (calm : r.world.engine.Calm)
    (short : r.world.engine.queue.pending.length ≤ 1) (timing : Timing) (place : Nat) :
    Engine.Drifts r.world.engine (r.carryOn timing place).world.engine := by
  have before := Engine.drifts_happenAll calm (timing.afterDispatch place)
  have hqueue : (r.happen (timing.afterDispatch place)).world.engine.queue =
      r.world.engine.queue := (Engine.aside_happenAll _ _).queue
  have ticked : Engine.Drifts _ (r.happen (timing.afterDispatch place)).tick.world.engine :=
    World.drifts_tick before.calm (hqueue ▸ short)
  exact before.trans
    (ticked.trans (Engine.drifts_happenAll ticked.calm (timing.afterTick place)))

/-- From its arrival to the next record, a message leaves what can be told as it is. -/
theorem Run.drifts_carryOn_sent {r : Run} (timing : Timing) (place : Nat) {record : Record}
    {env : Envelope} {outcome : Outcome} {arrived : Engine WorldSession} (calm : arrived.Calm)
    (short : (r.sent (timing.beforeCount place) record env outcome
      arrived).world.engine.queue.pending.length ≤ 1) :
    Engine.Drifts arrived ((r.sent (timing.beforeCount place) record env outcome arrived).carryOn
      timing place).world.engine := by
  have happened := Engine.drifts_happenAll calm (timing.beforeCount place)
  have counted := happened.trans (Engine.drifts_record happened.calm record.opcode outcome)
  exact counted.trans (Run.drifts_carryOn counted.calm short timing place)

/-- A message that arrived at a clear queue leaves one job there at most. -/
theorem Seen.pending_sent_le {t : Table WorldSession} {r : Run} {s : Traffic WorldSession}
    (seen : Seen t r s) (clear : r.world.engine.queue.Clear) {m : Member} (hm : m ∈ r.members)
    {record : Record} (hnumber : m.number = record.session) {bytes : List UInt8}
    (hpayload : Run.payload record = .ok bytes) (events : List Background) {outcome : Outcome}
    {arrived : Engine WorldSession}
    (harrive : r.world.engine.arrive record.phase m.ref (m.envelope record bytes) =
      .ok (outcome, arrived)) :
    (r.sent events record (m.envelope record bytes) outcome
      arrived).world.engine.queue.pending.length ≤ 1 := by
  obtain ⟨outcome', arrived', -, harrive', -, -, jobs, hjobs, hsent⟩ :=
    seen.send events hm hnumber hpayload
  obtain ⟨rfl, rfl⟩ := Prod.mk.inj (Except.ok.inj (harrive.symm.trans harrive'))
  rw [hsent, clear.pending]
  exact hjobs

namespace Between

variable {t : Table WorldSession} {permits : Nat} {read : List Record} {r : Run}
  {s : Traffic WorldSession} {said : List Exchange}

/-- What the next record comes to is said with its session, while there is a permit for each
record. -/
theorem hear (between : Between t read r s) (h : Heard t permits read r said) (steady : t.Steady)
    (room : read.length < permits) (timing : Timing) (grace : Nat) (record : Record) :
    ∃ r' said', r.step timing grace record = .ok r' ∧
      Heard t permits (read ++ [record]) r' said' := by
  cases hpayload : Run.payload record with
  | error fault => exact ⟨_, said, r.step_of_fault timing grace hpayload, h.skip hpayload⟩
  | ok bytes =>
      obtain ⟨m, begun, s', hfound, -, seen, hm, hnumber, hlog, hclear⟩ :=
        between.member record.session grace
      have heard : Heard t permits read begun said := by
        have hbegun := h.member between.settled record.session grace
        rwa [hfound] at hbegun
      have live := seen.connected hm
      have hroom : 0 < begun.world.engine.pool.free := by
        have hfree := heard.free
        have hsaid := congrArg List.length h.log
        rw [List.length_map] at hsaid
        have hread := between.length_log_le
        omega
      have roomy : begun.world.engine.Roomy := ⟨seen.standard, hclear, heard.isOpen, hroom⟩
      obtain ⟨answer, arrived, hanswer, harrive, gains, hnext⟩ :=
        Engine.exists_gains_of_arrive steady seen.installed roomy heard.calm (heard.phases m hm)
          (seen.connected hm) record.phase (m.envelope record bytes)
      have hshort :=
        seen.pending_sent_le hclear hm hnumber hpayload (timing.beforeCount r.log.length) harrive
      have carried := Run.drifts_carryOn_sent timing r.log.length gains.calm hshort
      exact ⟨_, _, Run.step_of_arrive timing grace hpayload hfound harrive,
        heard.answer seen.roster hm hnumber hpayload hanswer gains hnext carried
          (Run.carryOn_members _ timing _) (Run.carryOn_log _ timing _)⟩

/-- What all records come to is said with their sessions. -/
theorem hearAll (between : Between t read r s) (h : Heard t permits read r said)
    (steady : t.Steady) (timing : Timing) (grace : Nat) (records : List Record)
    (room : read.length + records.length ≤ permits) :
    ∃ r' s' said', Run.stepAll timing grace records r = .ok r' ∧ Traffic.Leads s s' ∧
      Between t (read ++ records) r' s' ∧ Heard t permits (read ++ records) r' said' := by
  induction records generalizing read r s said with
  | nil => exact ⟨r, s, said, rfl, .refl s, by simpa using between, by simpa using h⟩
  | cons record rest ih =>
      rw [List.length_cons] at room
      obtain ⟨r₁, s₁, hstep, leads₁, between₁⟩ := between.step timing grace record
      obtain ⟨r₁', said₁, hstep', heard₁⟩ :=
        between.hear h steady (by omega) timing grace record
      obtain rfl : r₁ = r₁' := Except.ok.inj (hstep.symm.trans hstep')
      obtain ⟨r₂, s₂, said₂, hrest, leads₂, between₂, heard₂⟩ := ih between₁ heard₁ (by
        rw [List.length_append, List.length_singleton]
        omega)
      rw [List.append_assoc] at between₂ heard₂
      refine ⟨r₂, s₂, said₂, ?_, leads₁.trans leads₂, between₂, heard₂⟩
      simp only [Run.stepAll, hstep, hrest]

end Between

/-! ## At the end -/

/-- What is run in the end was told before. -/
theorem Heard.finish {t : Table WorldSession} {permits : Nat} {trace : List Record} {r : Run}
    {said : List Exchange} (h : Heard t permits trace r said)
    (settled : r.world.engine.queue.pending = []) (timing : Timing) :
    Heard t permits trace (r.finish timing trace.length) said := by
  obtain ⟨events, hfinish, -⟩ := Run.exists_finish_eq settled timing trace.length
  have happened := Engine.drifts_happenAll h.calm events
  rw [hfinish]
  exact h.drift (happened.trans (Engine.drifts_note happened.calm _)) _

end Replay
end PacketDispatch
