import PacketDispatch.Proofs.Traffic.Order
import Mathlib.Data.List.Perm.Basic

/-!
# Every message runs its handler at most once

The history of a run is read for one message at a time.  A message whose dispatch came back
completed or failed has caused one call, a rejected one none, and a scheduled one waits, or has
caused one call, or was discarded because its session was gone.  Each call is the one that the
table makes of the message itself, and it ran against the session that the message was dispatched
for.
-/

namespace PacketDispatch

/-! ## Calls that a table makes -/

/-- A table makes a call of a message: the handler bound to its opcode prepared the call from the
message. So the body of a raw handler gets the message itself, and the body of a typed handler
gets the packet that its reader reads from the payload. -/
structure Table.Makes {σ : Type} (t : Table σ) (env : Envelope) (c : Call σ) : Prop where
  bound : ∃ d, t.lookup env.opcode = some d ∧ d.handler.prepare env = .ok c
  raw : ∀ d name body, t.lookup env.opcode = some d → d.handler = .raw name body →
    c.body = body env
  typed : ∀ d name (π : Type) (read : Wire.Reader π) body,
    t.lookup env.opcode = some d → d.handler = .typed name read body →
      ∃ packet, (read.run env.payload).1 = .ok packet ∧ c.body = body packet

namespace Handler

variable {σ : Type} {env : Envelope} {c : Call σ} {name : String}

theorem body_of_prepare_raw {body : Envelope → Body σ}
    (h : (Handler.raw name body).prepare env = .ok c) :
    c.body = body env := by
  cases h
  rfl

theorem body_of_prepare_typed {π : Type} {read : Wire.Reader π} {body : π → Body σ}
    (h : (Handler.typed name read body).prepare env = .ok c) :
    ∃ packet, (read.run env.payload).1 = .ok packet ∧ c.body = body packet := by
  simp only [typed] at h
  split at h
  · rename_i packet rest hread
    cases h
    exact ⟨packet, by rw [hread], rfl⟩
  · cases h

end Handler

/-- A call that the handler bound to an opcode prepared from a message is made of that message. -/
theorem Table.makes_of_prepare {σ : Type} {t : Table σ} {env : Envelope} {d : Descriptor σ}
    {c : Call σ} (hlookup : t.lookup env.opcode = some d)
    (hprepare : d.handler.prepare env = .ok c) :
    t.Makes env c where
  bound := ⟨d, hlookup, hprepare⟩
  raw := by
    intro found name body hfound hhandler
    obtain rfl := Option.some.inj (hlookup.symm.trans hfound)
    rw [hhandler] at hprepare
    exact Handler.body_of_prepare_raw hprepare
  typed := by
    intro found name π read body hfound hhandler
    obtain rfl := Option.some.inj (hlookup.symm.trans hfound)
    rw [hhandler] at hprepare
    exact Handler.body_of_prepare_typed hprepare

namespace Arrival

variable {σ : Type} {t : Table σ} {a : Arrival} {j : Job σ}

/-- The call of a message's job is the one that the table makes of the message. -/
theorem makes_of_job? (h : a.job? t = some j) :
    t.Makes a.envelope j.call := by
  unfold job? at h
  split at h
  · cases h
  · rename_i d c hdecide
    obtain ⟨hlookup, -, hprepare⟩ := Table.decide_eq_call_iff.mp hdecide
    cases h
    exact Table.makes_of_prepare hlookup hprepare

theorem job?_of_mem_callsMade {r : CallRecord σ} (h : r ∈ a.callsMade t) :
    ∃ j, a.job? t = some j ∧ r.ticket = j.ticket ∧ r.session = j.session ∧
      r.call = j.call := by
  unfold callsMade endings at h
  split at h
  · rename_i j ended hj _
    refine ⟨j, hj, ?_⟩
    cases ended <;> simp_all [Job.callsMade]
  · simp at h

theorem callsMade_of_ofResult {result : Except HandlerError Unit} (prepared : a.Prepared t)
    (h : a.outcome = Outcome.ofResult result) :
    ∃ j, a.job? t = some j ∧
      a.callsMade t = [⟨j.ticket, j.session, .inPlace, j.call, result⟩] := by
  obtain ⟨j, hj⟩ := prepared.job (by simp [h])
  exact ⟨j, hj, by simp [callsMade, endings, hj, h]⟩

theorem callsMade_eq_nil (h : a.outcome.ended? = none) :
    a.callsMade t = [] := by
  simp [callsMade, endings, h]

end Arrival

/-! ## What belongs to one message -/

section Owners

variable {α β κ : Type} [DecidableEq κ]

/-- When every owner has a key of its own, and what it owns bears that key, the things that bear the
key of one owner are those it owns. -/
theorem filter_flatMap_owner {owners : List α} {owner : α → κ} {key : β → κ}
    {f : α → List β} (owned : ∀ a ∈ owners, ∀ b ∈ f a, key b = owner a)
    (distinct : (owners.map owner).Nodup) {a : α} (ha : a ∈ owners) :
    (owners.flatMap f).filter (fun b => key b = owner a) = f a := by
  induction owners with
  | nil => cases ha
  | cons first rest ih =>
      rw [List.map_cons, List.nodup_cons] at distinct
      obtain ⟨hfirst, hrest⟩ := distinct
      have ownedRest : ∀ c ∈ rest, ∀ b ∈ f c, key b = owner c :=
        fun c hc => owned c (List.mem_cons_of_mem first hc)
      rw [List.flatMap_cons, List.filter_append]
      rcases List.mem_cons.mp ha with rfl | hmem
      · -- What the others own bears another key, since no key comes twice.
        have hown : (f a).filter (fun b => key b = owner a) = f a := by
          rw [List.filter_eq_self]
          intro b hb
          simpa using owned a List.mem_cons_self b hb
        have hothers : (rest.flatMap f).filter (fun b => key b = owner a) = [] := by
          rw [List.filter_eq_nil_iff]
          intro b hb
          obtain ⟨c, hc, hbc⟩ := List.mem_flatMap.mp hb
          have hkey := ownedRest c hc b hbc
          have hne : owner c ≠ owner a :=
            fun heq => hfirst (heq ▸ List.mem_map_of_mem hc)
          simpa [hkey] using hne
        rw [hown, hothers, List.append_nil]
      · have hforeign : (f first).filter (fun b => key b = owner a) = [] := by
          rw [List.filter_eq_nil_iff]
          intro b hb
          have hkey := owned first List.mem_cons_self b hb
          have hne : owner first ≠ owner a :=
            fun heq => hfirst (heq ▸ List.mem_map_of_mem hmem)
          simpa [hkey] using hne
        rw [hforeign, List.nil_append, ih ownedRest hrest hmem]

end Owners

theorem Job.filter_ticket_flatMap_callsMade {σ : Type} (lane : Lane) (ticket : Nat)
    (ended : List (Job σ × JobEnd HandlerError)) :
    (ended.flatMap fun p => p.1.callsMade lane p.2).filter (fun r => r.ticket = ticket) =
      (ended.filter fun p => p.1.ticket = ticket).flatMap fun p => p.1.callsMade lane p.2 := by
  induction ended with
  | nil => rfl
  | cons p rest ih =>
      obtain ⟨j, how⟩ := p
      rw [List.flatMap_cons, List.filter_append, ih]
      by_cases h : j.ticket = ticket <;> cases how <;> simp [callsMade, h]

theorem CallRecord.perm_lanes {σ : Type} (calls : List (CallRecord σ)) :
    calls.Perm ((calls.filter fun r => r.lane = .inPlace) ++
      ((calls.filter fun r => r.lane = .world) ++ calls.filter fun r => r.lane = .pool)) := by
  induction calls with
  | nil => exact List.Perm.refl _
  | cons r rest ih =>
      cases h : r.lane with
      | inPlace => simpa [h] using ih.cons r
      | world => simpa [h] using (ih.cons r).trans List.perm_middle.symm
      | pool =>
          simp only [h, List.filter_cons, reduceCtorEq, decide_false, decide_true,
            Bool.false_eq_true, if_false, if_true]
          rw [← List.append_assoc] at ih ⊢
          exact (ih.cons r).trans List.perm_middle.symm

namespace Traffic

variable {σ : Type}

/-- The jobs that wait in a lane.  Nothing waits where it arrives. -/
def waitingIn (s : Traffic σ) : Lane → List (Job σ)
  | .inPlace => []
  | .world => s.engine.queue.pending
  | .pool => s.engine.pool.waiting

/-- The jobs that a lane took up, with their ends. -/
def endedIn (s : Traffic σ) : Lane → List (Job σ × JobEnd HandlerError)
  | .inPlace => []
  | .world => s.drained
  | .pool => s.started

/-- The calls that a dispatch has caused so far, on whichever thread they were made. -/
def callsOf (s : Traffic σ) (ticket : Nat) : List (CallRecord σ) :=
  s.engine.scene.calls.filter fun r => r.ticket = ticket

/-- The jobs of a dispatch that wait in a lane. -/
def waitingOf (s : Traffic σ) (ticket : Nat) (lane : Lane) : List (Job σ) :=
  (s.waitingIn lane).filter fun j => j.ticket = ticket

/-- The jobs of a dispatch that a lane took up, with their ends. -/
def endedOf (s : Traffic σ) (ticket : Nat) (lane : Lane) :
    List (Job σ × JobEnd HandlerError) :=
  (s.endedIn lane).filter fun p => p.1.ticket = ticket

/-- A lane has nothing of a dispatch. -/
structure Quiet (s : Traffic σ) (ticket : Nat) (lane : Lane) : Prop where
  waiting : s.waitingOf ticket lane = []
  ended : s.endedOf ticket lane = []

/-- How a scheduled job stands in its lane: it waits and has made no call, or it has made one
call, or it was discarded without a call since its session was gone. -/
inductive Stands (s : Traffic σ) (lane : Lane) (j : Job σ) : Prop
  | waits
      (waiting : s.waitingOf j.ticket lane = [j])
      (ended : s.endedOf j.ticket lane = [])
      (calls : s.callsOf j.ticket = [])
  | ran (result : Except HandlerError Unit)
      (waiting : s.waitingOf j.ticket lane = [])
      (ended : s.endedOf j.ticket lane = [(j, JobEnd.ofResult result)])
      (calls : s.callsOf j.ticket = [⟨j.ticket, j.session, lane, j.call, result⟩])
  | discarded
      (waiting : s.waitingOf j.ticket lane = [])
      (ended : s.endedOf j.ticket lane = [(j, .sessionGone)])
      (calls : s.callsOf j.ticket = [])
      (gone : s.engine.scene.alive j.session = false)

/-- What a message has come to, by what its dispatch came back with. -/
structure Delivery (t : Table σ) (s : Traffic σ) (a : Arrival) : Prop where
  ran : ∀ result, a.outcome = Outcome.ofResult result →
    (∃ c, t.Makes a.envelope c ∧
      s.callsOf a.ticket = [⟨a.ticket, a.session, .inPlace, c, result⟩]) ∧
    ∀ lane, s.Quiet a.ticket lane
  rejected : a.outcome.isRejected = true →
    s.callsOf a.ticket = [] ∧ ∀ lane, s.Quiet a.ticket lane
  scheduled : ∀ lane, a.outcome = .scheduled lane →
    (∃ j : Job σ, j.ticket = a.ticket ∧ j.session = a.session ∧ t.Makes a.envelope j.call ∧
      s.Stands lane j) ∧
    ∀ other, other ≠ lane → s.Quiet a.ticket other

/-! ## The ledger for one message -/

namespace Ledger

variable {t : Table σ} {s : Traffic σ} {a : Arrival}

theorem nodup_tickets (h : Ledger t s) :
    (s.arrivals.map Arrival.ticket).Nodup := by
  rw [h.numbered]
  exact List.nodup_range

/-- In every lane the jobs that were taken up and those that wait are the jobs of the messages. -/
theorem jobsIn (h : Ledger t s) (lane : Lane) :
    ((s.endedIn lane).map Prod.fst ++ s.waitingIn lane).Perm
      (s.arrivals.flatMap (Arrival.jobs t lane)) := by
  cases lane with
  | inPlace =>
      -- No message is scheduled in place, so there is nothing to account for.
      have hnone : s.arrivals.flatMap (Arrival.jobs t .inPlace) = [] := by
        rw [List.flatMap_eq_nil_iff]
        intro a ha
        refine Arrival.jobs_of_not_scheduled fun hscheduled => ?_
        simpa [Lane.deferred] using (h.prepared a ha).deferred _ hscheduled
      rw [hnone]
      exact List.Perm.refl _
  | world => exact List.Perm.of_eq h.world
  | pool => exact h.pool

/-- All calls are those made where messages arrived and those of the jobs that were taken up. -/
theorem calls (h : Ledger t s) :
    s.engine.scene.calls.Perm (s.arrivals.flatMap (Arrival.callsMade t) ++
      (((s.endedIn .world).flatMap fun p => p.1.callsMade .world p.2) ++
        (s.endedIn .pool).flatMap fun p => p.1.callsMade .pool p.2)) := by
  refine (CallRecord.perm_lanes _).trans ?_
  refine (List.Perm.of_eq h.inPlaceCalls).append ?_
  exact (List.Perm.of_eq h.worldCalls).append h.poolCalls

/-- What the lanes have of a message is what it left there. -/
theorem jobsOf (h : Ledger t s) (ha : a ∈ s.arrivals) (lane : Lane) :
    ((s.endedOf a.ticket lane).map Prod.fst ++ s.waitingOf a.ticket lane).Perm
      (a.jobs t lane) := by
  have howned : ∀ b ∈ s.arrivals, ∀ j ∈ b.jobs t lane, j.ticket = b.ticket :=
    fun b _ j hj => (Arrival.origin_of_job? (Arrival.job?_of_mem_jobs hj)).1
  have hfilter := (h.jobsIn lane).filter fun j => j.ticket = a.ticket
  rw [filter_flatMap_owner howned h.nodup_tickets ha, List.filter_append, List.filter_map]
    at hfilter
  exact hfilter

/-- The calls of a message are those it made where it arrived and those of its jobs. -/
theorem callsOf (h : Ledger t s) (ha : a ∈ s.arrivals) :
    (s.callsOf a.ticket).Perm (a.callsMade t ++
      (((s.endedOf a.ticket .world).flatMap fun p => p.1.callsMade .world p.2) ++
        (s.endedOf a.ticket .pool).flatMap fun p => p.1.callsMade .pool p.2)) := by
  have howned : ∀ b ∈ s.arrivals, ∀ r ∈ b.callsMade t, r.ticket = b.ticket := by
    intro b _ r hr
    obtain ⟨j, hj, hticket, -⟩ := Arrival.job?_of_mem_callsMade hr
    exact hticket.trans (Arrival.origin_of_job? hj).1
  have hfilter := h.calls.filter fun r => r.ticket = a.ticket
  rw [List.filter_append, List.filter_append, filter_flatMap_owner howned h.nodup_tickets ha,
    Job.filter_ticket_flatMap_callsMade, Job.filter_ticket_flatMap_callsMade] at hfilter
  exact hfilter

theorem quiet (h : Ledger t s) (ha : a ∈ s.arrivals) {lane : Lane}
    (hlane : a.outcome ≠ .scheduled lane) :
    s.Quiet a.ticket lane := by
  have hjobs := h.jobsOf ha lane
  rw [Arrival.jobs_of_not_scheduled hlane] at hjobs
  obtain ⟨hended, hwaiting⟩ := List.append_eq_nil_iff.mp hjobs.eq_nil
  exact ⟨hwaiting, List.map_eq_nil_iff.mp hended⟩

theorem callsOf_of_not_scheduled (h : Ledger t s) (ha : a ∈ s.arrivals)
    (hlane : ∀ lane, a.outcome ≠ .scheduled lane) :
    (s.callsOf a.ticket).Perm (a.callsMade t) := by
  have hcalls := h.callsOf ha
  rw [(h.quiet ha (hlane .world)).ended, (h.quiet ha (hlane .pool)).ended] at hcalls
  simpa using hcalls

theorem callsOf_of_scheduled (h : Ledger t s) (ha : a ∈ s.arrivals) {lane : Lane}
    (hlane : a.outcome = .scheduled lane) :
    (s.callsOf a.ticket).Perm
      ((s.endedOf a.ticket lane).flatMap fun p => p.1.callsMade lane p.2) := by
  have hquiet : ∀ other, other ≠ lane → s.endedOf a.ticket other = [] :=
    fun other hother => (h.quiet ha (by simpa [hlane] using hother.symm)).ended
  have hnone : a.callsMade t = [] := Arrival.callsMade_eq_nil (by rw [hlane]; rfl)
  have hcalls := h.callsOf ha
  cases lane with
  | inPlace => simpa [Lane.deferred] using (h.prepared a ha).deferred _ hlane
  | world => simpa [hnone, hquiet .pool] using hcalls
  | pool => simpa [hnone, hquiet .world] using hcalls

/-- A job that a lane took up made its call or found its session gone. -/
theorem endedIn_gone (h : Ledger t s) {lane : Lane} {p : Job σ × JobEnd HandlerError}
    (hp : p ∈ s.endedIn lane) (hgone : p.2.isGone = true) :
    s.engine.scene.alive p.1.session = false := by
  cases lane with
  | inPlace => simp [endedIn] at hp
  | world => exact h.gone p (List.mem_append_left _ hp) hgone
  | pool => exact h.gone p (List.mem_append_right _ hp) hgone

/-- The job of a scheduled message waits, or has made its call, or was discarded. -/
theorem stands (h : Ledger t s) (ha : a ∈ s.arrivals) {lane : Lane}
    (hlane : a.outcome = .scheduled lane) :
    ∃ j : Job σ, a.job? t = some j ∧ s.Stands lane j := by
  obtain ⟨j, hj, hleft⟩ := Arrival.jobs_of_scheduled (h.prepared a ha) hlane
  refine ⟨j, hj, ?_⟩
  have hjobs := h.jobsOf ha lane
  have hcalls := h.callsOf_of_scheduled ha hlane
  rw [← (Arrival.origin_of_job? hj).1] at hjobs hcalls
  rw [hleft, List.perm_singleton] at hjobs
  -- The message left one job: it is still there, or it is the only one that was taken up.
  rcases List.append_eq_singleton_iff.mp hjobs with ⟨hended, hwaiting⟩ | ⟨hended, hwaiting⟩
  · have hnone := List.map_eq_nil_iff.mp hended
    exact .waits hwaiting hnone (by simpa [hnone] using hcalls)
  · obtain ⟨⟨_, how⟩, hone, rfl⟩ := List.map_eq_singleton_iff.mp hended
    rw [hone, List.flatMap_singleton] at hcalls
    cases how with
    | completed => exact .ran (.ok ()) hwaiting hone (List.perm_singleton.mp hcalls)
    | failed error => exact .ran (.error error) hwaiting hone (List.perm_singleton.mp hcalls)
    | sessionGone =>
        have hmem : (_, JobEnd.sessionGone) ∈ s.endedOf _ lane :=
          hone ▸ List.mem_singleton_self _
        exact .discarded hwaiting hone hcalls.eq_nil
          (h.endedIn_gone (List.mem_filter.mp hmem).1 rfl)

theorem delivery (h : Ledger t s) (ha : a ∈ s.arrivals) :
    Delivery t s a where
  ran := by
    intro result hresult
    have hlane : ∀ lane, a.outcome ≠ .scheduled lane := by
      simp [hresult]
    obtain ⟨j, hj, hmade⟩ := Arrival.callsMade_of_ofResult (h.prepared a ha) hresult
    obtain ⟨hticket, hsession⟩ := Arrival.origin_of_job? hj
    have hcalls := h.callsOf_of_not_scheduled ha hlane
    rw [hmade, List.perm_singleton, hticket, hsession] at hcalls
    exact ⟨⟨j.call, Arrival.makes_of_job? hj, hcalls⟩, fun lane => h.quiet ha (hlane lane)⟩
  rejected := by
    intro hrejected
    have hlane : ∀ lane, a.outcome ≠ .scheduled lane := by
      rintro lane hlane
      simp [hlane, Outcome.isRejected] at hrejected
    have hnone : a.callsMade t = [] := by
      apply Arrival.callsMade_eq_nil
      cases hout : a.outcome <;> simp_all [Outcome.isRejected, Outcome.ended?]
    have hcalls := h.callsOf_of_not_scheduled ha hlane
    rw [hnone] at hcalls
    exact ⟨hcalls.eq_nil, fun lane => h.quiet ha (hlane lane)⟩
  scheduled := by
    intro lane hlane
    obtain ⟨j, hj, hstands⟩ := h.stands ha hlane
    obtain ⟨hticket, hsession⟩ := Arrival.origin_of_job? hj
    refine ⟨⟨j, hticket, hsession, Arrival.makes_of_job? hj, hstands⟩, ?_⟩
    intro other hother
    exact h.quiet ha (by simpa [hlane] using hother.symm)

/-- Every call belongs to a message: it bears the number of its dispatch, ran against its session,
and is the call that the table makes of it. -/
theorem owner_of_call (h : Ledger t s) {r : CallRecord σ} (hr : r ∈ s.engine.scene.calls) :
    ∃ a ∈ s.arrivals, r.ticket = a.ticket ∧ r.session = a.session ∧
      t.Makes a.envelope r.call := by
  have hjob : ∃ a ∈ s.arrivals, ∃ j, a.job? t = some j ∧ r.ticket = j.ticket ∧
      r.session = j.session ∧ r.call = j.call := by
    rcases List.mem_append.mp (h.calls.mem_iff.mp hr) with harrived | hdeferred
    · obtain ⟨a, ha, hmade⟩ := List.mem_flatMap.mp harrived
      exact ⟨a, ha, Arrival.job?_of_mem_callsMade hmade⟩
    · have hended : ∃ lane, ∃ p ∈ s.endedIn lane, r ∈ p.1.callsMade lane p.2 := by
        rcases List.mem_append.mp hdeferred with hworld | hpool
        · exact ⟨.world, List.mem_flatMap.mp hworld⟩
        · exact ⟨.pool, List.mem_flatMap.mp hpool⟩
      obtain ⟨lane, ⟨j, how⟩, hp, hmade⟩ := hended
      have hmem : j ∈ s.arrivals.flatMap (Arrival.jobs t lane) :=
        (h.jobsIn lane).mem_iff.mp (List.mem_append_left _ (List.mem_map_of_mem hp))
      obtain ⟨a, ha, hja⟩ := List.mem_flatMap.mp hmem
      refine ⟨a, ha, j, Arrival.job?_of_mem_jobs hja, ?_⟩
      cases how <;> simp_all [Job.callsMade]
  obtain ⟨a, ha, j, hj, hticket, hsession, hcall⟩ := hjob
  obtain ⟨hnumber, hfor⟩ := Arrival.origin_of_job? hj
  refine ⟨a, ha, hticket.trans hnumber, hsession.trans hfor, ?_⟩
  rw [hcall]
  exact Arrival.makes_of_job? hj

end Ledger

/-! ## Delivery over a run -/

/-- Whatever happens to a fresh engine, every message has come to what its dispatch came back
with: one call for a message that ran where it arrived, none for a rejected one, and at most one
for a scheduled one, which else waits or was discarded with its session gone. Dispatches have
different numbers, and every call belongs to one of them. -/
theorem messages_run_at_most_once
    (scheduler : Scheduler) (permits capacity : Nat) (t : Table σ)
    (events : List (Event σ)) :
    let s := (Traffic.opening scheduler permits capacity t).run events
    (∀ a ∈ s.arrivals, Delivery t s a) ∧
      (s.arrivals.map Arrival.ticket).Nodup ∧
      ∀ r ∈ s.engine.scene.calls, ∃ a ∈ s.arrivals,
        r.ticket = a.ticket ∧ r.session = a.session ∧ t.Makes a.envelope r.call := by
  intro s
  have ledger : Ledger t s := Ledger.run scheduler permits capacity t events
  exact ⟨fun _ ha => ledger.delivery ha, ledger.nodup_tickets, fun _ hr =>
    ledger.owner_of_call hr⟩

/-- Two clients send a message to each lane; one of them leaves before its message on the world
thread is taken. -/
def threeLanesEvents : List (Event Nat) :=
  [.connect 0, .connect 10,
    .dispatch .authed 0 ⟨1, [7], ⟨"a"⟩, 0⟩, .dispatch .authed 0 ⟨2, [7, 7], ⟨"a"⟩, 1⟩,
    .dispatch .authed 1 ⟨3, [7], ⟨"b"⟩, 0⟩, .dispatch .authed 0 ⟨3, [], ⟨"a"⟩, 2⟩,
    .dispatch .queued 0 ⟨3, [], ⟨"a"⟩, 3⟩, .dispatch .authed 0 ⟨2, [], ⟨"a"⟩, 4⟩,
    .disconnect 1, .proceed 1, .beside (.start 0), .drain 0]

theorem messages_run_at_most_once_threeLanes :
    let s := (Traffic.opening .standard 1 8 .threeLanes).run threeLanesEvents
    s.arrivals.map Arrival.outcome =
        [.completed, .scheduled .pool, .scheduled .world, .scheduled .world,
          .dropped (.denied 3 .authed .queued .inLoginQueue), .dropped (.saturated 2 .pool)] ∧
      s.engine.scene.calls.map CallRecord.ticket = [0, 1, 3] ∧
      ∀ a ∈ s.arrivals, Delivery .threeLanes s a :=
  ⟨by decide, by decide,
    (messages_run_at_most_once .standard 1 8 .threeLanes threeLanesEvents).1⟩

end Traffic
end PacketDispatch
