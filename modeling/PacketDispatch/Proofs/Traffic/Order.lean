import PacketDispatch.Proofs.Traffic.Ledger

/-!
# Serialized work keeps its order

What the world thread took so far, followed by what still waits for it, is what was scheduled
there, in the order of dispatch.  The queue loses nothing, makes nothing up and reorders nothing,
whoever comes and goes and whether or not it is closed.
-/

namespace PacketDispatch

/-! ## Scheduled messages and their jobs -/

namespace Arrival

variable {σ : Type} {t : Table σ}

/-- The jobs that prepared messages leave in a lane are those of the messages that were scheduled
there. -/
theorem map_some_flatMap_jobs {arrivals : List Arrival} (lane : Lane)
    (prepared : ∀ a ∈ arrivals, a.Prepared t) :
    (arrivals.flatMap (jobs t lane)).map some =
      (arrivals.filter fun a => a.outcome = .scheduled lane).map (job? t) := by
  induction arrivals with
  | nil => rfl
  | cons a rest ih =>
      have hrest := ih fun b hb => prepared b (List.mem_cons_of_mem a hb)
      rw [List.flatMap_cons, List.map_append, hrest]
      by_cases h : a.outcome = .scheduled lane
      · obtain ⟨j, hj, hjobs⟩ := jobs_of_scheduled (prepared a List.mem_cons_self) h
        simp [h, hj, hjobs]
      · simp [h, jobs_of_not_scheduled h]

/-- The jobs that prepared messages leave in a lane for one session have the numbers of the
messages of that session that were scheduled there. -/
theorem map_ticket_filter_flatMap_jobs {arrivals : List Arrival} (lane : Lane)
    (ref : SessionRef) (prepared : ∀ a ∈ arrivals, a.Prepared t) :
    ((arrivals.flatMap (jobs t lane)).filter fun j => j.session = ref).map Job.ticket =
      ((arrivals.filter fun a => a.outcome = .scheduled lane).filter fun a =>
        a.session = ref).map ticket := by
  induction arrivals with
  | nil => rfl
  | cons a rest ih =>
      have hrest := ih fun b hb => prepared b (List.mem_cons_of_mem a hb)
      rw [List.flatMap_cons, List.filter_append, List.map_append, hrest]
      by_cases h : a.outcome = .scheduled lane
      · obtain ⟨j, hj, hjobs⟩ := jobs_of_scheduled (prepared a List.mem_cons_self) h
        obtain ⟨hticket, hsession⟩ := origin_of_job? hj
        by_cases href : a.session = ref <;> simp [h, hjobs, hticket, hsession, href]
      · simp [h, jobs_of_not_scheduled h]

end Arrival

/-! ## Calls in the order of their jobs -/

section Calls

variable {σ : Type} (lane : Lane) (ended : List (Job σ × JobEnd HandlerError))

/-- Jobs that ended made one call each, but for those whose session was gone. -/
theorem Job.map_ticket_flatMap_callsMade :
    (ended.flatMap fun p => p.1.callsMade lane p.2).map CallRecord.ticket =
      (ended.filter fun p => !p.2.isGone).map fun p => p.1.ticket := by
  induction ended with
  | nil => rfl
  | cons p rest ih =>
      obtain ⟨j, how⟩ := p
      rw [List.flatMap_cons, List.map_append, ih]
      cases how <;> simp [callsMade, JobEnd.isGone]

/-- The calls for one session follow the order of its jobs. -/
theorem Job.sublist_map_ticket_callsMade (ref : SessionRef) :
    (((ended.flatMap fun p => p.1.callsMade lane p.2).filter fun r =>
      r.session = ref).map CallRecord.ticket).Sublist
        (((ended.map Prod.fst).filter fun j => j.session = ref).map Job.ticket) := by
  induction ended with
  | nil => exact List.Sublist.refl _
  | cons p rest ih =>
      obtain ⟨j, how⟩ := p
      rw [List.flatMap_cons, List.filter_append, List.map_append]
      by_cases href : j.session = ref
      · cases how with
        | sessionGone => simpa [callsMade, href] using ih.trans (List.sublist_cons_self _ _)
        | completed => simpa [callsMade, href] using ih
        | failed error => simpa [callsMade, href] using ih
      · cases how <;> simpa [callsMade, href] using ih

end Calls

/-! ## The world queue over a run -/

namespace Traffic

variable {σ : Type}

/-- The dispatches that came back as scheduled in a lane, in order. -/
def scheduledIn (s : Traffic σ) (lane : Lane) : List Arrival :=
  s.arrivals.filter fun a => a.outcome = .scheduled lane

/-- The numbers of the messages are those of a run without gaps. -/
theorem Ledger.map_ticket {t : Table σ} {s : Traffic σ} (h : Ledger t s) :
    s.arrivals.map Arrival.ticket = List.range s.arrivals.length := by
  have hlength := congrArg List.length h.numbered
  rw [List.length_map, List.length_range] at hlength
  rw [h.numbered, hlength]

/-- Whatever happens to a fresh engine, the jobs that the world thread took followed by those that
still wait for it are the jobs of the dispatches that were scheduled there, in the order of
dispatch. The world thread has made one call for each job it took, in that order, but for those
whose session was gone; so the calls for any one session follow the order in which its messages
were dispatched. -/
theorem world_keeps_dispatch_order
    (scheduler : Scheduler) (permits capacity : Nat) (t : Table σ)
    (events : List (Event σ)) :
    let s := (Traffic.opening scheduler permits capacity t).run events
    (s.drained.map Prod.fst ++ s.engine.queue.pending).map some =
        (s.scheduledIn .world).map (Arrival.job? t) ∧
      s.arrivals.map Arrival.ticket = List.range s.arrivals.length ∧
      (s.callsIn .world).map CallRecord.ticket =
        (s.drained.filter fun p => !p.2.isGone).map (fun p => p.1.ticket) ∧
      ∀ ref,
        (((s.callsIn .world).filter fun r => r.session = ref).map CallRecord.ticket).Sublist
          (((s.scheduledIn .world).filter fun a => a.session = ref).map Arrival.ticket) := by
  intro s
  have ledger : Ledger t s := Ledger.run scheduler permits capacity t events
  refine ⟨?_, ledger.map_ticket, ?_, fun ref => ?_⟩
  · rw [ledger.world]
    exact Arrival.map_some_flatMap_jobs .world ledger.prepared
  · rw [ledger.worldCalls]
    exact Job.map_ticket_flatMap_callsMade .world s.drained
  · have hjobs := Arrival.map_ticket_filter_flatMap_jobs .world ref ledger.prepared
    rw [← ledger.world, List.filter_append, List.map_append] at hjobs
    rw [ledger.worldCalls, scheduledIn, ← hjobs]
    exact (Job.sublist_map_ticket_callsMade .world s.drained ref).trans
      (List.sublist_append_left _ _)

end Traffic
end PacketDispatch
