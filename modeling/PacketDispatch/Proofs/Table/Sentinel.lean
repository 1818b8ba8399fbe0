import PacketDispatch.Proofs.Engine.Precedence
import PacketDispatch.Proofs.Manifest.Loading

/-!
# Opcodes that only the server sends

However a table is built, its opcodes of the server have sentinels: descriptors that no session ever
passes.  A message with such an opcode stops at the gate, so its handler is never asked to prepare
it; another handler in its place would change nothing.
-/

namespace PacketDispatch

variable {σ : Type}

/-! ## Sentinels -/

/-- A descriptor that only turns messages away: no session meets its demand, it belongs to no thread
but the one its messages arrive on, and its handler only writes a line. -/
structure Descriptor.Sentinel (d : Descriptor σ) : Prop where
  requirement : d.requirement = .never ∨ d.requirement = .unhandled
  lane : d.lane = .inPlace
  handler : d.handler = Handler.serverSide

theorem ServerRequirement.never_or_unhandled (r : ServerRequirement) :
    r.requirement = .never ∨ r.requirement = .unhandled := by
  cases r with
  | never => exact Or.inl rfl
  | unhandled => exact Or.inr rfl

theorem Table.Registration.sentinel (r : Table.Registration σ)
    (server : r.descriptor.origin = .server) :
    r.descriptor.Sentinel := by
  cases r with
  | client id name requirement lane handler => cases server
  | server id name requirement => exact ⟨requirement.never_or_unhandled, rfl, rfl⟩

theorem Manifest.Row.Describes.sentinel {b : Bindings σ} {r : Manifest.Row} {d : Descriptor σ}
    (h : r.Describes b d) (server : d.origin = .server) :
    d.Sentinel := by
  have horigin : r.origin = .server := h.origin.symm.trans server
  cases hkind : r.kind with
  | client requirement lane key => simp [Row.origin, hkind] at horigin
  | server requirement =>
      obtain ⟨hlane, hhandler⟩ := h.server requirement hkind
      have hrequirement : d.requirement = requirement.requirement := by
        rw [h.requirement]
        simp [Row.requirement, hkind]
      refine ⟨?_, hlane, hhandler⟩
      rw [hrequirement]
      exact requirement.never_or_unhandled

namespace Table

variable {t t' : Table σ} {d : Descriptor σ} {phase : Phase} {env : Envelope}

/-! ## Tables as they are built -/

/-- How tables come about: by registrations in any order, some of which may be refused, or from the
rows of a manifest and the bindings of their keys, some of which may be skipped. -/
inductive Built : Table σ → Prop
  | registered (registrations : List (Registration σ)) : Built (empty.addAll registrations).1
  | loaded (rows : List Manifest.Row) (b : Bindings σ) : Built (Manifest.load rows b).table

/-- The opcodes of the server have sentinels. -/
def Guarded (t : Table σ) : Prop :=
  ∀ d ∈ t.descriptors, d.origin = .server → d.Sentinel

theorem guarded_empty : (empty : Table σ).Guarded := by
  simp [Guarded, empty]

/-- One more descriptor keeps a table guarded when it is a sentinel or an opcode of clients. -/
theorem Guarded.registers (h : t.Guarded) (registers : Registers t d t')
    (new : d.origin = .server → d.Sentinel) :
    t'.Guarded := by
  intro e he hserver
  rcases (registers.mem e).mp he with rfl | hold
  · exact new hserver
  · exact h e hold hserver

theorem guarded_addAll (registrations : List (Registration σ)) :
    ((empty : Table σ).addAll registrations).1.Guarded := by
  refine addAll_induction ?_ registrations guarded_empty
  intro t r t' ht hadd
  exact ht.registers (registers_of_register hadd) r.sentinel

theorem guarded_load (rows : List Manifest.Row) (b : Bindings σ) :
    (Manifest.load rows b).table.Guarded := by
  refine List.foldlRecOn (motive := fun l : Manifest.Load σ => l.table.Guarded) rows
    (Manifest.Load.step b) guarded_empty ?_
  intro l hl r _
  rcases l.step_cases b r with hkeeps | ⟨error, hskips⟩
  · obtain ⟨d, hdescribes, hregisters⟩ := hkeeps.table
    exact hl.registers hregisters hdescribes.sentinel
  · rw [hskips.table]
    exact hl

theorem Built.guarded (h : t.Built) : t.Guarded := by
  cases h with
  | registered registrations => exact guarded_addAll registrations
  | loaded rows b => exact guarded_load rows b

/-- What holds of the empty table and stays with every descriptor that is registered holds of every
table, however it is built. -/
theorem Built.induction {P : Table σ → Prop} (empty : P empty)
    (registers : ∀ t d t', P t → Registers t d t' → P t') (h : t.Built) : P t := by
  cases h with
  | registered registrations =>
      refine addAll_induction ?_ registrations empty
      intro t r t' ht hadd
      exact registers t _ t' ht (registers_of_register hadd)
  | loaded rows b =>
      refine List.foldlRecOn (motive := fun l : Manifest.Load σ => P l.table) rows
        (Manifest.Load.step b) empty ?_
      intro l hl r _
      rcases l.step_cases b r with hkeeps | ⟨error, hskips⟩
      · obtain ⟨d, -, hregisters⟩ := hkeeps.table
        exact registers _ d _ hl hregisters
      · rw [hskips.table]
        exact hl

/-- No table holds an opcode at or above the limit. -/
theorem Built.lookup_eq_none {id : Opcode} (h : t.Built) (beyond : opcodeLimit ≤ id.toNat) :
    t.lookup id = none := by
  refine h.induction (P := fun t => t.lookup id = none) rfl ?_
  intro t d t' ht hregisters
  obtain ⟨-, hbelow, -⟩ := refusal?_eq_none_iff.mp hregisters.vacant
  have hother : d.id ≠ id := fun heq => absurd hbelow (by simpa [heq] using beyond)
  rw [hregisters.lookup, if_neg hother]
  exact ht

/-! ## Messages that clients may not send -/

/-- An opcode of the table that only the server sends. -/
def Foreign (t : Table σ) (id : Opcode) : Prop :=
  ∃ d, t.lookup id = some d ∧ d.origin = .server

end Table

/-- A message was turned away at the gate because only the server sends its opcode. -/
def Outcome.TurnsAway (outcome : Outcome) (id : Opcode) (phase : Phase) : Prop :=
  outcome = .ignored ∨ outcome = .dropped (.denied id .never phase .notAllowed)

theorem Outcome.TurnsAway.isRejected {outcome : Outcome} {id : Opcode} {phase : Phase}
    (h : outcome.TurnsAway id phase) :
    outcome.isRejected = true := by
  rcases h with rfl | rfl <;> rfl

namespace Table

variable {t : Table σ} {d : Descriptor σ} {phase : Phase} {env : Envelope}

/-- The gate stops a message with an opcode of the server, whatever the phase and the payload. -/
theorem decide_of_foreign (guarded : t.Guarded) (foreign : t.Foreign env.opcode)
    (phase : Phase) :
    ∃ outcome, t.decide phase env = .stop outcome ∧ outcome.TurnsAway env.opcode phase := by
  obtain ⟨d, hlookup, hserver⟩ := foreign
  have hsentinel := guarded d (mem_of_lookup hlookup) hserver
  rcases hsentinel.requirement with hnever | hunhandled
  · have hcheck : d.requirement.check phase = .denied .notAllowed := by
      rw [hnever]
      rfl
    refine ⟨_, decide_of_denied hlookup hcheck, Or.inr ?_⟩
    rw [hnever]
  · have hcheck : d.requirement.check phase = .unhandled := by
      rw [hunhandled]
      rfl
    exact ⟨_, decide_of_unhandled hlookup hcheck, Or.inl rfl⟩

theorem not_granted_of_foreign (guarded : t.Guarded) (hlookup : t.lookup env.opcode = some d)
    (server : d.origin = .server) (phase : Phase) :
    d.requirement.check phase ≠ .granted := by
  have hsentinel := guarded d (mem_of_lookup hlookup) server
  rcases hsentinel.requirement with hrequirement | hrequirement <;>
    simp [hrequirement, Requirement.check]

theorem not_prepares_of_foreign (guarded : t.Guarded) (foreign : t.Foreign env.opcode)
    (phase : Phase) (result : Except Wire.Fault (Call σ)) :
    ¬ t.Prepares phase env result := by
  obtain ⟨d, hlookup, hserver⟩ := foreign
  rw [prepares_iff_of_lookup hlookup]
  rintro ⟨hgranted, -⟩
  exact not_granted_of_foreign guarded hlookup hserver phase hgranted

end Table

/-! ## Other handlers for the opcodes of the server -/

/-- The descriptor with another handler when its opcode is one that only the server sends. -/
def Descriptor.rebind (handler : Descriptor σ → Handler σ) (d : Descriptor σ) : Descriptor σ :=
  if d.origin = .server then { d with handler := handler d } else d

namespace Descriptor

variable (handler : Descriptor σ → Handler σ) (d : Descriptor σ)

@[simp] theorem rebind_id : (d.rebind handler).id = d.id := by
  unfold rebind
  split <;> rfl

@[simp] theorem rebind_name : (d.rebind handler).name = d.name := by
  unfold rebind
  split <;> rfl

@[simp] theorem rebind_requirement : (d.rebind handler).requirement = d.requirement := by
  unfold rebind
  split <;> rfl

end Descriptor

namespace Table

variable {t : Table σ} (handler : Descriptor σ → Handler σ)

/-- The table with other handlers for the opcodes of the server. -/
def rebindServer (t : Table σ) : Table σ :=
  ⟨t.descriptors.map (Descriptor.rebind handler)⟩

theorem lookup_rebindServer (t : Table σ) (id : Opcode) :
    (t.rebindServer handler).lookup id = (t.lookup id).map (Descriptor.rebind handler) := by
  simp only [lookup, rebindServer, List.find?_map]
  congr 1
  apply congrArg (List.find? · t.descriptors)
  funext d
  simp

theorem label_rebindServer (t : Table σ) (id : Opcode) :
    (t.rebindServer handler).label id = t.label id := by
  unfold label
  rw [lookup_rebindServer]
  cases t.lookup id <;> simp

theorem stopLines_rebindServer (t : Table σ) (env : Envelope) (outcome : Outcome) :
    (t.rebindServer handler).stopLines env outcome = t.stopLines env outcome := by
  unfold stopLines
  rw [label_rebindServer, lookup_rebindServer]
  cases t.lookup env.opcode <;> simp

/-- A guarded table never asks the handler of an opcode of the server, so any other handler in its
place leads to the same decisions. -/
theorem decide_rebindServer (guarded : t.Guarded) (phase : Phase) (env : Envelope) :
    (t.rebindServer handler).decide phase env = t.decide phase env := by
  unfold decide
  rw [lookup_rebindServer]
  cases hlookup : t.lookup env.opcode with
  | none => rfl
  | some d =>
      simp only [Option.map_some, Descriptor.rebind_requirement]
      by_cases hserver : d.origin = .server
      · have hdenied := not_granted_of_foreign guarded hlookup hserver phase
        cases hcheck : d.requirement.check phase with
        | granted => exact absurd hcheck hdenied
        | unhandled | denied reason => rfl
      · rw [Descriptor.rebind, if_neg hserver]

end Table
end PacketDispatch
