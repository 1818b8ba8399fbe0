import PacketDispatch.Table.Basic

/-!
# Registration

What one registration changes in a table, and when it is refused.  An opcode that is vacant gets its
descriptor and the others keep theirs; the reasons for a refusal exclude each other.  Facts about a
table that was built by registrations follow by induction from what each of them does.
-/

namespace PacketDispatch
namespace Table

variable {σ : Type} {t t' : Table σ} {d : Descriptor σ} {id : Opcode} {name : String}

/-! ## Descriptors in order -/

theorem mem_of_lookup (h : t.lookup id = some d) :
    d ∈ t.descriptors :=
  List.mem_of_find?_eq_some h

@[simp] theorem mem_insertInOrder {new : Descriptor σ} {ds : List (Descriptor σ)} :
    d ∈ insertInOrder new ds ↔ d = new ∨ d ∈ ds := by
  induction ds with
  | nil => simp [insertInOrder]
  | cons e rest ih =>
      unfold insertInOrder
      split
      · simp
      · simp only [List.mem_cons, ih]
        exact or_left_comm

@[simp] theorem length_insertInOrder (new : Descriptor σ) (ds : List (Descriptor σ)) :
    (insertInOrder new ds).length = ds.length + 1 := by
  induction ds with
  | nil => rfl
  | cons e rest ih =>
      unfold insertInOrder
      split <;> simp [ih]

/-- The place of a new descriptor does not matter to lookups when its opcode was vacant. -/
theorem find?_insertInOrder {new : Descriptor σ} {ds : List (Descriptor σ)}
    (vacant : ∀ e ∈ ds, e.id ≠ new.id) (id : Opcode) :
    (insertInOrder new ds).find? (fun e => e.id == id) =
      if new.id = id then some new else ds.find? fun e => e.id == id := by
  induction ds with
  | nil => by_cases h : new.id = id <;> simp [insertInOrder, h]
  | cons e rest ih =>
      have hrest := ih fun x hx => vacant x (List.mem_cons_of_mem e hx)
      unfold insertInOrder
      split
      · by_cases h : new.id = id <;> simp [h]
      · by_cases he : e.id = id
        · have hnew : new.id ≠ id := fun h => vacant e List.mem_cons_self (he.trans h.symm)
          simp [he, hnew]
        · simp [he, hrest]

theorem forall_id_ne_of_lookup_eq_none (h : t.lookup id = none) :
    ∀ e ∈ t.descriptors, e.id ≠ id := by
  simpa [lookup] using h

/-! ## One registration -/

/-- An opcode can be registered when it has a value, is in range and is vacant. -/
theorem refusal?_eq_none_iff :
    t.refusal? id name = none ↔
      id ≠ nullOpcode ∧ id.toNat < opcodeLimit ∧ t.lookup id = none := by
  unfold refusal?
  split
  · simp_all
  · split
    · rename_i hvalue hrange
      simp [Nat.not_lt.mpr hrange]
    · rename_i hvalue hrange
      simp [hvalue, Nat.not_le.mp hrange]

/-- What is wrong with an opcode that cannot be registered; the first fault is named. -/
inductive Refuses (t : Table σ) (id : Opcode) (name : String) : RegistrationError → Prop
  | missingValue (null : id = nullOpcode) : Refuses t id name (.missingValue name)
  | outOfRange (value : id ≠ nullOpcode) (range : opcodeLimit ≤ id.toNat) :
      Refuses t id name (.outOfRange id name)
  | duplicate {d : Descriptor σ} (value : id ≠ nullOpcode) (range : id.toNat < opcodeLimit)
      (taken : t.lookup id = some d) : Refuses t id name (.duplicate id d.name name)

theorem refuses_of_refusal? {error : RegistrationError} (h : t.refusal? id name = some error) :
    Refuses t id name error := by
  unfold refusal? at h
  split at h
  · rename_i hnull
    exact Option.some.inj h ▸ .missingValue hnull
  · rename_i hvalue
    split at h
    · rename_i hrange
      exact Option.some.inj h ▸ .outOfRange hvalue hrange
    · rename_i hrange
      obtain ⟨d, htaken, rfl⟩ := Option.map_eq_some_iff.mp h
      exact .duplicate hvalue (Nat.not_le.mp hrange) htaken

/-- What a table with one more descriptor knows. -/
structure Registers (t : Table σ) (d : Descriptor σ) (t' : Table σ) : Prop where
  vacant : t.refusal? d.id d.name = none
  lookup : ∀ id, t'.lookup id = if d.id = id then some d else t.lookup id
  mem : ∀ e, e ∈ t'.descriptors ↔ e = d ∨ e ∈ t.descriptors
  size : t'.size = t.size + 1

theorem register_of_refusal? {error : RegistrationError}
    (h : t.refusal? d.id d.name = some error) :
    t.register d = .error error := by
  simp only [register, h]

theorem register_of_vacant (h : t.refusal? d.id d.name = none) :
    t.register d = .ok ⟨insertInOrder d t.descriptors⟩ := by
  simp only [register, h]

theorem registers_of_vacant (h : t.refusal? d.id d.name = none) :
    Registers t d ⟨insertInOrder d t.descriptors⟩ where
  vacant := h
  lookup := by
    obtain ⟨-, -, hvacant⟩ := refusal?_eq_none_iff.mp h
    exact find?_insertInOrder (forall_id_ne_of_lookup_eq_none hvacant)
  mem := fun _ => mem_insertInOrder
  size := length_insertInOrder d t.descriptors

theorem registers_of_register (h : t.register d = .ok t') :
    Registers t d t' := by
  cases hrefusal : t.refusal? d.id d.name with
  | some error =>
      rw [register_of_refusal? hrefusal] at h
      cases h
  | none =>
      rw [register_of_vacant hrefusal] at h
      exact Except.ok.inj h ▸ registers_of_vacant hrefusal

/-! ## Many registrations -/

/-- What holds of the empty table and stays with every accepted registration holds of every table
that registrations build. -/
theorem addAll_induction {P : Table σ → Prop}
    (step : ∀ (t : Table σ) (r : Registration σ) (t' : Table σ), P t → t.add r = .ok t' → P t')
    (registrations : List (Registration σ)) (h : P t) :
    P (t.addAll registrations).1 := by
  induction registrations generalizing t with
  | nil => exact h
  | cons r rest ih =>
      cases hadd : t.add r with
      | ok t' =>
          have hrest := ih (step t r t' h hadd)
          simpa only [addAll, hadd] using hrest
      | error error => simpa only [addAll, hadd] using ih h

end Table
end PacketDispatch
