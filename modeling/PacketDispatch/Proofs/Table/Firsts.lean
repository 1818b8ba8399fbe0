import PacketDispatch.Proofs.Table.Registration
import Mathlib.Data.List.Induction
import Mathlib.Data.List.Nodup
import Mathlib.Data.List.ReduceOption
import Mathlib.Data.List.Sort

/-!
# The first registration of each opcode

Registrations come in any order and from either side, and some are refused.  Whatever they are, the
table that they build knows of each opcode the first registration that is valid, and the answers tell
which registrations those are.  The descriptors stand in the order of their opcodes, so a walk over
all opcodes in range meets them one after another.
-/

namespace PacketDispatch
namespace Table

variable {σ : Type} {t t' : Table σ} {d : Descriptor σ} {r : Registration σ}
  {registrations : List (Registration σ)} {id : Opcode} {i : Nat}

/-- An opcode that can be registered as long as it is vacant: it has a value and is in range. -/
def Registrable (id : Opcode) : Prop :=
  id ≠ nullOpcode ∧ id.toNat < opcodeLimit
  deriving Decidable

/-! ## Descriptors in order -/

/-- A descriptor has a lower opcode than another. -/
def Precedes (d e : Descriptor σ) : Prop :=
  d.id < e.id

instance : Std.Irrefl (@Precedes σ) where
  irrefl _ := UInt32.lt_irrefl _

instance : Std.Antisymm (@Precedes σ) where
  antisymm _ _ hlt hgt := absurd hgt (UInt32.lt_asymm hlt)

/-- The descriptors stand in the order of their opcodes, each of which can be registered. -/
structure InOrder (t : Table σ) : Prop where
  increasing : t.descriptors.Pairwise Precedes
  registrable : ∀ d ∈ t.descriptors, Registrable d.id

/-- What a table knows of each opcode in range, from the lowest up. -/
def slots (t : Table σ) : List (Option (Descriptor σ)) :=
  (List.range opcodeLimit).map fun n => t.lookup (UInt32.ofNat n)

theorem pairwise_insertInOrder {new : Descriptor σ} {ds : List (Descriptor σ)}
    (increasing : ds.Pairwise Precedes) (vacant : ∀ e ∈ ds, e.id ≠ new.id) :
    (insertInOrder new ds).Pairwise Precedes := by
  induction ds with
  | nil => exact List.pairwise_singleton _ _
  | cons e rest ih =>
      obtain ⟨hfirst, hrest⟩ := List.pairwise_cons.mp increasing
      unfold insertInOrder
      split
      · rename_i hbelow
        have hnew : Precedes new e := UInt32.lt_iff_toNat_lt.mpr hbelow
        apply List.pairwise_cons.mpr
        refine ⟨?_, increasing⟩
        intro x hx
        rcases List.mem_cons.mp hx with rfl | hx
        · exact hnew
        · exact UInt32.lt_trans hnew (hfirst x hx)
      · rename_i hbelow
        have hnew : Precedes e new := by
          apply UInt32.lt_iff_toNat_lt.mpr
          have hne : e.id.toNat ≠ new.id.toNat := fun h =>
            vacant e List.mem_cons_self (UInt32.toNat_inj.mp h)
          omega
        apply List.pairwise_cons.mpr
        refine ⟨?_, ih hrest fun x hx => vacant x (List.mem_cons_of_mem e hx)⟩
        intro x hx
        rcases mem_insertInOrder.mp hx with rfl | hx
        · exact hnew
        · exact hfirst x hx

theorem inOrder_empty : (empty : Table σ).InOrder :=
  ⟨List.Pairwise.nil, nofun⟩

theorem InOrder.add (h : t.InOrder) (hadd : t.add r = .ok t') :
    t'.InOrder := by
  have hregisters : Registers t r.descriptor t' := registers_of_register hadd
  obtain ⟨hvalue, hrange, hvacant⟩ := refusal?_eq_none_iff.mp hregisters.vacant
  have htable : t.add r = .ok ⟨insertInOrder r.descriptor t.descriptors⟩ :=
    register_of_vacant hregisters.vacant
  obtain rfl := Except.ok.inj (htable.symm.trans hadd)
  refine ⟨pairwise_insertInOrder h.increasing (forall_id_ne_of_lookup_eq_none hvacant), ?_⟩
  intro d hd
  rcases mem_insertInOrder.mp hd with rfl | hold
  · exact ⟨hvalue, hrange⟩
  · exact h.registrable d hold

theorem inOrder_addAll (registrations : List (Registration σ)) :
    ((empty : Table σ).addAll registrations).1.InOrder :=
  addAll_induction (fun _ _ _ => InOrder.add) registrations inOrder_empty

theorem id_of_lookup (h : t.lookup id = some d) : d.id = id := by
  simpa using List.find?_some h

theorem InOrder.nodup_ids (h : t.InOrder) :
    (t.descriptors.map Descriptor.id).Nodup :=
  List.pairwise_map.mpr (h.increasing.imp UInt32.ne_of_lt)

/-- No opcode recurs in a table in order, so a descriptor is found under its own opcode. -/
theorem InOrder.lookup_of_mem (h : t.InOrder) (hd : d ∈ t.descriptors) :
    t.lookup d.id = some d := by
  cases hlookup : t.lookup d.id with
  | none => exact absurd rfl (forall_id_ne_of_lookup_eq_none hlookup d hd)
  | some e =>
      rw [List.inj_on_of_nodup_map h.nodup_ids (mem_of_lookup hlookup) hd (id_of_lookup hlookup)]

theorem InOrder.mem_descriptors_iff (h : t.InOrder) :
    d ∈ t.descriptors ↔ ∃ id, t.lookup id = some d := by
  constructor
  · intro hd
    exact ⟨d.id, h.lookup_of_mem hd⟩
  · rintro ⟨id, hlookup⟩
    exact mem_of_lookup hlookup

/-- The number of an opcode in range is not cut short. -/
theorem toNat_ofNat_of_lt_opcodeLimit {n : Nat} (h : n < opcodeLimit) :
    (UInt32.ofNat n).toNat = n :=
  UInt32.toNat_ofNat_of_lt' (Nat.lt_trans h (by decide))

theorem mem_slots_iff (h : t.InOrder) :
    some d ∈ t.slots ↔ ∃ id, t.lookup id = some d := by
  rw [slots, List.mem_map]
  constructor
  · rintro ⟨n, -, hlookup⟩
    exact ⟨_, hlookup⟩
  · rintro ⟨id, hlookup⟩
    obtain ⟨-, hrange⟩ := h.registrable d (mem_of_lookup hlookup)
    rw [id_of_lookup hlookup] at hrange
    refine ⟨id.toNat, List.mem_range.mpr hrange, ?_⟩
    rw [UInt32.ofNat_toNat, hlookup]

theorem pairwise_reduceOption_slots (t : Table σ) :
    t.slots.reduceOption.Pairwise Precedes := by
  rw [slots, List.reduceOption, List.filterMap_map]
  apply List.pairwise_filterMap.mpr
  refine List.pairwise_lt_range.imp_of_mem ?_
  intro m n hm hn hlt d hd e he
  apply UInt32.lt_iff_toNat_lt.mpr
  rw [id_of_lookup hd, id_of_lookup he,
    toNat_ofNat_of_lt_opcodeLimit (List.mem_range.mp hm),
    toNat_ofNat_of_lt_opcodeLimit (List.mem_range.mp hn)]
  exact hlt

/-- A walk over all opcodes in range meets the descriptors in their order, and nothing else. -/
theorem InOrder.descriptors_eq (h : t.InOrder) :
    t.descriptors = t.slots.reduceOption := by
  refine h.increasing.eq_of_mem_iff t.pairwise_reduceOption_slots ?_
  intro d
  rw [List.reduceOption_mem_iff, mem_slots_iff h, h.mem_descriptors_iff]

/-! ## Registrations one after another -/

/-- The table that registrations build. -/
def built (registrations : List (Registration σ)) : Table σ :=
  (empty.addAll registrations).1

/-- The answers to registrations, one after another. -/
def answers (registrations : List (Registration σ)) : List (Option RegistrationError) :=
  (empty.addAll registrations).2.1

/-- The first of the registrations that is valid and has an opcode. -/
def first? (registrations : List (Registration σ)) (id : Opcode) : Option (Registration σ) :=
  registrations.find? fun r => Registrable r.descriptor.id ∧ r.descriptor.id = id

theorem addAll_append (t : Table σ) (earlier later : List (Registration σ)) :
    t.addAll (earlier ++ later) =
      (((t.addAll earlier).1.addAll later).1,
        (t.addAll earlier).2.1 ++ ((t.addAll earlier).1.addAll later).2.1,
        (t.addAll earlier).2.2 ++ ((t.addAll earlier).1.addAll later).2.2) := by
  induction earlier generalizing t with
  | nil => rfl
  | cons r rest ih =>
      cases hadd : t.add r with
      | ok t' => simp only [List.cons_append, addAll, hadd, ih]
      | error error => simp only [List.cons_append, addAll, hadd, ih]

theorem length_answers (registrations : List (Registration σ)) :
    (answers registrations).length = registrations.length := by
  unfold answers
  induction registrations using List.reverseRecOn with
  | nil => rfl
  | append_singleton rest r ih =>
      rw [addAll_append, List.length_append, ih, List.length_append]
      cases hadd : (empty.addAll rest).1.add r with
      | ok t' => simp only [addAll, hadd, List.length_singleton]
      | error error => simp only [addAll, hadd, List.length_singleton]

theorem answers_concat (registrations : List (Registration σ)) (r : Registration σ) :
    answers (registrations ++ [r]) = answers registrations ++
      [(built registrations).refusal? r.descriptor.id r.descriptor.name] := by
  unfold answers built
  rw [addAll_append]
  cases hrefusal : (empty.addAll registrations).1.refusal? r.descriptor.id r.descriptor.name with
  | none =>
      have hadd : (empty.addAll registrations).1.add r = _ := register_of_vacant hrefusal
      simp only [addAll, hadd]
  | some error =>
      have hadd : (empty.addAll registrations).1.add r = _ := register_of_refusal? hrefusal
      simp only [addAll, hadd]

/-- A registration that is not refused adds its descriptor. -/
theorem registers_built_concat
    (h : (built registrations).refusal? r.descriptor.id r.descriptor.name = none) :
    Registers (built registrations) r.descriptor (built (registrations ++ [r])) := by
  have hadd : (built registrations).add r = _ := register_of_vacant h
  have hbuilt : built (registrations ++ [r]) =
      ⟨insertInOrder r.descriptor (built registrations).descriptors⟩ := by
    rw [built, addAll_append]
    change ((built registrations).addAll [r]).1 = _
    simp only [addAll, hadd]
  rw [hbuilt]
  exact registers_of_vacant h

/-- A registration that is refused leaves the table as it was. -/
theorem built_concat_of_refused {error : RegistrationError}
    (h : (built registrations).refusal? r.descriptor.id r.descriptor.name = some error) :
    built (registrations ++ [r]) = built registrations := by
  have hadd : (built registrations).add r = _ := register_of_refusal? h
  rw [built, addAll_append]
  change ((built registrations).addAll [r]).1 = _
  simp only [addAll, hadd]

theorem first?_concat (registrations : List (Registration σ)) (r : Registration σ) (id : Opcode) :
    first? (registrations ++ [r]) id = (first? registrations id).or
      (if Registrable r.descriptor.id ∧ r.descriptor.id = id then some r else none) := by
  rw [first?, List.find?_append, List.find?_singleton]
  simp only [decide_eq_true_eq]
  rfl

/-- The table knows of each opcode the first valid registration. -/
theorem lookup_built (registrations : List (Registration σ)) (id : Opcode) :
    (built registrations).lookup id =
      (first? registrations id).map Registration.descriptor := by
  induction registrations using List.reverseRecOn with
  | nil => rfl
  | append_singleton rest r ih =>
      rw [first?_concat]
      cases hrefusal : (built rest).refusal? r.descriptor.id r.descriptor.name with
      | none =>
          obtain ⟨hvalue, hrange, hvacant⟩ := refusal?_eq_none_iff.mp hrefusal
          rw [(registers_built_concat hrefusal).lookup]
          by_cases hid : r.descriptor.id = id
          · -- The opcode was vacant, so no valid registration came before.
            rw [← hid] at ih ⊢
            rw [hvacant] at ih
            have hfirst : first? rest r.descriptor.id = none :=
              Option.map_eq_none_iff.mp ih.symm
            rw [hfirst, if_pos rfl, if_pos ⟨⟨hvalue, hrange⟩, rfl⟩]
            rfl
          · rw [if_neg hid, if_neg fun h => hid h.2, Option.or_none, ih]
      | some error =>
          rw [built_concat_of_refused hrefusal, ih]
          by_cases hvalid : Registrable r.descriptor.id ∧ r.descriptor.id = id
          · -- A valid registration is refused only when its opcode is taken.
            obtain ⟨⟨hvalue, hrange⟩, rfl⟩ := hvalid
            cases hfirst : first? rest r.descriptor.id with
            | some first => rfl
            | none =>
                have hvacant : (built rest).lookup r.descriptor.id = none := by
                  rw [ih, hfirst]
                  rfl
                rw [refusal?_eq_none_iff.mpr ⟨hvalue, hrange, hvacant⟩] at hrefusal
                cases hrefusal
          · rw [if_neg hvalid, Option.or_none]

/-! ## Which registrations are accepted -/

theorem refusal?_built_eq_none_iff {name : String} :
    (built registrations).refusal? id name = none ↔
      Registrable id ∧ first? registrations id = none := by
  rw [refusal?_eq_none_iff, lookup_built, Option.map_eq_none_iff, Registrable, and_assoc]

/-- The answer to a registration depends on those before it only. -/
theorem getElem?_answers (found : registrations[i]? = some r) :
    (answers registrations)[i]? =
      some ((built (registrations.take i)).refusal? r.descriptor.id r.descriptor.name) := by
  have hi := (List.getElem?_eq_some_iff.mp found).1
  have htake : registrations.take (i + 1) = registrations.take i ++ [r] := by
    rw [List.take_add_one, found]
    rfl
  have hlength : (answers (registrations.take i)).length = i := by
    rw [length_answers, List.length_take, Nat.min_eq_left (Nat.le_of_lt hi)]
  have hsplit : answers registrations = answers (registrations.take i ++ [r]) ++
      ((built (registrations.take (i + 1))).addAll (registrations.drop (i + 1))).2.1 := by
    conv_lhs => rw [answers, ← List.take_append_drop (i + 1) registrations, addAll_append]
    rw [← htake]
    rfl
  rw [hsplit, answers_concat, List.append_assoc, List.getElem?_append_right (by omega), hlength,
    Nat.sub_self]
  rfl

theorem getElem?_answers_take {j : Nat} (h : j < i) :
    (answers (registrations.take i))[j]? = (answers registrations)[j]? := by
  cases hfound : registrations[j]? with
  | none =>
      have hlength : registrations.length ≤ j := List.getElem?_eq_none_iff.mp hfound
      rw [List.take_of_length_le (by omega)]
  | some r =>
      have htake : (registrations.take i)[j]? = some r := by
        rw [List.getElem?_take_of_lt h, hfound]
      rw [getElem?_answers htake, getElem?_answers hfound, List.take_take,
        Nat.min_eq_left (Nat.le_of_lt h)]

theorem accepted_iff_first? (found : registrations[i]? = some r) :
    (answers registrations)[i]? = some none ↔
      Registrable r.descriptor.id ∧ first? (registrations.take i) r.descriptor.id = none := by
  rw [getElem?_answers found, Option.some_inj, refusal?_built_eq_none_iff]

/-- The first valid registration of an opcode is the one that is accepted. -/
theorem first?_eq_some_iff :
    first? registrations id = some r ↔
      r.descriptor.id = id ∧
        ∃ i : Nat, registrations[i]? = some r ∧ (answers registrations)[i]? = some none := by
  constructor
  · intro h
    obtain ⟨hvalid, before, after, hsplit, hearlier⟩ := List.find?_eq_some_iff_append.mp h
    obtain ⟨hregistrable, rfl⟩ := of_decide_eq_true hvalid
    have hfound : registrations[before.length]? = some r := by
      rw [hsplit]
      simp
    have htake : registrations.take before.length = before := by
      rw [hsplit, List.take_left']
      rfl
    refine ⟨rfl, before.length, hfound, (accepted_iff_first? hfound).mpr ⟨hregistrable, ?_⟩⟩
    rw [htake]
    apply List.find?_eq_none.mpr
    intro x hx
    have hinvalid := hearlier x hx
    simpa only [Bool.not_eq_true', Bool.not_eq_true] using hinvalid
  · rintro ⟨rfl, i, hfound, haccepted⟩
    obtain ⟨hregistrable, hearlier⟩ := (accepted_iff_first? hfound).mp haccepted
    obtain ⟨hi, hr⟩ := List.getElem?_eq_some_iff.mp hfound
    unfold first? at hearlier ⊢
    rw [← List.take_append_drop i registrations, List.find?_append, hearlier, Option.none_or,
      List.drop_eq_getElem_cons hi, hr]
    apply List.find?_cons_of_pos
    exact decide_eq_true ⟨hregistrable, rfl⟩

/-- The first valid registration before a place is one that was accepted before it. -/
theorem first?_take_eq_some_iff :
    first? (registrations.take i) id = some r ↔
      r.descriptor.id = id ∧
        ∃ j < i, registrations[j]? = some r ∧ (answers registrations)[j]? = some none := by
  rw [first?_eq_some_iff]
  apply and_congr_right
  intro _
  constructor
  · rintro ⟨j, hfound, haccepted⟩
    have hj : j < i := by
      have hlength := (List.getElem?_eq_some_iff.mp hfound).1
      rw [List.length_take] at hlength
      omega
    rw [List.getElem?_take_of_lt hj] at hfound
    rw [getElem?_answers_take hj] at haccepted
    exact ⟨j, hj, hfound, haccepted⟩
  · rintro ⟨j, hj, hfound, haccepted⟩
    refine ⟨j, ?_, ?_⟩
    · rw [List.getElem?_take_of_lt hj, hfound]
    · rw [getElem?_answers_take hj, haccepted]

/-- A registration is accepted when its opcode has a value and is in range, and none before it was
accepted with its opcode. -/
theorem accepted_iff (found : registrations[i]? = some r) :
    (answers registrations)[i]? = some none ↔
      Registrable r.descriptor.id ∧
        ∀ j < i, ∀ earlier, registrations[j]? = some earlier →
          (answers registrations)[j]? = some none → earlier.descriptor.id ≠ r.descriptor.id := by
  rw [accepted_iff_first? found]
  apply and_congr_right
  intro _
  rw [Option.eq_none_iff_forall_ne_some]
  constructor
  · intro hnone j hj earlier hearlier haccepted hsame
    exact hnone earlier (first?_take_eq_some_iff.mpr ⟨hsame, j, hj, hearlier, haccepted⟩)
  · intro hothers earlier hfirst
    obtain ⟨hsame, j, hj, hearlier, haccepted⟩ := first?_take_eq_some_iff.mp hfirst
    exact hothers j hj earlier hearlier haccepted hsame

/-- What is wrong with a registration that is not accepted: its opcode has no value, is out of range,
or was taken by an earlier registration that was accepted. -/
inductive Rejects (registrations : List (Registration σ)) (i : Nat) (r : Registration σ) :
    RegistrationError → Prop
  | missingValue (null : r.descriptor.id = nullOpcode) :
      Rejects registrations i r (.missingValue r.descriptor.name)
  | outOfRange (range : opcodeLimit ≤ r.descriptor.id.toNat) :
      Rejects registrations i r (.outOfRange r.descriptor.id r.descriptor.name)
  | duplicate {first : Registration σ} {j : Nat} (registrable : Registrable r.descriptor.id)
      (before : j < i) (found : registrations[j]? = some first)
      (accepted : (answers registrations)[j]? = some none)
      (same : first.descriptor.id = r.descriptor.id) :
      Rejects registrations i r
        (.duplicate r.descriptor.id first.descriptor.name r.descriptor.name)

theorem rejects_of_answer {error : RegistrationError} (found : registrations[i]? = some r)
    (answer : (answers registrations)[i]? = some (some error)) :
    Rejects registrations i r error := by
  rw [getElem?_answers found, Option.some_inj] at answer
  cases refuses_of_refusal? answer with
  | missingValue null => exact .missingValue null
  | outOfRange value range => exact .outOfRange range
  | duplicate value range taken =>
      rw [lookup_built] at taken
      obtain ⟨first, hfirst, rfl⟩ := Option.map_eq_some_iff.mp taken
      obtain ⟨hsame, j, hj, hfound, haccepted⟩ := first?_take_eq_some_iff.mp hfirst
      exact .duplicate ⟨value, range⟩ hj hfound haccepted hsame

theorem size_built (registrations : List (Registration σ)) :
    (built registrations).size = (answers registrations).count none := by
  induction registrations using List.reverseRecOn with
  | nil => rfl
  | append_singleton rest r ih =>
      rw [answers_concat, List.count_append, ← ih]
      cases hrefusal : (built rest).refusal? r.descriptor.id r.descriptor.name with
      | none =>
          rw [(registers_built_concat hrefusal).size]
          rfl
      | some error =>
          rw [built_concat_of_refused hrefusal]
          rfl

/-- The first registration of each opcode wins.  Every registration gets an answer: it is accepted when
its opcode has a value and is in range and no earlier registration with its opcode was accepted;
otherwise the answer says what is wrong and the table stays as it was.  The table that is built knows
of each opcode the first valid registration, and of no other opcode; its descriptors have the opcodes
that they are found under, they stand in the order of their opcodes, and there are as many of them as
registrations were accepted. -/
theorem first_registration_wins (registrations : List (Registration σ)) :
    let t := built registrations
    let accepted := fun i : Nat => (answers registrations)[i]? = some none
    (answers registrations).length = registrations.length ∧
      (∀ i r, registrations[i]? = some r →
        (accepted i ↔
          Registrable r.descriptor.id ∧
            ∀ j < i, ∀ earlier, registrations[j]? = some earlier → accepted j →
              earlier.descriptor.id ≠ r.descriptor.id)) ∧
      (∀ i r error, registrations[i]? = some r →
        (answers registrations)[i]? = some (some error) →
          Rejects registrations i r error ∧
            built (registrations.take (i + 1)) = built (registrations.take i)) ∧
      (∀ id, t.lookup id = (first? registrations id).map Registration.descriptor) ∧
      (∀ id d, t.lookup id = some d → d.id = id) ∧
      (∀ d, d ∈ t.descriptors ↔ ∃ id, t.lookup id = some d) ∧
      (t.descriptors.Pairwise fun d e => d.id < e.id) ∧
      t.descriptors = t.slots.reduceOption ∧
      t.size = t.descriptors.length ∧
      t.size = (answers registrations).count none := by
  intro t accepted
  have horder : t.InOrder := inOrder_addAll registrations
  refine ⟨length_answers registrations, fun i r found => accepted_iff found, ?_,
    lookup_built registrations, fun id d => id_of_lookup, fun d => horder.mem_descriptors_iff,
    horder.increasing, horder.descriptors_eq, rfl, size_built registrations⟩
  intro i r error found answer
  refine ⟨rejects_of_answer found answer, ?_⟩
  rw [getElem?_answers found, Option.some_inj] at answer
  rw [List.take_add_one, found]
  exact built_concat_of_refused answer

/-- Registrations that get in each other's way: after one without a value, both sides try for two
opcodes, the highest in range among them, and one opcode is out of range. -/
def rivals : List (Registration Nat) :=
  [.server nullOpcode "SMSG_NOTHING" .never,
    .client 0x51E "CMSG_LAST" .authed .world Handler.null,
    .client 0x100 "CMSG_FIRST" .loggedIn .inPlace Handler.null,
    .server 0x100 "SMSG_SECOND" .never,
    .client 0x51F "CMSG_BEYOND" .authed .pool Handler.null,
    .client 0x100 "CMSG_THIRD" .authed .pool Handler.earlyProcess,
    .server 0x51E "SMSG_LAST" .unhandled]

theorem first_registration_wins_rivals :
    answers rivals =
        [some (.missingValue "SMSG_NOTHING"), none, none,
          some (.duplicate 0x100 "CMSG_FIRST" "SMSG_SECOND"),
          some (.outOfRange 0x51F "CMSG_BEYOND"),
          some (.duplicate 0x100 "CMSG_FIRST" "CMSG_THIRD"),
          some (.duplicate 0x51E "CMSG_LAST" "SMSG_LAST")] ∧
      (built rivals).descriptors.map Descriptor.name = ["CMSG_FIRST", "CMSG_LAST"] ∧
      Rejects rivals 5 (.client 0x100 "CMSG_THIRD" .authed .pool Handler.earlyProcess)
        (.duplicate 0x100 "CMSG_FIRST" "CMSG_THIRD") ∧
      built (rivals.take 6) = built (rivals.take 5) := by
  obtain ⟨-, -, hrejected, -⟩ := first_registration_wins rivals
  exact ⟨by decide, by decide, hrejected 5 _ _ rfl (by decide)⟩

end Table
end PacketDispatch
