import Mathlib.Algebra.GroupWithZero.Nat
import Mathlib.Data.List.Nodup
import Mathlib.Data.List.Pairwise
import Mathlib.Data.List.Perm.Subperm
import PacketDispatch.Proofs.Engine.Counters

/-!
# Drops by opcode

The drops of single opcodes are kept in the order of the opcodes, each opcode once and none with
nothing to count.  Such a list is determined by what it says of each opcode, so tallies with the
same counters and the same drops of every opcode are equal.
-/

namespace PacketDispatch
namespace Tally

/-- Opcodes in increasing order, each dropped at least once. -/
structure Ordered (drops : List (Opcode × Nat)) : Prop where
  sorted : drops.Pairwise fun p q => p.1.toNat < q.1.toNat
  positive : ∀ p ∈ drops, 0 < p.2

variable {drops drops' : List (Opcode × Nat)} {id : Opcode}

namespace Ordered

theorem nil : Ordered [] :=
  ⟨List.Pairwise.nil, nofun⟩

theorem tail {p : Opcode × Nat} (h : Ordered (p :: drops)) : Ordered drops :=
  ⟨(List.pairwise_cons.mp h.sorted).2, fun q hq => h.positive q (List.mem_cons_of_mem p hq)⟩

theorem cons {p : Opcode × Nat} (h : Ordered drops) (positive : 0 < p.2)
    (first : ∀ q ∈ drops, p.1.toNat < q.1.toNat) : Ordered (p :: drops) := by
  refine ⟨List.pairwise_cons.mpr ⟨first, h.sorted⟩, ?_⟩
  intro q hq
  rcases List.mem_cons.mp hq with rfl | hq
  · exact positive
  · exact h.positive q hq

end Ordered

theorem mem_bump {p : Opcode × Nat} (h : p ∈ bump id drops) :
    p.1 = id ∨ ∃ q ∈ drops, p.1 = q.1 := by
  induction drops with
  | nil =>
      obtain rfl := List.mem_singleton.mp h
      exact Or.inl rfl
  | cons q rest ih =>
      obtain ⟨k, n⟩ := q
      unfold bump at h
      by_cases hk : k = id
      · rw [if_pos hk] at h
        rcases List.mem_cons.mp h with rfl | hrest
        · exact Or.inl hk
        · exact Or.inr ⟨p, List.mem_cons_of_mem _ hrest, rfl⟩
      · rw [if_neg hk] at h
        by_cases hlt : id.toNat < k.toNat
        · rw [if_pos hlt] at h
          rcases List.mem_cons.mp h with rfl | hrest
          · exact Or.inl rfl
          · exact Or.inr ⟨p, hrest, rfl⟩
        · rw [if_neg hlt] at h
          rcases List.mem_cons.mp h with rfl | hrest
          · exact Or.inr ⟨(k, n), List.mem_cons_self, rfl⟩
          · rcases ih hrest with hid | ⟨q, hq, hpq⟩
            · exact Or.inl hid
            · exact Or.inr ⟨q, List.mem_cons_of_mem _ hq, hpq⟩

/-- One more drop keeps the order. -/
theorem Ordered.bump (id : Opcode) (h : Ordered drops) : Ordered (Tally.bump id drops) := by
  induction drops with
  | nil => exact Ordered.nil.cons Nat.one_pos nofun
  | cons p rest ih =>
      obtain ⟨k, n⟩ := p
      have hfirst := (List.pairwise_cons.mp h.sorted).1
      unfold Tally.bump
      by_cases hk : k = id
      · rw [if_pos hk]
        exact h.tail.cons (Nat.succ_pos n) hfirst
      · rw [if_neg hk]
        by_cases hlt : id.toNat < k.toNat
        · rw [if_pos hlt]
          refine h.cons Nat.one_pos ?_
          intro q hq
          rcases List.mem_cons.mp hq with rfl | hq
          · exact hlt
          · exact Nat.lt_trans hlt (hfirst q hq)
        · rw [if_neg hlt]
          refine (ih h.tail).cons (h.positive _ List.mem_cons_self) ?_
          intro q hq
          rcases mem_bump hq with hid | ⟨q', hq', hqq⟩
          · have hne : k.toNat ≠ id.toNat := fun heq => hk (UInt32.toNat_inj.mp heq)
            rw [hid]
            exact Nat.lt_of_le_of_ne (Nat.le_of_not_lt hlt) hne
          · rw [hqq]
            exact hfirst q' hq'

theorem dropsIn_eq_zero (h : ∀ p ∈ drops, p.1 ≠ id) : dropsIn id drops = 0 := by
  induction drops with
  | nil => rfl
  | cons p rest ih =>
      have hrest := ih fun q hq => h q (List.mem_cons_of_mem p hq)
      simp [dropsIn, h p List.mem_cons_self, hrest]

/-- The opcode that comes first counts what its entry says, and is not among the others. -/
theorem Ordered.dropsIn_head {k : Opcode} {n : Nat} (h : Ordered ((k, n) :: drops)) :
    dropsIn k ((k, n) :: drops) = n ∧ dropsIn k drops = 0 := by
  have hzero : dropsIn k drops = 0 := by
    refine dropsIn_eq_zero fun p hp heq => ?_
    exact absurd ((List.pairwise_cons.mp h.sorted).1 p hp) (by simp [heq])
  simp [dropsIn, hzero]

/-- An opcode before the first one has no drops. -/
theorem Ordered.dropsIn_of_lt {k : Opcode} {n : Nat} (h : Ordered ((k, n) :: drops))
    (hlt : id.toNat < k.toNat) : dropsIn id ((k, n) :: drops) = 0 := by
  refine dropsIn_eq_zero fun p hp heq => ?_
  subst heq
  rcases List.mem_cons.mp hp with rfl | hp
  · exact absurd hlt (Nat.lt_irrefl _)
  · exact absurd ((List.pairwise_cons.mp h.sorted).1 p hp) (Nat.lt_asymm hlt)

/-- Ordered drops are determined by what they say of each opcode. -/
theorem Ordered.eq_of_dropsIn_eq (h : Ordered drops) (h' : Ordered drops')
    (same : ∀ id, dropsIn id drops = dropsIn id drops') : drops = drops' := by
  induction drops generalizing drops' with
  | nil =>
      cases drops' with
      | nil => rfl
      | cons p rest =>
          obtain ⟨k, n⟩ := p
          have hn := h'.positive _ List.mem_cons_self
          have hk := (same k).trans h'.dropsIn_head.1
          exact absurd hk (Nat.ne_of_lt hn)
  | cons p rest ih =>
      obtain ⟨k, n⟩ := p
      have hn := h.positive _ List.mem_cons_self
      have hk := h.dropsIn_head.1
      cases drops' with
      | nil => exact absurd ((same k).symm.trans hk) (Nat.ne_of_lt hn)
      | cons p' rest' =>
          obtain ⟨k', n'⟩ := p'
          have hn' := h'.positive _ List.mem_cons_self
          have hk' := h'.dropsIn_head.1
          -- Neither list can begin with an opcode that the other begins after.
          have hle : k'.toNat ≤ k.toNat := by
            refine Nat.le_of_not_lt fun hlt => ?_
            exact absurd (hk.symm.trans ((same k).trans (h'.dropsIn_of_lt hlt)))
              (Nat.ne_of_gt hn)
          have hge : k.toNat ≤ k'.toNat := by
            refine Nat.le_of_not_lt fun hlt => ?_
            exact absurd (hk'.symm.trans ((same k').symm.trans (h.dropsIn_of_lt hlt)))
              (Nat.ne_of_gt hn')
          obtain rfl : k = k' := UInt32.toNat_inj.mp (Nat.le_antisymm hge hle)
          obtain rfl : n = n' := hk.symm.trans ((same k).trans hk')
          have hrest : ∀ id, dropsIn id rest = dropsIn id rest' := by
            intro id
            exact Nat.add_left_cancel (same id)
          rw [ih h.tail h'.tail hrest]

/-! ## What the entries say -/

/-- An opcode has an entry exactly when it has drops, and the entry says how many. -/
theorem Ordered.mem_iff (h : Ordered drops) {n : Nat} :
    (id, n) ∈ drops ↔ 0 < n ∧ dropsIn id drops = n := by
  induction drops with
  | nil => simp [dropsIn, Nat.pos_iff_ne_zero, eq_comm]
  | cons p rest ih =>
      obtain ⟨k, m⟩ := p
      have hhead := h.dropsIn_head
      by_cases hk : k = id
      · subst hk
        have hrest : (k, n) ∉ rest := by
          rw [ih h.tail, hhead.2]
          omega
        have hm := h.positive _ List.mem_cons_self
        rw [List.mem_cons, Prod.mk.injEq, hhead.1]
        constructor
        · rintro (⟨-, rfl⟩ | hin)
          · exact ⟨hm, rfl⟩
          · exact absurd hin hrest
        · rintro ⟨-, rfl⟩
          exact Or.inl ⟨rfl, rfl⟩
      · have hne : (id, n) ≠ (k, m) := fun heq => hk (Prod.mk.inj heq).1.symm
        rw [List.mem_cons, or_iff_right hne, ih h.tail, dropsIn, if_neg hk, Nat.zero_add]

theorem sum_bump (id : Opcode) (drops : List (Opcode × Nat)) :
    ((bump id drops).map Prod.snd).sum = (drops.map Prod.snd).sum + 1 := by
  induction drops with
  | nil => rfl
  | cons p rest ih =>
      obtain ⟨k, n⟩ := p
      unfold bump
      split
      · simp only [List.map_cons, List.sum_cons]
        omega
      · split
        · simp only [List.map_cons, List.sum_cons]
          omega
        · simp only [List.map_cons, List.sum_cons, ih]
          omega

/-- The drops of some opcodes, counted one after another. -/
def dropsFrom (ids : List Opcode) : List (Opcode × Nat) :=
  ids.foldr bump []

theorem ordered_dropsFrom (ids : List Opcode) : Ordered (dropsFrom ids) := by
  induction ids with
  | nil => exact Ordered.nil
  | cons id rest ih => exact ih.bump id

theorem dropsIn_dropsFrom (ids : List Opcode) : dropsIn id (dropsFrom ids) = ids.count id := by
  induction ids with
  | nil => rfl
  | cons k rest ih =>
      rw [dropsFrom, List.foldr_cons, dropsIn_bump, List.count_cons]
      by_cases h : id = k
      · rw [if_pos h, if_pos (beq_iff_eq.mpr h.symm)]
        exact congrArg (· + 1) ih
      · rw [if_neg h, if_neg (by simpa using Ne.symm h)]
        exact ih

theorem sum_dropsFrom (ids : List Opcode) :
    ((dropsFrom ids).map Prod.snd).sum = ids.length := by
  induction ids with
  | nil => rfl
  | cons id rest ih =>
      rw [dropsFrom, List.foldr_cons, sum_bump, List.length_cons]
      exact congrArg (· + 1) ih

/-- The entries of ordered drops add up to how many opcodes they count. -/
theorem Ordered.sum_eq_length (h : Ordered drops) {ids : List Opcode}
    (counts : ∀ id, dropsIn id drops = ids.count id) :
    (drops.map Prod.snd).sum = ids.length := by
  have hsame : drops = dropsFrom ids := by
    refine h.eq_of_dropsIn_eq (ordered_dropsFrom ids) fun id => ?_
    rw [counts, dropsIn_dropsFrom]
  rw [hsame, sum_dropsFrom]

/-- Ordered drops of opcodes below a limit have at most one entry for each of them. -/
theorem Ordered.length_le (h : Ordered drops) {limit : Nat}
    (below : ∀ p ∈ drops, p.1.toNat < limit) : drops.length ≤ limit := by
  have hnodup : (drops.map fun p => p.1.toNat).Nodup :=
    (List.pairwise_map.mpr h.sorted).imp Nat.ne_of_lt
  have hsubset : (drops.map fun p => p.1.toNat) ⊆ List.range limit := by
    intro n hn
    obtain ⟨p, hp, rfl⟩ := List.mem_map.mp hn
    exact List.mem_range.mpr (below p hp)
  have hlength := (hnodup.subperm hsubset).length_le
  rwa [List.length_map, List.length_range] at hlength

/-! ## Tallies -/

theorem ordered_recordOutcome {c : Tally} (id : Opcode) (outcome : Outcome)
    (h : Ordered c.drops) : Ordered (c.recordOutcome id outcome).drops := by
  cases outcome with
  | dropped reason =>
      have hreason : ∀ c : Tally, (c.countReason reason).drops = c.drops := by
        intro c
        cases reason <;> rfl
      rw [recordOutcome, hreason, countDrop]
      by_cases hlimit : id.toNat < opcodeLimit
      · rw [if_pos hlimit]
        exact h.bump id
      · rw [if_neg hlimit]
        exact h
  | completed | scheduled lane | ignored | handlerFailed error => exact h

@[simp] theorem drops_recordJob (c : Tally) (ended : JobEnd HandlerError) :
    (c.recordJob ended).drops = c.drops := by
  cases ended <;> rfl

/-- Tallies that say the same, with their drops in order, are equal. -/
theorem eq_of_count_eq {c c' : Tally} (h : Ordered c.drops) (h' : Ordered c'.drops)
    (counts : ∀ k, c.count k = c'.count k) (drops : ∀ id, c.dropsOf id = c'.dropsOf id) :
    c = c' := by
  have hdrops : c.drops = c'.drops := h.eq_of_dropsIn_eq h' drops
  obtain ⟨received, completed, scheduled, ignored, handlerFailures, unknown, denied,
    decodeFailures, saturated, sessionsGone, list⟩ := c
  rw [Tally.mk.injEq]
  exact ⟨counts .received, counts .completed, counts .scheduled, counts .ignored,
    counts .handlerFailures, counts .unknown, counts .denied, counts .decodeFailures,
    counts .saturated, counts .sessionsGone, hdrops⟩

end Tally
end PacketDispatch
