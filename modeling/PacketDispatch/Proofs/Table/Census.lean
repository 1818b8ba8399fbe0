import Mathlib.Data.Set.Card
import Mathlib.Data.String.Basic
import PacketDispatch.Proofs.Table.Firsts
import PacketDispatch.Table.Summary

/-!
# The census of a table

A summary is taken on a walk over the descriptors.  At every step it tells how many descriptors of
each side have been met and, for each word, how many of them are counted under that word; so at the
end of the walk it divides the table by side, by requirement and by lane.
-/

namespace PacketDispatch

/-! ## Words that are counted -/

section Entries

variable {word : String} {n : Nat} {entries : List (String × Nat)}

theorem lookup_cons_eq_ite (word w : String) (n : Nat) (entries : List (String × Nat)) :
    List.lookup word ((w, n) :: entries) = if word = w then some n else entries.lookup word := by
  rw [List.lookup_cons]
  by_cases hw : word = w
  · rw [if_pos hw, beq_iff_eq.mpr hw]
  · rw [if_neg hw, beq_eq_false_iff_ne.mpr hw]

/-- A word that comes before all others has no entry. -/
theorem lookup_eq_none_of_lt (before : ∀ p ∈ entries, word < p.1) : entries.lookup word = none := by
  rw [List.lookup_eq_none_iff]
  intro p hp
  exact bne_iff_ne.mpr (ne_of_lt (before p hp))

/-- One more for a word changes its own entry and no other. -/
theorem lookup_bumpWord (increasing : entries.Pairwise fun p q => p.1 < q.1) (other : String) :
    (bumpWord word entries).lookup other =
      if other = word then some ((entries.lookup word).getD 0 + 1) else entries.lookup other := by
  induction entries with
  | nil => exact lookup_cons_eq_ite other word 1 []
  | cons q rest ih =>
      obtain ⟨w, n⟩ := q
      obtain ⟨hfirst, hrest⟩ := List.pairwise_cons.mp increasing
      unfold bumpWord
      split
      · -- A word that comes first had no entry, since all others come after it.
        rename_i hbelow
        have habsent : List.lookup word ((w, n) :: rest) = none := by
          apply lookup_eq_none_of_lt
          intro p hp
          rcases List.mem_cons.mp hp with rfl | hp
          · exact hbelow
          · exact lt_trans hbelow (hfirst p hp)
        rw [habsent, lookup_cons_eq_ite]
        rfl
      · split
        · rename_i hw
          subst hw
          simp only [lookup_cons_eq_ite, if_true, Option.getD_some]
          by_cases hother : other = word
          · rw [if_pos hother, if_pos hother]
          · rw [if_neg hother, if_neg hother, if_neg hother]
        · rename_i hne
          rw [lookup_cons_eq_ite, lookup_cons_eq_ite, lookup_cons_eq_ite, if_neg hne, ih hrest]
          by_cases hother : other = w
          · rw [if_pos hother, if_pos hother, if_neg fun h => hne (h.symm.trans hother)]
          · rw [if_neg hother, if_neg hother]

theorem sum_bumpWord (word : String) (entries : List (String × Nat)) :
    ((bumpWord word entries).map Prod.snd).sum = (entries.map Prod.snd).sum + 1 := by
  induction entries with
  | nil => rfl
  | cons q rest ih =>
      obtain ⟨w, n⟩ := q
      unfold bumpWord
      split
      · simp only [List.map_cons, List.sum_cons]
        omega
      · split
        · simp only [List.map_cons, List.sum_cons]
          omega
        · simp only [List.map_cons, List.sum_cons, ih]
          omega

/-- Among words in order an entry is found under its word. -/
theorem lookup_eq_some_iff_mem (increasing : entries.Pairwise fun p q => p.1 < q.1) :
    entries.lookup word = some n ↔ (word, n) ∈ entries := by
  induction entries with
  | nil => simp
  | cons q rest ih =>
      obtain ⟨w, m⟩ := q
      obtain ⟨hfirst, hrest⟩ := List.pairwise_cons.mp increasing
      rw [lookup_cons_eq_ite, List.mem_cons, Prod.mk.injEq]
      by_cases hw : word = w
      · subst hw
        rw [if_pos rfl, Option.some_inj]
        constructor
        · intro hm
          exact Or.inl ⟨rfl, hm.symm⟩
        · rintro (⟨-, hn⟩ | hmem)
          · exact hn.symm
          · exact absurd (hfirst _ hmem) (lt_irrefl _)
      · rw [if_neg hw, ih hrest]
        constructor
        · exact Or.inr
        · rintro (⟨hword, -⟩ | hmem)
          · exact absurd hword hw
          · exact hmem

end Entries

namespace WordCounts

variable {c : WordCounts} {words : List String} {word : String} {n : Nat}

/-- How many words were counted. -/
def total (c : WordCounts) : Nat :=
  (c.entries.map Prod.snd).sum

theorem nodup_words (c : WordCounts) : (c.entries.map Prod.fst).Nodup :=
  List.pairwise_map.mpr (c.increasing.imp ne_of_lt)

/-- Every word of a list was counted as often as it stands there, and no other word has an entry. -/
structure Tells (c : WordCounts) (words : List String) : Prop where
  each : ∀ word, c.entries.lookup word =
    if words.count word = 0 then Option.none else some (words.count word)
  total : c.total = words.length

namespace Tells

theorem none : WordCounts.none.Tells [] where
  each _ := rfl
  total := rfl

theorem bump (h : c.Tells words) (word : String) : (c.bump word).Tells (words ++ [word]) where
  each other := by
    have hcount := h.each word
    rw [WordCounts.bump, lookup_bumpWord c.increasing, List.count_append]
    by_cases hother : other = word
    · subst hother
      have hone : [other].count other = 1 := by simp
      rw [if_pos rfl, hcount, hone, if_neg (Nat.succ_ne_zero _)]
      by_cases hzero : words.count other = 0
      · rw [if_pos hzero, hzero]
        rfl
      · rw [if_neg hzero]
        rfl
    · have hzero : [word].count other = 0 := List.count_eq_zero.mpr (by simpa using hother)
      rw [if_neg hother, h.each other, hzero, Nat.add_zero]
  total := by
    rw [List.length_append, ← h.total]
    exact sum_bumpWord word c.entries

/-- The entries are the words that occur, each with how often it does. -/
theorem mem_entries_iff (h : c.Tells words) :
    (word, n) ∈ c.entries ↔ 0 < n ∧ n = words.count word := by
  rw [← lookup_eq_some_iff_mem c.increasing, h.each]
  split <;> grind

end Tells
end WordCounts

/-! ## The walk over the descriptors -/

namespace Table

variable {σ : Type} {t : Table σ} {s : Summary} {d : Descriptor σ} {ds : List (Descriptor σ)}

namespace Summary

/-- An opcode that clients send is counted on their side and on its lane. -/
theorem count_of_client (s : Summary) (h : d.origin = .client) :
    s.count d = ⟨s.total, s.client + 1, s.server, s.byRequirement.bump d.requirement.text,
      s.byLane.bump d.lane.text⟩ := by
  simp only [count, h]

/-- An opcode of the server is counted on its side and on no lane. -/
theorem count_of_server (s : Summary) (h : d.origin = .server) :
    s.count d = ⟨s.total, s.client, s.server + 1, s.byRequirement.bump d.requirement.text,
      s.byLane⟩ := by
  simp only [count, h]

/-- A summary describes the descriptors that were counted: how many come from each side, how often
each requirement occurs, and how often each lane occurs among those that clients send. -/
structure Describes (s : Summary) (ds : List (Descriptor σ)) : Prop where
  client : s.client = ds.countP fun d => d.origin = .client
  server : s.server = ds.countP fun d => d.origin = .server
  byRequirement : s.byRequirement.Tells (ds.map fun d => d.requirement.text)
  byLane : s.byLane.Tells ((ds.filter fun d => d.origin = .client).map fun d => d.lane.text)

namespace Describes

theorem count (h : s.Describes ds) (d : Descriptor σ) : (s.count d).Describes (ds ++ [d]) := by
  have hrequirement : (s.byRequirement.bump d.requirement.text).Tells
      ((ds ++ [d]).map fun d => d.requirement.text) := by
    rw [List.map_append]
    exact h.byRequirement.bump d.requirement.text
  cases horigin : d.origin with
  | client =>
      rw [s.count_of_client horigin]
      refine ⟨?_, ?_, hrequirement, ?_⟩
      · simp [horigin, h.client]
      · simp [horigin, h.server]
      · simpa [horigin] using h.byLane.bump d.lane.text
  | server =>
      rw [s.count_of_server horigin]
      refine ⟨?_, ?_, hrequirement, ?_⟩
      · simp [horigin, h.client]
      · simp [horigin, h.server]
      · simpa [horigin] using h.byLane

theorem foldl_count (h : s.Describes ds) (rest : List (Descriptor σ)) :
    (rest.foldl Summary.count s).Describes (ds ++ rest) := by
  induction rest generalizing s ds with
  | nil => simpa using h
  | cons d rest ih => simpa using ih (h.count d)

/-- The two sides are all there is. -/
theorem client_add_server (h : s.Describes ds) : s.client + s.server = ds.length := by
  rw [h.client, h.server, List.length_eq_countP_add_countP fun d => d.origin = Origin.client]
  congr 1
  apply List.countP_congr
  intro d _
  cases d.origin <;> simp

theorem total_byRequirement (h : s.Describes ds) : s.byRequirement.total = ds.length := by
  rw [h.byRequirement.total, List.length_map]

theorem total_byLane (h : s.Describes ds) : s.byLane.total = s.client := by
  rw [h.byLane.total, List.length_map, h.client, List.countP_eq_length_filter]

theorem mem_byRequirement_iff (h : s.Describes ds) (word : String) (n : Nat) :
    (word, n) ∈ s.byRequirement.entries ↔
      0 < n ∧ n = ds.countP fun d => d.requirement.text = word := by
  rw [h.byRequirement.mem_entries_iff, List.count, List.countP_map]
  rfl

theorem mem_byLane_iff (h : s.Describes ds) (word : String) (n : Nat) :
    (word, n) ∈ s.byLane.entries ↔
      0 < n ∧ n = ds.countP fun d => d.origin = .client ∧ d.lane.text = word := by
  have hcount : ((ds.filter fun d => d.origin = .client).map fun d => d.lane.text).count word =
      ds.countP fun d => d.origin = .client ∧ d.lane.text = word := by
    rw [List.count, List.countP_map, List.countP_filter]
    apply List.countP_congr
    intro d _
    simp [and_comm]
  rw [h.byLane.mem_entries_iff, hcount]

end Describes

theorem total_foldl_count (s : Summary) (ds : List (Descriptor σ)) :
    (ds.foldl Summary.count s).total = s.total := by
  induction ds generalizing s with
  | nil => rfl
  | cons d rest ih =>
      rw [List.foldl_cons, ih]
      cases horigin : d.origin with
      | client => rw [s.count_of_client horigin]
      | server => rw [s.count_of_server horigin]

end Summary

theorem describes_summary (t : Table σ) : t.summary.Describes t.descriptors := by
  have hstart : Summary.Describes ⟨t.size, 0, 0, .none, .none⟩ ([] : List (Descriptor σ)) :=
    ⟨rfl, rfl, .none, .none⟩
  exact hstart.foldl_count t.descriptors

theorem total_summary (t : Table σ) : t.summary.total = t.size :=
  Summary.total_foldl_count _ t.descriptors

/-- A table in order has as many descriptors as there are opcodes that it knows. -/
theorem InOrder.ncard_known (h : t.InOrder) : {id | (t.lookup id).isSome}.ncard = t.size := by
  have hknown : {id | (t.lookup id).isSome} =
      ((t.descriptors.map Descriptor.id).toFinset : Set Opcode) := by
    ext id
    simp only [Set.mem_ofPred_eq, List.coe_toFinset, List.mem_map, Option.isSome_iff_exists]
    constructor
    · rintro ⟨d, hd⟩
      exact ⟨d, mem_of_lookup hd, id_of_lookup hd⟩
    · rintro ⟨d, hd, rfl⟩
      exact ⟨d, h.lookup_of_mem hd⟩
  rw [hknown, Set.ncard_coe_finset, List.toFinset_card_of_nodup h.nodup_ids, List.length_map]
  rfl

/-- The summary of a table that registrations build divides it.  Its total is the size of the table,
which is the number of opcodes that a lookup finds; the two sides add up to it, and so do the
requirements, and the lanes add up to the side of the clients.  The entries are, without repetition,
the words of the requirements and of the lanes that occur, each with the number of the descriptors
that have that requirement, or that clients send and that run on that lane; none of them is zero. -/
theorem summary_partitions_table (registrations : List (Registration σ)) :
    let t := built registrations
    let s := t.summary
    s.total = t.size ∧ t.size = {id | (t.lookup id).isSome}.ncard ∧
      s.total = s.client + s.server ∧ s.total = s.byRequirement.total ∧
      s.client = s.byLane.total ∧
      s.client = (t.descriptors.countP fun d => d.origin = .client) ∧
      s.server = (t.descriptors.countP fun d => d.origin = .server) ∧
      (∀ word n, (word, n) ∈ s.byRequirement.entries ↔
        0 < n ∧ n = t.descriptors.countP fun d => d.requirement.text = word) ∧
      (∀ word n, (word, n) ∈ s.byLane.entries ↔
        0 < n ∧ n = t.descriptors.countP fun d => d.origin = .client ∧ d.lane.text = word) ∧
      (s.byRequirement.entries.map Prod.fst).Nodup ∧ (s.byLane.entries.map Prod.fst).Nodup := by
  intro t s
  have horder : t.InOrder := inOrder_addAll registrations
  have hdescribes : s.Describes t.descriptors := describes_summary t
  have htotal : s.total = t.size := total_summary t
  refine ⟨htotal, horder.ncard_known.symm, ?_, ?_, hdescribes.total_byLane.symm,
    hdescribes.client, hdescribes.server, hdescribes.mem_byRequirement_iff,
    hdescribes.mem_byLane_iff, s.byRequirement.nodup_words, s.byLane.nodup_words⟩
  · rw [htotal, hdescribes.client_add_server]
    rfl
  · rw [htotal, hdescribes.total_byRequirement]
    rfl

end Table
end PacketDispatch
