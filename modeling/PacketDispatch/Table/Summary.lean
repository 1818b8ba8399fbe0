import PacketDispatch.Table.Basic

/-!
# Table summaries

How many opcodes a table has, by side, by requirement and by lane.
-/

namespace PacketDispatch

/-! ## Words that are counted -/

/-- One more for a word among entries in the order of their words. -/
def bumpWord (word : String) : List (String × Nat) → List (String × Nat)
  | [] => [(word, 1)]
  | (w, n) :: rest =>
    if word < w then (word, 1) :: (w, n) :: rest
    else if word = w then (w, n + 1) :: rest
    else (w, n) :: bumpWord word rest

theorem mem_bumpWord {word : String} {p : String × Nat} {entries : List (String × Nat)}
    (h : p ∈ bumpWord word entries) : p.1 = word ∨ ∃ q ∈ entries, q.1 = p.1 := by
  induction entries with
  | nil =>
      obtain rfl := List.mem_singleton.mp h
      exact Or.inl rfl
  | cons q rest ih =>
      obtain ⟨w, n⟩ := q
      unfold bumpWord at h
      split at h
      · rcases List.mem_cons.mp h with rfl | hp
        · exact Or.inl rfl
        · exact Or.inr ⟨p, hp, rfl⟩
      · split at h
        · rename_i hw
          rcases List.mem_cons.mp h with rfl | hp
          · exact Or.inl hw.symm
          · exact Or.inr ⟨p, List.mem_cons_of_mem _ hp, rfl⟩
        · rcases List.mem_cons.mp h with rfl | hp
          · exact Or.inr ⟨_, List.mem_cons_self, rfl⟩
          · refine (ih hp).imp_right ?_
            rintro ⟨q, hq, hqp⟩
            exact ⟨q, List.mem_cons_of_mem _ hq, hqp⟩

theorem pairwise_bumpWord (word : String) {entries : List (String × Nat)}
    (increasing : entries.Pairwise fun p q => p.1 < q.1) :
    (bumpWord word entries).Pairwise fun p q => p.1 < q.1 := by
  induction entries with
  | nil => exact List.pairwise_singleton _ _
  | cons q rest ih =>
      obtain ⟨w, n⟩ := q
      obtain ⟨hfirst, hrest⟩ := List.pairwise_cons.mp increasing
      unfold bumpWord
      split
      · rename_i hbelow
        refine List.pairwise_cons.mpr ⟨?_, increasing⟩
        intro p hp
        rcases List.mem_cons.mp hp with rfl | hp
        · exact hbelow
        · exact String.lt_trans hbelow (hfirst p hp)
      · rename_i hbelow
        split
        · exact List.pairwise_cons.mpr ⟨hfirst, hrest⟩
        · rename_i hne
          refine List.pairwise_cons.mpr ⟨?_, ih hrest⟩
          intro p hp
          rcases mem_bumpWord hp with hp | ⟨q, hq, hp⟩
          · rw [hp]
            exact String.not_le.mp fun hle => hne (String.le_antisymm hle (String.not_lt.mp hbelow))
          · rw [← hp]
            exact hfirst q hq

/-- Words with how often each was counted, in the order of the words. -/
structure WordCounts where
  entries : List (String × Nat)
  increasing : entries.Pairwise fun p q => p.1 < q.1
  deriving DecidableEq, Repr

namespace WordCounts

/-- No word counted yet. -/
def none : WordCounts :=
  ⟨[], .nil⟩

/-- One more for a word. -/
def bump (c : WordCounts) (word : String) : WordCounts :=
  ⟨bumpWord word c.entries, pairwise_bumpWord word c.increasing⟩

end WordCounts

/-! ## Summaries -/

/-- Counts over a table. Requirements and lanes are counted by their words, and what does not occur is
left out; lanes count only opcodes that clients send. -/
structure Table.Summary where
  total : Nat
  client : Nat
  server : Nat
  byRequirement : WordCounts
  byLane : WordCounts
  deriving DecidableEq, Repr

/-- One more descriptor of a table is counted. -/
def Table.Summary.count (s : Summary) (d : Descriptor σ) : Summary :=
  let s := match d.origin with
    | .client => { s with client := s.client + 1, byLane := s.byLane.bump d.lane.text }
    | .server => { s with server := s.server + 1 }
  { s with byRequirement := s.byRequirement.bump d.requirement.text }

/-- The summary of a table. -/
def Table.summary (t : Table σ) : Summary :=
  t.descriptors.foldl Summary.count ⟨t.size, 0, 0, .none, .none⟩

end PacketDispatch
