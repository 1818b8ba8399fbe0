import PacketDispatch.Text.Blank
import Mathlib.Data.List.TakeWhile

/-!
# Trimmed texts

What trimming leaves is the part of a text between blank characters at its ends, and neither of its own
ends is blank.
-/

namespace PacketDispatch
namespace Text

variable {cs core : List Char}

/-- The part of a text that is left without the blank characters at its ends. -/
structure Trims (cs core : List Char) : Prop where
  split : ∃ lead trail, cs = lead ++ core ++ trail ∧ ∀ c ∈ lead ++ trail, isBlank c = true
  head : ∀ c, core.head? = some c → isBlank c = false
  last : ∀ c, core.getLast? = some c → isBlank c = false

theorem not_blank_of_head?_dropWhile {c : Char} (h : (cs.dropWhile isBlank).head? = some c) :
    isBlank c = false := by
  have hnot := List.head?_dropWhile_not isBlank cs
  rwa [h] at hnot

theorem trims_trimList (cs : List Char) : Trims cs (trimList cs) := by
  let lead := cs.takeWhile isBlank
  let tail := cs.dropWhile isBlank
  let trail := (tail.reverse.takeWhile isBlank).reverse
  have hlead : cs = lead ++ tail := List.takeWhile_append_dropWhile.symm
  have htrail : tail = trimList cs ++ trail := by
    rw [trimList, ← List.reverse_append, List.takeWhile_append_dropWhile, List.reverse_reverse]
  refine ⟨⟨lead, trail, ?_, ?_⟩, ?_, ?_⟩
  · rw [List.append_assoc, ← htrail]
    exact hlead
  · intro c hc
    rcases List.mem_append.mp hc with hc | hc
    · exact List.mem_takeWhile_imp hc
    · exact List.mem_takeWhile_imp (List.mem_reverse.mp hc)
  · intro c hc
    have htail : tail.head? = some c := by
      rw [htrail, List.head?_append, hc]
      rfl
    exact not_blank_of_head?_dropWhile htail
  · intro c hc
    rw [trimList, List.getLast?_reverse] at hc
    exact not_blank_of_head?_dropWhile hc

/-- A text without blank characters is left as it is. -/
theorem trimList_of_forall_not_blank (h : ∀ c ∈ cs, isBlank c = false) : trimList cs = cs := by
  have hkeep : ∀ l : List Char, (∀ c ∈ l, isBlank c = false) → l.dropWhile isBlank = l := by
    intro l hl
    rw [List.dropWhile_eq_self_iff]
    intro hlength
    simp [hl _ (List.getElem_mem hlength)]
  rw [trimList, hkeep cs h, hkeep _ fun c hc => h c (List.mem_reverse.mp hc), List.reverse_reverse]

end Text
end PacketDispatch
