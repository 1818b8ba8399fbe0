import PacketDispatch.Proofs.Wire.Bounds
import Mathlib.Data.List.TakeWhile

/-!
# Texts in payloads

A text ends at the first zero byte.  So a payload either has no zero byte ahead, and a text in it is
unterminated, or it falls into the bytes of the text, the zero byte and the rest.  In the second case
the read succeeds when the bytes are the UTF-8 bytes of some text, and then it is this text.
-/

namespace PacketDispatch
namespace Wire

variable {c c' : Cursor} {content rest : List UInt8} {text : String}

/-- The bytes of a text. -/
def textBytes (text : String) : List UInt8 :=
  text.toUTF8.data.toList

theorem length_textBytes (text : String) : (textBytes text).length = text.utf8ByteSize :=
  rfl

/-- Bytes are read as a text just when they are its bytes. -/
theorem fromUTF8?_eq_some_iff :
    String.fromUTF8? ⟨content.toArray⟩ = some text ↔ content = textBytes text := by
  unfold String.fromUTF8?
  constructor
  · intro h
    split at h
    · rename_i hvalid
      obtain rfl := Option.some.inj h
      rfl
    · cases h
  · rintro rfl
    have hbytes : (⟨(textBytes text).toArray⟩ : ByteArray) = text.toByteArray := rfl
    rw [hbytes, dif_pos text.isValidUTF8]
    rfl

/-- A payload has no zero byte ahead, or the first one is somewhere. -/
theorem unterminated_or_terminated (bytes : List UInt8) :
    0 ∉ bytes ∨ ∃ content rest, 0 ∉ content ∧ bytes = content ++ 0 :: rest := by
  by_cases h : 0 ∈ bytes
  · obtain ⟨content, rest, hsplit, hfirst⟩ := List.eq_append_cons_of_mem h
    exact Or.inr ⟨content, rest, hfirst, hsplit⟩
  · exact Or.inl h

theorem takeWhile_of_not_mem (h : 0 ∉ content) :
    content.takeWhile (· != 0) = content := by
  apply List.takeWhile_eq_self_iff.mpr
  intro b hb
  exact bne_iff_ne.mpr fun hzero => h (hzero ▸ hb)

theorem takeWhile_terminated (h : 0 ∉ content) (rest : List UInt8) :
    (content ++ 0 :: rest).takeWhile (· != 0) = content := by
  rw [List.takeWhile_append, takeWhile_of_not_mem h, if_pos rfl,
    List.takeWhile_cons_of_neg (by decide), List.append_nil]

theorem cstring_of_unterminated {position : Nat} (h : 0 ∉ content) :
    cstring ⟨position, content⟩ = (.error (.unterminated position), ⟨position, content⟩) := by
  have hends : ¬content.length < (Cursor.mk position content).remaining := Nat.lt_irrefl _
  unfold cstring
  dsimp only
  rw [takeWhile_of_not_mem h, if_neg hends]

theorem cstring_of_terminated {position : Nat} (h : 0 ∉ content) (rest : List UInt8) :
    cstring ⟨position, content ++ 0 :: rest⟩ =
      (match String.fromUTF8? ⟨content.toArray⟩ with
        | some text => .ok text
        | none => .error (.badText position),
        ⟨position + (content.length + 1), rest⟩) := by
  have hends : content.length < (Cursor.mk position (content ++ 0 :: rest)).remaining := by
    rw [Cursor.remaining, List.length_append, List.length_cons]
    omega
  have hafter : (Cursor.mk position (content ++ 0 :: rest)).advance (content.length + 1) =
      ⟨position + (content.length + 1), rest⟩ := by
    rw [Cursor.advance, ← List.drop_drop, List.drop_left]
    rfl
  unfold cstring
  dsimp only
  rw [takeWhile_terminated h, if_pos hends, hafter]
  cases String.fromUTF8? ⟨content.toArray⟩ <;> rfl

/-- A text is read exactly from its bytes and a zero byte, whatever follows, when none of its bytes is
zero itself. -/
theorem cstring_eq_ok_iff :
    cstring c = (.ok text, c') ↔
      0 ∉ textBytes text ∧
        ∃ rest, c.rest = textBytes text ++ 0 :: rest ∧
          c' = ⟨c.position + ((textBytes text).length + 1), rest⟩ := by
  obtain ⟨position, bytes⟩ := c
  constructor
  · intro h
    rcases unterminated_or_terminated bytes with hnone | ⟨content, rest, hfirst, rfl⟩
    · rw [cstring_of_unterminated hnone] at h
      cases (Prod.mk.inj h).1
    · rw [cstring_of_terminated hfirst] at h
      obtain ⟨htext, rfl⟩ := Prod.mk.inj h
      split at htext
      · rename_i found hfound
        obtain rfl := Except.ok.inj htext
        obtain rfl := fromUTF8?_eq_some_iff.mp hfound
        exact ⟨hfirst, rest, rfl, rfl⟩
      · cases htext
  · rintro ⟨hfirst, rest, hrest, rfl⟩
    obtain rfl : bytes = textBytes text ++ 0 :: rest := hrest
    rw [cstring_of_terminated hfirst, fromUTF8?_eq_some_iff.mpr rfl]

end Wire
end PacketDispatch
