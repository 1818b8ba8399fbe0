import PacketDispatch.Proofs.Wire.Text

/-!
# Texts that are read back

No character but zero has a zero byte in its encoding.  So texts without this character can be written
one after another, each with a zero byte after it, and the zero bytes are just where the texts end:
reading gives back the same texts, whatever follows.  What is read from a payload in general depends on
the first zero byte ahead: whether there is one, and whether the bytes before it are UTF-8.
-/

namespace PacketDispatch
namespace Wire

variable {ahead content rest : List UInt8} {text : String} {position : Nat}

/-- So many texts, one after another. -/
def cstrings : Nat → Reader (List String)
  | 0 => return []
  | count + 1 => do
    let text ← cstring
    let more ← cstrings count
    return text :: more

/-- The bytes ahead up to the first zero byte, and those after it. -/
structure EndsAtZero (ahead content rest : List UInt8) : Prop where
  split : ahead = content ++ 0 :: rest
  first : 0 ∉ content

/-- Bytes that are UTF-8. -/
def IsText (content : List UInt8) : Prop :=
  (ByteArray.mk content.toArray).IsValidUTF8

/-! ## Zero bytes in texts -/

/-- A byte of an encoding is the whole character or has its highest bit set. -/
theorem eq_or_le_of_mem_utf8EncodeChar {c : Char} {b : UInt8}
    (h : b ∈ String.utf8EncodeChar c) : b.toNat = c.val.toNat ∨ 128 ≤ b.toNat := by
  unfold String.utf8EncodeChar at h
  dsimp only at h
  split_ifs at h
  · left
    rw [List.mem_singleton.mp h, UInt8.toNat_ofNat']
    omega
  all_goals
    right
    simp only [List.mem_cons, List.not_mem_nil, or_false, ← UInt8.toNat_inj,
      UInt8.toNat_ofNat'] at h
    omega

theorem zero_mem_utf8EncodeChar_iff (c : Char) :
    0 ∈ String.utf8EncodeChar c ↔ c = '\x00' := by
  constructor
  · intro h
    rcases eq_or_le_of_mem_utf8EncodeChar h with hval | hhigh
    · exact Char.ext (UInt32.toNat_inj.mp hval.symm)
    · contradiction
  · rintro rfl
    decide

theorem textBytes_eq_flatMap (text : String) :
    textBytes text = text.toList.flatMap String.utf8EncodeChar := by
  have hencode : text.toUTF8 = text.toList.utf8Encode := String.utf8Encode_toList.symm
  rw [textBytes, hencode, List.utf8Encode, List.data_toByteArray]

/-- A text has a zero byte just when it has the character zero. -/
theorem zero_mem_textBytes_iff : 0 ∈ textBytes text ↔ '\x00' ∈ text.toList := by
  simp only [textBytes_eq_flatMap, List.mem_flatMap, zero_mem_utf8EncodeChar_iff, exists_eq_right]

theorem isText_iff : IsText content ↔ ∃ text, content = textBytes text := by
  constructor
  · intro h
    exact ⟨String.ofByteArray _ h, rfl⟩
  · rintro ⟨text, rfl⟩
    exact text.isValidUTF8

/-! ## Reading back what was written -/

theorem cstring_cstringBytes (h : '\x00' ∉ text.toList) (position : Nat) (rest : List UInt8) :
    cstring ⟨position, cstringBytes text ++ rest⟩ =
      (.ok text, ⟨position + (cstringBytes text).length, rest⟩) := by
  have hbytes : cstringBytes text = textBytes text ++ [0] := rfl
  have hfirst : 0 ∉ textBytes text := zero_mem_textBytes_iff.not.mpr h
  refine cstring_eq_ok_iff.mpr ⟨hfirst, rest, ?_, ?_⟩
  · rw [hbytes, List.append_assoc, List.singleton_append]
  · rw [hbytes, List.length_append, List.length_singleton]

/-- Texts without the character zero are read back one after another. -/
theorem cstrings_cstringBytes {texts : List String} (h : ∀ text ∈ texts, '\x00' ∉ text.toList)
    (position : Nat) (rest : List UInt8) :
    cstrings texts.length ⟨position, texts.flatMap cstringBytes ++ rest⟩ =
      (.ok texts, ⟨position + (texts.flatMap cstringBytes).length, rest⟩) := by
  induction texts generalizing position with
  | nil => rfl
  | cons text texts ih =>
      have hmore := ih (fun later hlater => h later (List.mem_cons_of_mem text hlater))
        (position + (cstringBytes text).length)
      rw [List.flatMap_cons, List.append_assoc, List.length_append, ← Nat.add_assoc]
      refine Reader.bind_eq_ok_iff.mpr
        ⟨text, _, cstring_cstringBytes (h text List.mem_cons_self) position _, ?_⟩
      exact Reader.bind_eq_ok_iff.mpr ⟨texts, _, hmore, rfl⟩

/-! ## What is read from any payload -/

theorem not_mem_or_endsAtZero (ahead : List UInt8) :
    0 ∉ ahead ∨ ∃ content rest, EndsAtZero ahead content rest := by
  rcases unterminated_or_terminated ahead with hnone | ⟨content, rest, hfirst, hsplit⟩
  · exact .inl hnone
  · exact .inr ⟨content, rest, hsplit, hfirst⟩

theorem EndsAtZero.mem (h : EndsAtZero ahead content rest) : 0 ∈ ahead := by
  rw [h.split]
  exact List.mem_append_right content List.mem_cons_self

/-- There is one first zero byte at most. -/
theorem EndsAtZero.content_eq (h : EndsAtZero ahead content rest) :
    ahead.takeWhile (· != 0) = content := by
  rw [h.split, takeWhile_terminated h.first]

theorem cstring_eq_ok_iff_endsAtZero {c' : Cursor} :
    cstring ⟨position, ahead⟩ = (.ok text, c') ↔
      ∃ rest, EndsAtZero ahead (textBytes text) rest ∧
        c' = ⟨position + ((textBytes text).length + 1), rest⟩ := by
  rw [cstring_eq_ok_iff]
  constructor
  · rintro ⟨hfirst, rest, hsplit, hplace⟩
    exact ⟨rest, ⟨hsplit, hfirst⟩, hplace⟩
  · rintro ⟨rest, hends, hplace⟩
    exact ⟨hends.first, rest, hends.split, hplace⟩

theorem fst_cstring_of_isText (position : Nat) (h : EndsAtZero ahead content rest)
    (hvalid : IsText content) :
    ∃ text, (cstring ⟨position, ahead⟩).1 = .ok text := by
  obtain ⟨text, rfl⟩ := isText_iff.mp hvalid
  exact ⟨text, congrArg Prod.fst (cstring_eq_ok_iff_endsAtZero.mpr ⟨rest, h, rfl⟩)⟩

theorem fst_cstring_of_not_isText (h : EndsAtZero ahead content rest)
    (hinvalid : ¬IsText content) :
    (cstring ⟨position, ahead⟩).1 = .error (.badText position) := by
  have hnone : String.fromUTF8? ⟨content.toArray⟩ = none := by
    rw [Option.eq_none_iff_forall_ne_some]
    intro text hsome
    exact hinvalid (isText_iff.mpr ⟨text, fromUTF8?_eq_some_iff.mp hsome⟩)
  rw [h.split, cstring_of_terminated h.first, hnone]

theorem fst_cstring_of_not_mem (h : 0 ∉ ahead) :
    (cstring ⟨position, ahead⟩).1 = .error (.unterminated position) :=
  congrArg Prod.fst (cstring_of_unterminated h)

theorem exists_fst_cstring_eq_ok_iff :
    (∃ text, (cstring ⟨position, ahead⟩).1 = .ok text) ↔
      ∃ content rest, EndsAtZero ahead content rest ∧ IsText content := by
  constructor
  · rintro ⟨text, hread⟩
    obtain ⟨rest, hends, -⟩ := cstring_eq_ok_iff_endsAtZero.mp (Prod.ext hread rfl)
    exact ⟨_, rest, hends, isText_iff.mpr ⟨text, rfl⟩⟩
  · rintro ⟨content, rest, hends, hvalid⟩
    exact fst_cstring_of_isText position hends hvalid

/-- A text is unterminated just when there is no zero byte ahead, and no text just when the bytes
before the first one are no UTF-8. -/
theorem fst_cstring_eq_error_iff (position : Nat) (ahead : List UInt8) :
    ((cstring ⟨position, ahead⟩).1 = .error (.unterminated position) ↔ 0 ∉ ahead) ∧
      ((cstring ⟨position, ahead⟩).1 = .error (.badText position) ↔
        ∃ content rest, EndsAtZero ahead content rest ∧ ¬IsText content) := by
  rcases not_mem_or_endsAtZero ahead with hnone | ⟨content, rest, hends⟩
  · rw [fst_cstring_of_not_mem hnone]
    refine ⟨iff_of_true rfl hnone, iff_of_false (by simp) ?_⟩
    rintro ⟨content, rest, hends, -⟩
    exact hnone hends.mem
  · have honly : (∃ content rest, EndsAtZero ahead content rest ∧ ¬IsText content) ↔
        ¬IsText content := by
      constructor
      · rintro ⟨content', rest', hends', hinvalid⟩
        rwa [← hends.content_eq, hends'.content_eq]
      · exact fun hinvalid => ⟨content, rest, hends, hinvalid⟩
    rw [honly]
    by_cases hvalid : IsText content
    · obtain ⟨text, hread⟩ := fst_cstring_of_isText position hends hvalid
      rw [hread]
      exact ⟨iff_of_false (by simp) (not_not.mpr hends.mem),
        iff_of_false (by simp) (not_not.mpr hvalid)⟩
    · rw [fst_cstring_of_not_isText hends hvalid]
      exact ⟨iff_of_false (by simp) (not_not.mpr hends.mem), iff_of_true rfl hvalid⟩

/-- Texts without the character zero that are written one after another, each with a zero byte after
it, are read back in their order, and what follows them is left.  From any place of any payload, a text
is read just when there is a zero byte ahead and the bytes before the first one are UTF-8; it is the
text with these bytes, and the zero byte is passed.  Otherwise the read reports the place where it
started: as unterminated when there is no zero byte ahead, and as no text when there is. -/
theorem terminated_texts_read_back :
    (∀ (texts : List String) (position : Nat) (rest : List UInt8),
      (∀ text ∈ texts, '\x00' ∉ text.toList) →
        cstrings texts.length ⟨position, texts.flatMap cstringBytes ++ rest⟩ =
          (.ok texts, ⟨position + (texts.flatMap cstringBytes).length, rest⟩)) ∧
      ∀ (payload : List UInt8) (position : Nat),
        let ahead := payload.drop position
        let c : Cursor := ⟨position, ahead⟩
        ((∃ text, (cstring c).1 = .ok text) ↔
          ∃ content rest, EndsAtZero ahead content rest ∧ IsText content) ∧
        (∀ text c', cstring c = (.ok text, c') ↔
          ∃ rest, EndsAtZero ahead (textBytes text) rest ∧
            c' = ⟨position + ((textBytes text).length + 1), rest⟩) ∧
        ((cstring c).1 = .error (.unterminated position) ↔ 0 ∉ ahead) ∧
        ((cstring c).1 = .error (.badText position) ↔
          ∃ content rest, EndsAtZero ahead content rest ∧ ¬IsText content) := by
  refine ⟨fun texts position rest h => cstrings_cstringBytes h position rest, ?_⟩
  intro payload position ahead c
  obtain ⟨hunterminated, hbad⟩ := fst_cstring_eq_error_iff position ahead
  exact ⟨exists_fst_cstring_eq_ok_iff, fun _ _ => cstring_eq_ok_iff_endsAtZero, hunterminated, hbad⟩

/-- A text, an empty one and one of two bytes to a character, with a byte that is no UTF-8 after
them. -/
theorem terminated_texts_read_back_mixed :
    cstrings 3 (Cursor.start [65, 0, 0, 0xC3, 0xA9, 0, 0xFF]) =
      (.ok ["A", "", "é"], ⟨6, [0xFF]⟩) := by
  have hclean : ∀ text ∈ ["A", "", "é"], '\x00' ∉ text.toList := by decide
  exact terminated_texts_read_back.1 ["A", "", "é"] 0 [0xFF] hclean

end Wire
end PacketDispatch
