import PacketDispatch.Proofs.Wire.Failing

/-!
# Reads by position

A reader can also keep a position in the whole payload: it takes slices from there and subtracts
the position from the length.  Slices and differences are then partial, and a position past the end
would leave them without a value.  Such reads are written down here with partial slices and
differences.  They have a result wherever earlier reads have come to, and it is the result of the
reads from a cursor.
-/

namespace PacketDispatch
namespace Wire

/-! ## Slices and differences -/

/-- The difference of two numbers, when it is not negative. -/
def difference? (m n : Nat) : Option Nat :=
  if n ≤ m then some (m - n) else none

/-- The bytes of a payload from one position to another, when these are in order and in it. -/
def slice? (payload : List UInt8) (first last : Nat) : Option (List UInt8) :=
  if first ≤ last ∧ last ≤ payload.length then some (payload.extract first last) else none

/-- A read that keeps a position in a payload.  It has no result when it asks for a difference or a
slice that there is not. -/
def Checked (α : Type) : Type :=
  List UInt8 → Nat → Option (Except Fault α × Nat)

namespace Checked

variable {α β : Type}

/-- A value without reading. -/
def pure (a : α) : Checked α :=
  fun _ position => some (.ok a, position)

/-- A read followed by one that depends on its value; a fault ends the read where it stands. -/
def bind (x : Checked α) (next : α → Checked β) : Checked β :=
  fun payload position =>
    match x payload position with
    | some (.ok a, position') => next a payload position'
    | some (.error fault, position') => some (.error fault, position')
    | none => none

instance : Monad Checked where
  pure := Checked.pure
  bind := Checked.bind

/-- The next `n` bytes; when there are fewer, the position stays. -/
def bytes (n : Nat) : Checked (List UInt8) :=
  fun payload position =>
    (difference? payload.length position).bind fun remaining =>
      if remaining < n then some (.error (.truncated position n remaining), position)
      else (slice? payload position (position + n)).map fun bs => (.ok bs, position + n)

/-- One byte. -/
def byte : Checked UInt8 := do
  let bs ← bytes 1
  return UInt8.ofNat (littleEndian bs)

/-- One byte as a truth value. -/
def flag : Checked Bool := do
  let b ← byte
  return b != 0

/-- A 32-bit number. -/
def word32 : Checked UInt32 := do
  let bs ← bytes 4
  return UInt32.ofNat (littleEndian bs)

/-- A 64-bit number. -/
def word64 : Checked UInt64 := do
  let bs ← bytes 8
  return UInt64.ofNat (littleEndian bs)

/-- The bytes that a mask announces, from the given places upwards. -/
def maskedBytes (mask : UInt8) : List Nat → Checked (List UInt8)
  | [] => return []
  | place :: places => do
    let b ← if mask.toNat.testBit place then byte else Checked.pure 0
    let more ← maskedBytes mask places
    return b :: more

/-- A packed identifier. -/
def packedGuid : Checked UInt64 := do
  let mask ← byte
  let bs ← maskedBytes mask (List.range 8)
  return UInt64.ofNat (littleEndian bs)

/-- A text up to the next zero byte, behind which the position moves by hand. -/
def cstring : Checked String :=
  fun payload position =>
    (slice? payload position payload.length).bind fun ahead =>
      match ahead.findIdx? (· == 0) with
      | none => some (.error (.unterminated position), position)
      | some terminator =>
        Checked.bind (bytes terminator)
          (fun content _ position' =>
            match String.fromUTF8? ⟨content.toArray⟩ with
            | some text => some (.ok text, position' + 1)
            | none => some (.error (.badText position), position' + 1))
          payload position

end Checked

/-- The read of a value of some kind that keeps a position. -/
def Part.checked : Part → Checked Datum
  | .byte => do return .byte (← Checked.byte)
  | .flag => do return .flag (← Checked.flag)
  | .word32 => do return .word32 (← Checked.word32)
  | .word64 => do return .word64 (← Checked.word64)
  | .packedGuid => do return .packedGuid (← Checked.packedGuid)
  | .cstring => do return .cstring (← Checked.cstring)

/-- The position that reads come to, one after another, whether or not they fail. -/
def Checked.afterReads? (payload : List UInt8) (position : Nat) (parts : List Part) : Option Nat :=
  parts.foldlM (fun position part => (part.checked payload position).map Prod.snd) position

/-- The position that a fault tells. -/
def Fault.position? : Fault → Option Nat
  | .truncated position _ _ | .unterminated position | .badText position => some position
  | .malformed _ => none

/-! ## Reads from a cursor -/

variable {α β : Type} {payload : List UInt8} {c : Cursor}

theorem slice?_eq_some {first last : Nat} (h : first ≤ last) (hlast : last ≤ payload.length) :
    slice? payload first last = some (payload.extract first last) :=
  if_pos ⟨h, hlast⟩

theorem difference?_eq_some {m n : Nat} (h : n ≤ m) : difference? m n = some (m - n) :=
  if_pos h

/-- A read by position agrees with a reader.  From every place in a payload it has the result of the
reader, and a fault tells a position that is not before that place. -/
structure Checked.Agrees (x : Checked α) (r : Reader α) : Prop where
  inBounds : r.InBounds
  same : ∀ payload c, c.In payload →
    x payload c.position = some ((r c).1, (r c).2.position)
  ahead : ∀ payload c fault, c.In payload → (r c).1 = .error fault →
    ∃ position, fault.position? = some position ∧ c.position ≤ position

theorem Checked.maskedBytes_cons (mask : UInt8) (place : Nat) (places : List Nat) :
    Checked.maskedBytes mask (place :: places) =
      (if mask.toNat.testBit place then Checked.byte else Checked.pure 0) >>= fun b =>
        Checked.maskedBytes mask places >>= fun more => Pure.pure (b :: more) := by
  rw [Checked.maskedBytes]
  split <;> rfl

/-- The first zero byte is behind the bytes before it that are not zero. -/
theorem findIdx?_zero (bs : List UInt8) :
    bs.findIdx? (· == 0) =
      let content := bs.takeWhile (· != 0)
      if content.length < bs.length then some content.length else none := by
  induction bs with
  | nil => rfl
  | cons b rest ih =>
      by_cases hb : b = 0
      · simp [List.findIdx?_cons, hb]
      · have hskip : (b == 0) = false := beq_eq_false_iff_ne.mpr hb
        have htake : (b != 0) = true := bne_iff_ne.mpr hb
        rw [List.findIdx?_cons, List.takeWhile_cons, hskip, htake, ih]
        by_cases hend : (rest.takeWhile (· != 0)).length < rest.length
        · simp [hend]
        · simp [hend]

/-- What follows a place in a payload is the slice from there to the end. -/
theorem slice?_rest (h : c.In payload) :
    slice? payload c.position payload.length = some c.rest := by
  rw [slice?_eq_some h.position (Nat.le_refl _), List.extract_eq_take_drop, ← h.rest,
    ← h.position_add_remaining, Nat.add_sub_cancel_left]
  exact congrArg some List.take_length

namespace Checked.Agrees

theorem pure (a : α) : (Pure.pure a : Checked α).Agrees (Pure.pure a) where
  inBounds := .pure a
  same _ _ _ := rfl
  ahead _ _ _ _ h := nomatch h

theorem bind {x : Checked α} {r : Reader α} {next : α → Checked β} {next' : α → Reader β}
    (h : x.Agrees r) (hnext : ∀ a, (next a).Agrees (next' a)) :
    (x >>= next).Agrees (r >>= next') where
  inBounds := h.inBounds.bind fun a => (hnext a).inBounds
  same := by
    intro payload c hc
    have hsame := h.same payload c hc
    have hin := (h.inBounds payload c hc).1
    change Checked.bind x next payload c.position = some ((Reader.bind r next' c).1,
      (Reader.bind r next' c).2.position)
    unfold Checked.bind Reader.bind
    rw [hsame]
    rcases hread : r c with ⟨fault | a, c'⟩
    · rfl
    · rw [hread] at hin
      exact (hnext a).same payload c' hin
  ahead := by
    intro payload c fault hc hfault
    obtain ⟨hin, hle, -⟩ := h.inBounds payload c hc
    obtain ⟨c₂, hread⟩ : ∃ c₂, (r >>= next') c = (.error fault, c₂) := ⟨_, Prod.ext hfault rfl⟩
    rcases Reader.bind_eq_error_iff.mp hread with hfirst | ⟨a, c₁, hfirst, hrest⟩
    · exact h.ahead payload c fault hc (congrArg Prod.fst hfirst)
    · rw [hfirst] at hin hle
      obtain ⟨position, hposition, hafter⟩ :=
        (hnext a).ahead payload c₁ fault hin (congrArg Prod.fst hrest)
      exact ⟨position, hposition, Nat.le_trans hle hafter⟩

theorem bytes (n : Nat) : (Checked.bytes n).Agrees (Wire.bytes n) where
  inBounds := inBounds_bytes n
  same := by
    intro payload c hc
    have hlength := hc.position_add_remaining
    rw [bytes_eq_slice hc, Checked.bytes, difference?_eq_some hc.position]
    by_cases henough : c.position + n ≤ payload.length
    · have hremaining : ¬payload.length - c.position < n := by omega
      rw [Option.bind_some, if_neg hremaining, if_pos henough,
        slice?_eq_some (Nat.le_add_right _ _) henough]
      rfl
    · have hremaining : payload.length - c.position < n := by omega
      rw [Option.bind_some, if_pos hremaining, if_neg henough]
  ahead := by
    intro payload c fault hc hfault
    obtain ⟨-, rfl, -⟩ := bytes_eq_error_iff.mp (Prod.ext hfault rfl)
    exact ⟨c.position, rfl, Nat.le_refl _⟩

theorem byte : Checked.byte.Agrees Wire.byte :=
  (Agrees.bytes 1).bind fun _ => .pure _

theorem flag : Checked.flag.Agrees Wire.flag :=
  byte.bind fun _ => .pure _

theorem word32 : Checked.word32.Agrees Wire.word32 :=
  (Agrees.bytes 4).bind fun _ => .pure _

theorem word64 : Checked.word64.Agrees Wire.word64 :=
  (Agrees.bytes 8).bind fun _ => .pure _

theorem maskedBytes (mask : UInt8) (places : List Nat) :
    (Checked.maskedBytes mask places).Agrees (Wire.maskedBytes mask places) := by
  induction places with
  | nil => exact .pure _
  | cons place places ih =>
      rw [Wire.maskedBytes_cons, Checked.maskedBytes_cons]
      refine .bind ?_ fun b => ih.bind fun more => .pure _
      split
      · exact byte
      · exact .pure _

theorem packedGuid : Checked.packedGuid.Agrees Wire.packedGuid :=
  byte.bind fun mask => (maskedBytes mask _).bind fun _ => .pure _

theorem cstring : Checked.cstring.Agrees Wire.cstring where
  inBounds := inBounds_cstring
  same := by
    intro payload c hc
    have hprefix : c.rest.takeWhile (· != 0) = c.rest.take (c.rest.takeWhile (· != 0)).length :=
      List.prefix_iff_eq_take.mp (List.takeWhile_prefix _)
    rw [Checked.cstring, slice?_rest hc, Option.bind_some, findIdx?_zero]
    unfold Wire.cstring
    dsimp only
    generalize c.rest.takeWhile (· != 0) = content at hprefix
    by_cases hend : content.length < c.remaining
    · -- The text is taken up to its terminator, so one more byte is there to move behind.
      have hread : Wire.bytes content.length c = (.ok content, c.advance content.length) := by
        rw [Wire.bytes, if_neg (Nat.lt_asymm hend), ← hprefix]
      have hbytes := (Agrees.bytes content.length).same payload c hc
      rw [hread] at hbytes
      rw [if_pos hend, if_pos (show content.length < c.rest.length from hend)]
      simp only [Checked.bind, hbytes]
      cases String.fromUTF8? ⟨content.toArray⟩ with
      | some text => rfl
      | none => rfl
    · rw [if_neg hend, if_neg (show ¬content.length < c.rest.length from hend)]
  ahead := by
    intro payload c fault hc hfault
    rcases cstring_eq_error (Prod.ext hfault rfl) with ⟨rfl, -⟩ | ⟨rfl, -⟩
    · exact ⟨c.position, rfl, Nat.le_refl _⟩
    · exact ⟨c.position, rfl, Nat.le_refl _⟩

end Checked.Agrees

theorem Part.agrees_checked (part : Part) : part.checked.Agrees part.read := by
  cases part with
  | byte => exact Checked.Agrees.byte.bind fun _ => .pure _
  | flag => exact Checked.Agrees.flag.bind fun _ => .pure _
  | word32 => exact Checked.Agrees.word32.bind fun _ => .pure _
  | word64 => exact Checked.Agrees.word64.bind fun _ => .pure _
  | packedGuid => exact Checked.Agrees.packedGuid.bind fun _ => .pure _
  | cstring => exact Checked.Agrees.cstring.bind fun _ => .pure _

/-! ## Any use of a reader -/

/-- How many bytes a read takes, when that does not depend on them. -/
def Part.width? : Part → Option Nat
  | .byte | .flag => some 1
  | .word32 => some 4
  | .word64 => some 8
  | .packedGuid | .cstring => none

/-- What a read of fixed width makes of the number that its bytes hold.  No number is cut off. -/
inductive Part.Makes : Part → Nat → Datum → Prop
  | byte (v : UInt8) : Makes .byte v.toNat (.byte v)
  | flag (v : UInt8) : Makes .flag v.toNat (.flag (v != 0))
  | word32 (v : UInt32) : Makes .word32 v.toNat (.word32 v)
  | word64 (v : UInt64) : Makes .word64 v.toNat (.word64 v)

theorem Reader.bind_pure_bind_pure {γ : Type} (r : Reader α) (f : α → β) (g : β → γ) :
    ((r >>= fun a => (Pure.pure (f a) : Reader β)) >>= fun b => (Pure.pure (g b) : Reader γ)) =
      r >>= fun a => Pure.pure (g (f a)) := by
  funext c
  change Reader.bind (Reader.bind r _) _ c = Reader.bind r _ c
  rcases hread : r c with ⟨fault | a, c'⟩
  · simp only [Reader.bind, hread]
  · simp only [Reader.bind, hread]
    rfl

/-- A read of fixed width takes its bytes and makes its value of the number that they hold. -/
theorem Part.read_eq_bytes {part : Part} {width : Nat} (h : part.width? = some width) :
    ∃ make : Nat → Datum, (∀ n < 256 ^ width, part.Makes n (make n)) ∧
      part.read =
        (bytes width >>= fun bs => (Pure.pure (make (littleEndian bs)) : Reader Datum)) := by
  cases part with
  | byte =>
      obtain rfl : 1 = width := Option.some.inj h
      refine ⟨fun n => .byte (UInt8.ofNat n), fun n hn => ?_, Reader.bind_pure_bind_pure _ _ _⟩
      have hmakes := Makes.byte (UInt8.ofNat n)
      rwa [UInt8.toNat_ofNat_of_lt' hn] at hmakes
  | flag =>
      obtain rfl : 1 = width := Option.some.inj h
      refine ⟨fun n => .flag (UInt8.ofNat n != 0), fun n hn => ?_, ?_⟩
      · have hmakes := Makes.flag (UInt8.ofNat n)
        rwa [UInt8.toNat_ofNat_of_lt' hn] at hmakes
      · calc
          Part.flag.read = ((bytes 1 >>= fun bs =>
              (Pure.pure (UInt8.ofNat (littleEndian bs) != 0) : Reader Bool)) >>=
                fun v => (Pure.pure (Datum.flag v) : Reader Datum)) :=
            congrArg (· >>= _) (Reader.bind_pure_bind_pure _ _ _)
          _ = _ := Reader.bind_pure_bind_pure _ _ _
  | word32 =>
      obtain rfl : 4 = width := Option.some.inj h
      refine ⟨fun n => .word32 (UInt32.ofNat n), fun n hn => ?_, Reader.bind_pure_bind_pure _ _ _⟩
      have hmakes := Makes.word32 (UInt32.ofNat n)
      rwa [UInt32.toNat_ofNat_of_lt' hn] at hmakes
  | word64 =>
      obtain rfl : 8 = width := Option.some.inj h
      refine ⟨fun n => .word64 (UInt64.ofNat n), fun n hn => ?_, Reader.bind_pure_bind_pure _ _ _⟩
      have hmakes := Makes.word64 (UInt64.ofNat n)
      rwa [UInt64.toNat_ofNat_of_lt' hn] at hmakes
  | packedGuid | cstring => cases h

/-- A read of fixed width succeeds when there are enough bytes.  It then goes on by its width and
has the value of the slice that it passes; else it stays. -/
theorem Part.read_of_width {part : Part} {width : Nat} (h : part.width? = some width)
    (hin : c.In payload) :
    (c.position + width ≤ payload.length ∧ ∃ datum,
        part.read c = (.ok datum, c.advance width) ∧
          part.Makes (littleEndian (payload.extract c.position (c.position + width))) datum) ∨
      (¬c.position + width ≤ payload.length ∧ ∃ fault, part.read c = (.error fault, c)) := by
  obtain ⟨make, hmakes, hread⟩ := Part.read_eq_bytes h
  have hbytes := bytes_eq_slice hin width
  by_cases henough : c.position + width ≤ payload.length
  · rw [if_pos henough] at hbytes
    have hlt := littleEndian_lt (payload.extract c.position (c.position + width))
    rw [length_of_bytes hbytes] at hlt
    refine Or.inl ⟨henough, _, ?_, hmakes _ hlt⟩
    rw [hread]
    exact Reader.bind_eq_ok_iff.mpr ⟨_, _, hbytes, rfl⟩
  · rw [if_neg henough] at hbytes
    rw [hread]
    exact Or.inr ⟨henough, _, Reader.bind_eq_error_iff.mpr (Or.inl hbytes)⟩

/-- Reads go on from the position where the one before them ended. -/
theorem Checked.afterReads?_eq_some (parts : List Part) (h : c.In payload) :
    Checked.afterReads? payload c.position parts = some (c.afterReads parts).position := by
  induction parts generalizing c with
  | nil => rfl
  | cons part rest ih =>
      have hread := part.agrees_checked.same payload c h
      have hnext := (part.inBounds_read payload c h).1
      rw [Checked.afterReads?, List.foldlM_cons, hread]
      exact ih hnext

/-- A reader stays in its payload over any use.  Reads of any kinds have been made from the start of
a payload, whether or not they failed, and one more is made.  The reads that keep a position come to
the same position and have the same result, so every difference and every slice that they ask for is
there.  The position does not decrease and is not past the end, and the bytes ahead are the rest.

A read of fixed width succeeds just when there are enough bytes; it goes on by its width, and its
value is that of the bytes at the old position, least significant first.  A fault of truncation
counts the bytes that are left, which are fewer than it needs, and no fault tells a position before
the place where the read started. -/
theorem reader_stays_in_payload (payload : List UInt8) (earlier : List Part) (part : Part) :
    let c := (Cursor.start payload).afterReads earlier
    let c' := (part.read c).2
    Checked.afterReads? payload 0 earlier = some c.position ∧
      part.checked payload c.position = some ((part.read c).1, c'.position) ∧
      c.position ≤ c'.position ∧ c'.position ≤ payload.length ∧
      c'.position + c'.remaining = payload.length ∧
      (∀ width, part.width? = some width →
        ((∃ datum, (part.read c).1 = .ok datum) ↔ c.position + width ≤ payload.length) ∧
        ∀ datum, (part.read c).1 = .ok datum → c'.position = c.position + width ∧
          part.Makes (littleEndian (payload.extract c.position (c.position + width))) datum) ∧
      (∀ position needed remaining,
        (part.read c).1 = .error (.truncated position needed remaining) →
          position + remaining = payload.length ∧ remaining < needed) ∧
      ∀ fault, (part.read c).1 = .error fault →
        ∃ position, fault.position? = some position ∧ c.position ≤ position := by
  intro c c'
  have hin : c.In payload := (Cursor.In.start payload).afterReads earlier
  have hagrees := part.agrees_checked
  obtain ⟨hin', hle, hwithin⟩ := hagrees.inBounds payload c hin
  refine ⟨Checked.afterReads?_eq_some earlier (Cursor.In.start payload),
    hagrees.same payload c hin, hle, hin'.position, hin'.position_add_remaining, ?_, ?_, ?_⟩
  · intro width hwidth
    rcases Part.read_of_width hwidth hin with
      ⟨henough, datum, hread, hmakes⟩ | ⟨hshort, fault, hread⟩
    · have hplace : c' = c.advance width := congrArg Prod.snd hread
      rw [hread, hplace]
      refine ⟨iff_of_true ⟨datum, rfl⟩ henough, fun datum' hsame => ?_⟩
      obtain rfl : datum = datum' := Except.ok.inj hsame
      exact ⟨rfl, hmakes⟩
    · rw [hread]
      exact ⟨iff_of_false nofun hshort, nofun⟩
  · intro position needed remaining hfault
    exact hwithin _ hfault
  · intro fault hfault
    exact hagrees.ahead payload c fault hin hfault

end Wire
end PacketDispatch
