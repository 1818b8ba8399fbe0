import PacketDispatch.Wire.Packet
import Mathlib.Algebra.Group.Nat.Defs

/-!
# Reads stay in their payloads

A read goes on from a place in its payload to a place in the same payload that is not before it,
whatever the bytes are.  So every slice that is taken lies in the payload and no difference of places
is negative; and the numbers that are made of bytes fit their types.
-/

namespace PacketDispatch
namespace Wire

/-- A place in a payload: it is not past the end, and the bytes ahead are those that follow. -/
structure Cursor.In (c : Cursor) (payload : List UInt8) : Prop where
  position : c.position ≤ payload.length
  rest : c.rest = payload.drop c.position

/-- What a fault says of places is true of the payload. -/
def Fault.Within (payload : List UInt8) : Fault → Prop
  | .truncated position needed remaining =>
    position + remaining = payload.length ∧ remaining < needed
  | .unterminated position => position ≤ payload.length
  | .badText position => position < payload.length
  | .malformed _ => True

namespace Cursor.In

variable {c : Cursor} {payload : List UInt8}

theorem start (payload : List UInt8) : (Cursor.start payload).In payload :=
  ⟨Nat.zero_le _, rfl⟩

theorem position_add_remaining (h : c.In payload) : c.position + c.remaining = payload.length := by
  rw [remaining, h.rest, List.length_drop]
  exact Nat.add_sub_cancel' h.position

theorem advance (h : c.In payload) {n : Nat} (enough : n ≤ c.remaining) :
    (c.advance n).In payload where
  position := by
    rw [← h.position_add_remaining]
    exact Nat.add_le_add_left enough _
  rest := by
    rw [Cursor.advance, h.rest, List.drop_drop]

end Cursor.In

namespace Reader

/-- From any place in a payload a read comes to a place in it that is not before, and a fault tells
the truth about it. -/
def InBounds {α : Type} (r : Reader α) : Prop :=
  ∀ (payload : List UInt8) (c : Cursor), c.In payload →
    (r c).2.In payload ∧ c.position ≤ (r c).2.position ∧
      ∀ fault, (r c).1 = .error fault → fault.Within payload

variable {α β : Type}

theorem InBounds.pure (a : α) : (Pure.pure a : Reader α).InBounds :=
  fun _ _ h => ⟨h, Nat.le_refl _, nofun⟩

theorem InBounds.malformed (reason : String) : (fail (.malformed reason) : Reader α).InBounds := by
  intro payload c h
  refine ⟨h, Nat.le_refl _, fun fault hfault => ?_⟩
  obtain rfl : Fault.malformed reason = fault := Except.error.inj hfault
  exact trivial

theorem InBounds.bind {r : Reader α} {next : α → Reader β} (h : r.InBounds)
    (hnext : ∀ a, (next a).InBounds) : (r >>= next).InBounds := by
  intro payload c hc
  obtain ⟨hin, hle, hfault⟩ := h payload c hc
  change (Reader.bind r next c).2.In payload ∧ c.position ≤ (Reader.bind r next c).2.position ∧
    ∀ fault, (Reader.bind r next c).1 = .error fault → fault.Within payload
  unfold Reader.bind
  rcases hread : r c with ⟨result, c'⟩
  rw [hread] at hin hle hfault
  cases result with
  | error fault =>
      refine ⟨hin, hle, fun fault' hsame => hfault fault' ?_⟩
      exact congrArg Except.error (Except.error.inj hsame)
  | ok a =>
      obtain ⟨hin', hle', hfault'⟩ := hnext a payload c' hin
      exact ⟨hin', Nat.le_trans hle hle', hfault'⟩

end Reader

/-! ## Slices -/

/-- The bytes that are taken at a place are the slice of the payload from there to the place after
them, when that is not past the end. -/
theorem bytes_eq_slice {c : Cursor} {payload : List UInt8} (h : c.In payload) (n : Nat) :
    bytes n c =
      if c.position + n ≤ payload.length then
        (.ok (payload.extract c.position (c.position + n)), c.advance n)
      else (.error (.truncated c.position n (payload.length - c.position)), c) := by
  have hlength := h.position_add_remaining
  unfold bytes
  by_cases henough : c.position + n ≤ payload.length
  · have hremaining : ¬c.remaining < n := by omega
    rw [if_neg hremaining, if_pos henough, h.rest, List.extract_eq_take_drop,
      Nat.add_sub_cancel_left]
  · have hremaining : c.remaining < n := by omega
    have hdifference : payload.length - c.position = c.remaining := by omega
    rw [if_pos hremaining, if_neg henough, hdifference]

theorem inBounds_bytes (n : Nat) : (bytes n).InBounds := by
  intro payload c h
  have hlength := h.position_add_remaining
  rw [bytes_eq_slice h]
  split
  · rename_i henough
    exact ⟨h.advance (by omega), Nat.le_add_right _ _, nofun⟩
  · rename_i hshort
    refine ⟨h, Nat.le_refl _, fun fault hfault => ?_⟩
    obtain rfl := Except.error.inj hfault
    exact ⟨by omega, by omega⟩

theorem inBounds_cstring : cstring.InBounds := by
  intro payload c h
  have hlength := h.position_add_remaining
  unfold cstring
  dsimp only
  generalize c.rest.takeWhile (· != 0) = content
  by_cases hend : content.length < c.remaining
  · rw [if_pos hend]
    have hadvance := h.advance hend
    have hle : c.position ≤ (c.advance (content.length + 1)).position := Nat.le_add_right _ _
    cases String.fromUTF8? ⟨content.toArray⟩ with
    | some text => exact ⟨hadvance, hle, nofun⟩
    | none =>
        refine ⟨hadvance, hle, fun fault hfault => ?_⟩
        obtain rfl := Except.error.inj hfault
        change c.position < payload.length
        omega
  · rw [if_neg hend]
    refine ⟨h, Nat.le_refl _, fun fault hfault => ?_⟩
    obtain rfl := Except.error.inj hfault
    exact h.position

theorem inBounds_byte : byte.InBounds :=
  (inBounds_bytes 1).bind fun _ => .pure _

theorem inBounds_flag : flag.InBounds :=
  inBounds_byte.bind fun _ => .pure _

theorem inBounds_word32 : word32.InBounds :=
  (inBounds_bytes 4).bind fun _ => .pure _

theorem inBounds_word64 : word64.InBounds :=
  (inBounds_bytes 8).bind fun _ => .pure _

theorem maskedBytes_cons (mask : UInt8) (place : Nat) (places : List Nat) :
    maskedBytes mask (place :: places) =
      (if mask.toNat.testBit place then byte else pure 0) >>= fun b =>
        maskedBytes mask places >>= fun more => pure (b :: more) := by
  rw [maskedBytes]
  split <;> rfl

theorem inBounds_maskedBytes (mask : UInt8) (places : List Nat) :
    (maskedBytes mask places).InBounds := by
  induction places with
  | nil => exact .pure _
  | cons place places ih =>
      rw [maskedBytes_cons]
      refine .bind ?_ fun b => ih.bind fun more => .pure _
      split
      · exact inBounds_byte
      · exact .pure _

theorem inBounds_packedGuid : packedGuid.InBounds :=
  inBounds_byte.bind fun _ => (inBounds_maskedBytes _ _).bind fun _ => .pure _

/-! ## Packets -/

theorem inBounds_nameQuery : NameQuery.read.InBounds :=
  inBounds_word64.bind fun _ => .pure _

theorem inBounds_charDelete : CharDelete.read.InBounds :=
  inBounds_word64.bind fun _ => .pure _

theorem inBounds_charRename : CharRename.read.InBounds := by
  refine inBounds_word64.bind fun guid => inBounds_cstring.bind fun name => ?_
  split
  · exact .malformed _
  · exact .pure _

theorem inBounds_moveTimeSkipped : MoveTimeSkipped.read.InBounds :=
  inBounds_packedGuid.bind fun _ => inBounds_word32.bind fun _ => .pure _

theorem inBounds_togglePvp : TogglePvp.read.InBounds := by
  intro payload c h
  unfold TogglePvp.read
  split
  · exact ⟨h, Nat.le_refl _, nofun⟩
  · exact inBounds_flag.bind (fun _ => .pure _) payload c h

/-! ## Numbers -/

namespace Reader

variable {α β : Type}

theorem bind_eq_ok_iff {r : Reader α} {next : α → Reader β} {c c' : Cursor} {b : β} :
    (r >>= next) c = (.ok b, c') ↔ ∃ a c₁, r c = (.ok a, c₁) ∧ next a c₁ = (.ok b, c') := by
  change Reader.bind r next c = (.ok b, c') ↔ _
  unfold Reader.bind
  rcases r c with ⟨result, c₁⟩
  cases result with
  | error fault => simp
  | ok a =>
      simp only [Prod.mk.injEq, Except.ok.injEq]
      exact ⟨fun h => ⟨a, c₁, ⟨rfl, rfl⟩, h⟩, fun ⟨_, _, ⟨rfl, rfl⟩, h⟩ => h⟩

/-- A read makes a number of as many bytes as its type has, and so nothing of it is cut off. -/
def Whole (r : Reader α) (toNat : α → Nat) (width : Nat) : Prop :=
  ∀ c a c', r c = (.ok a, c') → ∃ bs, bytes width c = (.ok bs, c') ∧ toNat a = littleEndian bs

end Reader

theorem littleEndian_lt (bs : List UInt8) : littleEndian bs < 256 ^ bs.length := by
  induction bs with
  | nil => exact Nat.one_pos
  | cons b rest ih =>
      have hb := b.toNat_lt
      rw [littleEndian, List.length_cons, Nat.pow_succ]
      omega

theorem length_of_bytes {n : Nat} {c c' : Cursor} {bs : List UInt8}
    (h : bytes n c = (.ok bs, c')) : bs.length = n := by
  unfold bytes at h
  split at h
  · cases h
  · rename_i henough
    rw [← Except.ok.inj (Prod.mk.inj h).1, List.length_take]
    exact Nat.min_eq_left (Nat.le_of_not_lt henough)

/-- A place of a packed identifier is a byte, whether or not its bit is set. -/
theorem length_of_maskedBytes {mask : UInt8} {places : List Nat} {c c' : Cursor} {bs : List UInt8}
    (h : maskedBytes mask places c = (.ok bs, c')) : bs.length = places.length := by
  induction places generalizing c bs with
  | nil =>
      obtain rfl : [] = bs := Except.ok.inj (Prod.mk.inj h).1
      rfl
  | cons place places ih =>
      rw [maskedBytes_cons] at h
      obtain ⟨b, c₁, -, hrest⟩ := Reader.bind_eq_ok_iff.mp h
      obtain ⟨more, c₂, hmore, hlast⟩ := Reader.bind_eq_ok_iff.mp hrest
      obtain ⟨hbs, rfl⟩ := Prod.mk.inj hlast
      obtain rfl : b :: more = bs := Except.ok.inj hbs
      exact congrArg Nat.succ (ih hmore)

theorem whole_of_cast {α : Type} {toNat : α → Nat} {width : Nat} (cast : Nat → α)
    (exact' : ∀ v < 256 ^ width, toNat (cast v) = v) :
    (bytes width >>= fun bs => (pure (cast (littleEndian bs)) : Reader α)).Whole toNat width := by
  intro c a c' h
  obtain ⟨bs, c₁, hbytes, hlast⟩ := Reader.bind_eq_ok_iff.mp h
  obtain ⟨ha, rfl⟩ := Prod.mk.inj hlast
  obtain rfl : cast (littleEndian bs) = a := Except.ok.inj ha
  have hlt := littleEndian_lt bs
  rw [length_of_bytes hbytes] at hlt
  exact ⟨bs, hbytes, exact' _ hlt⟩

/-- No number of a payload is cut short by its type. -/
structure NumbersWhole : Prop where
  byte : Wire.byte.Whole UInt8.toNat 1
  word32 : Wire.word32.Whole UInt32.toNat 4
  word64 : Wire.word64.Whole UInt64.toNat 8
  packedGuid : ∀ c guid c', Wire.packedGuid c = (.ok guid, c') →
    ∃ mask c₁ bs, Wire.byte c = (.ok mask, c₁) ∧
      maskedBytes mask (List.range 8) c₁ = (.ok bs, c') ∧ guid.toNat = littleEndian bs

theorem numbersWhole : NumbersWhole where
  byte := whole_of_cast UInt8.ofNat fun _ h => UInt8.toNat_ofNat_of_lt' h
  word32 := whole_of_cast UInt32.ofNat fun _ h => UInt32.toNat_ofNat_of_lt' h
  word64 := whole_of_cast UInt64.ofNat fun _ h => UInt64.toNat_ofNat_of_lt' h
  packedGuid := by
    intro c guid c' h
    obtain ⟨mask, c₁, hmask, hrest⟩ := Reader.bind_eq_ok_iff.mp h
    obtain ⟨bs, c₂, hbs, hlast⟩ := Reader.bind_eq_ok_iff.mp hrest
    obtain ⟨hguid, rfl⟩ := Prod.mk.inj hlast
    obtain rfl : UInt64.ofNat (littleEndian bs) = guid := Except.ok.inj hguid
    have hlt := littleEndian_lt bs
    rw [length_of_maskedBytes hbs, List.length_range] at hlt
    exact ⟨mask, c₁, bs, hmask, hbs, UInt64.toNat_ofNat_of_lt' hlt⟩

end Wire
end PacketDispatch
