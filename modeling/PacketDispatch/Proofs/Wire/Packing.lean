import PacketDispatch.Proofs.Wire.Failing
import PacketDispatch.Proofs.Wire.LittleEndian
import Mathlib.Data.List.Forall2

/-!
# Packed identifiers

A packed identifier starts with a mask that announces which of its bytes follow.  The read puts each
byte that follows where the mask says and zeros everywhere else, so it undoes packing; and it also
reads masks that announce a byte although that byte is zero.  It fails just when bytes that the mask
announces are not there, or the mask itself.
-/

namespace PacketDispatch
namespace Wire

variable {c c' : Cursor} {mask : UInt8} {places : List Nat} {tail : List UInt8} {fault : Fault}

/-- A mask announces the byte of a place. -/
abbrev announces (mask : UInt8) (place : Nat) : Bool :=
  mask.toNat.testBit place

/-- How many bytes a mask announces below a place. -/
def announcedBelow (mask : UInt8) (place : Nat) : Nat :=
  (List.range place).countP (announces mask)

/-! ## Bytes that a mask announces -/

/-- The bytes of some places: those that are announced are taken in turn, the others are zero. -/
def spread (mask : UInt8) : List Nat → List UInt8 → List UInt8
  | [], _ => []
  | place :: places, bs =>
    if announces mask place then bs.headD 0 :: spread mask places bs.tail
    else 0 :: spread mask places bs

@[simp] theorem length_spread (mask : UInt8) (places : List Nat) (bs : List UInt8) :
    (spread mask places bs).length = places.length := by
  induction places generalizing bs with
  | nil => rfl
  | cons place places ih =>
      unfold spread
      split <;> rw [List.length_cons, ih, List.length_cons]

/-- An announced byte is the one that as many bytes precede as are announced before it. -/
theorem getElem?_spread {bs : List UInt8} (enough : places.countP (announces mask) ≤ bs.length)
    (i : Nat) :
    (spread mask places bs)[i]? = places[i]?.bind fun place =>
      if announces mask place then bs[(places.take i).countP (announces mask)]? else some 0 := by
  induction places generalizing bs i with
  | nil => rfl
  | cons place places ih =>
      unfold spread
      by_cases hplace : announces mask place = true
      · rw [if_pos hplace]
        rw [List.countP_cons_of_pos hplace] at enough
        cases bs with
        | nil => simp at enough
        | cons b rest =>
            cases i with
            | zero => simp [hplace]
            | succ i => simp [hplace, ih (Nat.le_of_succ_le_succ enough)]
      · rw [if_neg hplace]
        rw [List.countP_cons_of_neg hplace] at enough
        cases i with
        | zero => simp [hplace]
        | succ i => simp [hplace, ih enough]

theorem Cursor.advance_cons (position : Nat) (b : UInt8) (rest : List UInt8) (n : Nat) :
    (Cursor.mk position (b :: rest)).advance (n + 1) = (Cursor.mk (position + 1) rest).advance n := by
  rw [Cursor.advance, Cursor.advance, List.drop_succ_cons, Nat.add_right_comm, Nat.add_assoc]

/-- When all announced bytes are there, they are taken and no others. -/
theorem maskedBytes_of_le (enough : places.countP (announces mask) ≤ c.remaining) :
    maskedBytes mask places c =
      (.ok (spread mask places c.rest), c.advance (places.countP (announces mask))) := by
  induction places generalizing c with
  | nil => rfl
  | cons place places ih =>
      rw [maskedBytes_cons]
      unfold spread
      by_cases hplace : announces mask place = true
      · rw [List.countP_cons_of_pos hplace] at enough ⊢
        rw [if_pos hplace, if_pos hplace]
        obtain ⟨position, bytes⟩ := c
        cases bytes with
        | nil => exact absurd enough (Nat.not_succ_le_zero _)
        | cons b rest =>
            have hmore := ih (c := ⟨position + 1, rest⟩) (Nat.le_of_succ_le_succ enough)
            apply Reader.bind_eq_ok_iff.mpr
            refine ⟨b, _, byte_cons position b rest, Reader.bind_eq_ok_iff.mpr ⟨_, _, hmore, ?_⟩⟩
            rw [Cursor.advance_cons]
            rfl
      · rw [List.countP_cons_of_neg hplace] at enough ⊢
        rw [if_neg hplace, if_neg hplace]
        apply Reader.bind_eq_ok_iff.mpr
        exact ⟨0, c, rfl, Reader.bind_eq_ok_iff.mpr ⟨_, _, ih enough, rfl⟩⟩

/-- When an announced byte is missing, the read fails at the end of the payload. -/
theorem maskedBytes_of_lt (short : c.remaining < places.countP (announces mask)) :
    maskedBytes mask places c =
      (.error (.truncated (c.position + c.remaining) 1 0), c.advance c.remaining) := by
  induction places generalizing c with
  | nil => exact absurd short (Nat.not_lt_zero _)
  | cons place places ih =>
      rw [maskedBytes_cons]
      by_cases hplace : announces mask place = true
      · rw [List.countP_cons_of_pos hplace] at short
        rw [if_pos hplace]
        obtain ⟨position, bytes⟩ := c
        cases bytes with
        | nil =>
            apply Reader.bind_eq_error_iff.mpr
            exact Or.inl (byte_eq_error_iff.mpr ⟨rfl, rfl, rfl⟩)
        | cons b rest =>
            have hmore := ih (c := ⟨position + 1, rest⟩) (Nat.lt_of_succ_lt_succ short)
            apply Reader.bind_eq_error_iff.mpr
            refine Or.inr ⟨b, _, byte_cons position b rest, Reader.bind_pure_eq_error_iff.mpr ?_⟩
            have hend : (Cursor.mk position (b :: rest)).remaining =
                (Cursor.mk (position + 1) rest).remaining + 1 := rfl
            rw [hmore, hend, Cursor.advance_cons, Nat.add_right_comm, Nat.add_assoc]
      · rw [List.countP_cons_of_neg hplace] at short
        rw [if_neg hplace]
        apply Reader.bind_eq_error_iff.mpr
        exact Or.inr ⟨0, c, rfl, Reader.bind_pure_eq_error_iff.mpr (ih short)⟩

/-! ## Packed identifiers -/

theorem packedGuid_of_le (position : Nat) (enough : announcedBelow mask 8 ≤ tail.length) :
    packedGuid ⟨position, mask :: tail⟩ =
      (.ok (UInt64.ofNat (littleEndian (spread mask (List.range 8) tail))),
        (Cursor.mk position (mask :: tail)).advance (announcedBelow mask 8 + 1)) := by
  have hbytes := maskedBytes_of_le (c := ⟨position + 1, tail⟩) enough
  apply Reader.bind_eq_ok_iff.mpr
  refine ⟨mask, _, byte_cons position mask tail, Reader.bind_eq_ok_iff.mpr ⟨_, _, hbytes, ?_⟩⟩
  rw [Cursor.advance_cons]
  rfl

theorem packedGuid_of_lt (position : Nat) (short : tail.length < announcedBelow mask 8) :
    packedGuid ⟨position, mask :: tail⟩ =
      (.error (.truncated (position + 1 + tail.length) 1 0),
        (Cursor.mk (position + 1) tail).advance tail.length) := by
  have hbytes := maskedBytes_of_lt (c := ⟨position + 1, tail⟩) short
  apply Reader.bind_eq_error_iff.mpr
  exact Or.inr ⟨mask, _, byte_cons position mask tail, Reader.bind_pure_eq_error_iff.mpr hbytes⟩

/-- A packed identifier fails just when its mask or a byte that the mask announces is missing, and
then one byte too few is there. -/
theorem packedGuid_eq_error_iff :
    (packedGuid c).1 = .error fault ↔
      (c.rest = [] ∨ ∃ mask tail, c.rest = mask :: tail ∧ tail.length < announcedBelow mask 8) ∧
        fault = .truncated (c.position + c.remaining) 1 0 := by
  obtain ⟨position, bytes⟩ := c
  cases bytes with
  | nil =>
      have hnone : packedGuid ⟨position, []⟩ = (.error (.truncated position 1 0), ⟨position, []⟩) :=
        rfl
      rw [hnone]
      simp [Cursor.remaining, eq_comm]
  | cons mask tail =>
      by_cases henough : announcedBelow mask 8 ≤ tail.length
      · rw [packedGuid_of_le position henough]
        constructor
        · intro failed
          cases failed
        · rintro ⟨hnone | ⟨_, _, hsame, hshort⟩, -⟩
          · cases hnone
          · obtain ⟨rfl, rfl⟩ := List.cons.inj hsame
            exact absurd hshort (Nat.not_lt.mpr henough)
      · have hshort : tail.length < announcedBelow mask 8 := Nat.lt_of_not_le henough
        rw [packedGuid_of_lt position hshort]
        simp [hshort, Cursor.remaining, Nat.add_assoc, Nat.add_comm 1, eq_comm]

/-- A place of an identifier holds the byte that the mask announces for it, or zero. -/
theorem byteAt_spread (enough : announcedBelow mask 8 ≤ tail.length) {place : Nat}
    (h : place < 8) :
    some (byteAt (UInt64.ofNat (littleEndian (spread mask (List.range 8) tail))).toNat place) =
      if announces mask place then tail[announcedBelow mask place]? else some 0 := by
  have hlength : (spread mask (List.range 8) tail).length = 8 := by simp
  have hfits := littleEndian_lt (spread mask (List.range 8) tail)
  rw [hlength] at hfits
  rw [UInt64.toNat_ofNat_of_lt' hfits, ← getElem?_eq_byteAt (by rw [hlength]; exact h),
    getElem?_spread enough, List.getElem?_range h, List.take_range, Nat.min_eq_left (by omega)]
  rfl

/-! ## Packing -/

theorem presence_lt (bs : List UInt8) : presence bs < 2 ^ bs.length := by
  induction bs with
  | nil => exact Nat.one_pos
  | cons b rest ih =>
      rw [presence, List.length_cons, Nat.pow_succ]
      split <;> omega

theorem testBit_presence (bs : List UInt8) (place : Nat) :
    (presence bs).testBit place = (bs.getD place 0 != 0) := by
  induction bs generalizing place with
  | nil => simp [presence]
  | cons b rest ih =>
      cases place with
      | zero => by_cases hb : b = 0 <;> simp [presence, hb, Nat.testBit_zero, Nat.add_mul_mod_self_left]
      | succ place =>
          have hhalf : presence (b :: rest) / 2 = presence rest := by
            rw [presence]
            split <;> omega
          rw [Nat.testBit_succ, hhalf, ih]
          rfl

/-- The mask of at most eight bytes announces those that are not zero. -/
theorem announces_presence {bs : List UInt8} (h : bs.length ≤ 8) (place : Nat) :
    announces (UInt8.ofNat (presence bs)) place = (bs.getD place 0 != 0) := by
  have hfits : presence bs < 2 ^ 8 :=
    Nat.lt_of_lt_of_le (presence_lt bs) (Nat.pow_le_pow_right (by decide) h)
  rw [announces, UInt8.toNat_ofNat_of_lt' hfits, testBit_presence]

/-- A mask announces the bytes of some places just where they are not zero. -/
def Masks (mask : UInt8) (places : List Nat) (bs : List UInt8) : Prop :=
  List.Forall₂ (fun place b => announces mask place = (b != 0)) places bs

theorem Masks.countP_eq {bs : List UInt8} (h : Masks mask places bs) :
    places.countP (announces mask) = (bs.filter (· != 0)).length := by
  induction h with
  | nil => rfl
  | @cons place b places bs hplace _ ih =>
      rw [List.countP_cons, ih, hplace, List.filter_cons]
      split <;> rfl

/-- The bytes that are not zero are put where they were. -/
theorem Masks.spread_filter {bs : List UInt8} (h : Masks mask places bs) (rest : List UInt8) :
    spread mask places (bs.filter (· != 0) ++ rest) = bs := by
  induction h with
  | nil => rfl
  | @cons place b places bs hplace _ ih =>
      unfold spread
      rw [hplace, List.filter_cons]
      by_cases hb : b = 0
      · simp [hb, ih]
      · simp [hb, ih]

theorem masks_presence (bs : List UInt8) (h : bs.length = 8) :
    Masks (UInt8.ofNat (presence bs)) (List.range 8) bs := by
  apply List.forall₂_iff_get.mpr
  refine ⟨by rw [List.length_range, h], ?_⟩
  intro place hrange hplace
  rw [announces_presence (Nat.le_of_eq h)]
  simp [List.getElem?_eq_getElem hplace]

/-- The packed form of an identifier is its mask and those of its bytes that are not zero. -/
theorem packGuid_eq (guid : UInt64) :
    packGuid guid = UInt8.ofNat (presence (toLittleEndian 8 guid.toNat)) ::
      ((List.range 8).map (byteAt guid.toNat)).filter (· != 0) := by
  rw [packGuid, ← toLittleEndian_eq_map]

theorem exists_packGuid_eq (guid : UInt64) :
    ∃ mask,
      packGuid guid = mask :: ((List.range 8).map (byteAt guid.toNat)).filter (· != 0) ∧
        ∀ place < 8, announces mask place = true ↔ byteAt guid.toNat place ≠ 0 := by
  refine ⟨_, packGuid_eq guid, ?_⟩
  intro place hplace
  have hbyte : (toLittleEndian 8 guid.toNat).getD place 0 = byteAt guid.toNat place := by
    rw [toLittleEndian_eq_map, List.getD_eq_getElem?_getD, List.getElem?_map,
      List.getElem?_range hplace]
    rfl
  rw [announces_presence (by simp), hbyte, bne_iff_ne]

/-- A mask that announces just the bytes that are not zero is read back with them. -/
theorem Masks.packedGuid {bs : List UInt8} (h : Masks mask (List.range 8) bs) (position : Nat)
    (rest : List UInt8) :
    Wire.packedGuid ⟨position, mask :: (bs.filter (· != 0) ++ rest)⟩ =
      (.ok (UInt64.ofNat (littleEndian bs)),
        ⟨position + ((bs.filter (· != 0)).length + 1), rest⟩) := by
  have hcount : announcedBelow mask 8 = (bs.filter (· != 0)).length := h.countP_eq
  have henough : announcedBelow mask 8 ≤ (bs.filter (· != 0) ++ rest).length := by
    rw [hcount, List.length_append]
    exact Nat.le_add_right _ _
  rw [packedGuid_of_le position henough, h.spread_filter, hcount, Cursor.advance_cons,
    Cursor.advance, List.drop_left, Nat.add_right_comm, Nat.add_assoc]

theorem packedGuid_packGuid (guid : UInt64) (position : Nat) (rest : List UInt8) :
    packedGuid ⟨position, packGuid guid ++ rest⟩ =
      (.ok guid, ⟨position + (packGuid guid).length, rest⟩) := by
  have hmasks := masks_presence (toLittleEndian 8 guid.toNat) (by simp)
  rw [packGuid, List.cons_append, hmasks.packedGuid,
    littleEndian_toLittleEndian guid.toNat_lt, UInt64.ofNat_toNat, List.length_cons]

/-- Reading a packed identifier undoes packing it, whatever follows, and leaves what follows.  Its
packed form is the mask that announces the bytes that are not zero, and these bytes from the lowest
up.  Whatever the bytes, a read that succeeds takes the mask and the bytes that it announces, and each
place of the identifier holds zero or, when it is announced, the byte that comes after those announced
below it.  A read fails just when the mask or an announced byte is missing, as a truncated one. -/
theorem packed_guid_decodes_exactly :
    (∀ (guid : UInt64) (position : Nat) (rest : List UInt8),
      packedGuid ⟨position, packGuid guid ++ rest⟩ =
        (.ok guid, ⟨position + (packGuid guid).length, rest⟩)) ∧
      (∀ guid : UInt64, ∃ mask,
        packGuid guid = mask :: ((List.range 8).map (byteAt guid.toNat)).filter (· != 0) ∧
          ∀ place < 8, announces mask place = true ↔ byteAt guid.toNat place ≠ 0) ∧
      (∀ c guid c', packedGuid c = (.ok guid, c') →
        ∃ mask tail, c.rest = mask :: tail ∧ announcedBelow mask 8 ≤ tail.length ∧
          c' = c.advance (1 + announcedBelow mask 8) ∧
          ∀ place < 8, some (byteAt guid.toNat place) =
            if announces mask place then tail[announcedBelow mask place]? else some 0) ∧
      (∀ c fault, (packedGuid c).1 = .error fault →
        fault = .truncated (c.position + c.remaining) 1 0) ∧
      ∀ c, (∃ position needed remaining,
          (packedGuid c).1 = .error (.truncated position needed remaining)) ↔
        c.rest = [] ∨
          ∃ mask tail, c.rest = mask :: tail ∧ tail.length < announcedBelow mask 8 := by
  refine ⟨packedGuid_packGuid, exists_packGuid_eq, ?_,
    fun c fault failed => (packedGuid_eq_error_iff.mp failed).2, ?_⟩
  · intro c guid c' hread
    obtain ⟨position, bytes⟩ := c
    cases bytes with
    | nil => cases hread
    | cons mask tail =>
        by_cases henough : announcedBelow mask 8 ≤ tail.length
        · rw [packedGuid_of_le position henough] at hread
          obtain ⟨hguid, rfl⟩ := Prod.mk.inj hread
          obtain rfl := Except.ok.inj hguid
          refine ⟨mask, tail, rfl, henough, by rw [Nat.add_comm], ?_⟩
          intro place hplace
          exact byteAt_spread henough hplace
        · rw [packedGuid_of_lt position (Nat.lt_of_not_le henough)] at hread
          cases (Prod.mk.inj hread).1
  · intro c
    constructor
    · rintro ⟨position, needed, remaining, failed⟩
      exact (packedGuid_eq_error_iff.mp failed).1
    · intro hmissing
      exact ⟨_, _, _, packedGuid_eq_error_iff.mpr ⟨hmissing, rfl⟩⟩

/-- A mask that announces two bytes, the first of which is zero, and a byte too many. -/
theorem packed_guid_decodes_exactly_zeroAnnounced :
    packedGuid (Cursor.start [0x05, 0x00, 0xBB, 0xCC]) = (.ok 0x00BB0000, ⟨3, [0xCC]⟩) ∧
      packGuid 0x00BB0000 = [0x04, 0xBB] ∧
      ∃ mask tail, [0x05, 0x00, 0xBB, 0xCC] = mask :: tail ∧
        announcedBelow mask 8 ≤ tail.length ∧
        some (byteAt 0x00BB0000 2) =
          if announces mask 2 then tail[announcedBelow mask 2]? else some 0 := by
  have hread : packedGuid (Cursor.start [0x05, 0x00, 0xBB, 0xCC]) =
      (.ok 0x00BB0000, ⟨3, [0xCC]⟩) := by cbv
  obtain ⟨mask, tail, hrest, henough, -, hplaces⟩ :=
    packed_guid_decodes_exactly.2.2.1 _ _ _ hread
  exact ⟨hread, by cbv, mask, tail, hrest, henough, hplaces 2 (by decide)⟩

end Wire
end PacketDispatch
