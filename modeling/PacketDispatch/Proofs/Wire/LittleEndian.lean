import PacketDispatch.Proofs.Wire.Bounds

/-!
# Numbers byte by byte

A number is written least significant byte first, and reading the bytes gives the number back.  So a
read of a number succeeds exactly on the bytes that the number is written with, whatever follows them.
-/

namespace PacketDispatch
namespace Wire

/-! ## The bytes of a number -/

/-- The byte of a number at a place, the lowest at place zero. -/
def byteAt (v place : Nat) : UInt8 :=
  UInt8.ofNat (v / 256 ^ place)

@[simp] theorem length_toLittleEndian (n v : Nat) : (toLittleEndian n v).length = n := by
  induction n generalizing v with
  | zero => rfl
  | succ n ih => rw [toLittleEndian, List.length_cons, ih]

theorem littleEndian_toLittleEndian {n v : Nat} (h : v < 256 ^ n) :
    littleEndian (toLittleEndian n v) = v := by
  induction n generalizing v with
  | zero =>
      obtain rfl : v = 0 := Nat.lt_one_iff.mp h
      rfl
  | succ n ih =>
      have hrest : v / 256 < 256 ^ n := by
        rw [Nat.pow_succ] at h
        exact Nat.div_lt_of_lt_mul (by rwa [Nat.mul_comm])
      have hfirst : (UInt8.ofNat (v % 256)).toNat = v % 256 :=
        UInt8.toNat_ofNat_of_lt' (Nat.mod_lt v (by decide))
      rw [toLittleEndian, littleEndian, ih hrest, hfirst]
      exact Nat.mod_add_div v 256

theorem toLittleEndian_littleEndian (bs : List UInt8) :
    toLittleEndian bs.length (littleEndian bs) = bs := by
  induction bs with
  | nil => rfl
  | cons b rest ih =>
      have hb : b.toNat < 256 := b.toNat_lt
      have hfirst : (b.toNat + 256 * littleEndian rest) % 256 = b.toNat := by omega
      have hrest : (b.toNat + 256 * littleEndian rest) / 256 = littleEndian rest := by omega
      rw [littleEndian, List.length_cons, toLittleEndian, hfirst, hrest, ih, UInt8.ofNat_toNat]

theorem byteAt_succ (v place : Nat) : byteAt v (place + 1) = byteAt (v / 256) place := by
  rw [byteAt, byteAt, Nat.div_div_eq_div_mul, Nat.pow_succ, Nat.mul_comm]

theorem toLittleEndian_eq_map (n v : Nat) :
    toLittleEndian n v = (List.range n).map (byteAt v) := by
  induction n generalizing v with
  | zero => rfl
  | succ n ih =>
      rw [toLittleEndian, ih, List.range_succ_eq_map, List.map_cons, List.map_map]
      congr 1
      · rw [byteAt, Nat.pow_zero, Nat.div_one]
        exact UInt8.ofNat_mod_size
      · apply List.map_congr_left
        intro place _
        exact (byteAt_succ v place).symm

/-- The bytes that a number is read from are the bytes of the number. -/
theorem getElem?_eq_byteAt {bs : List UInt8} {place : Nat} (h : place < bs.length) :
    bs[place]? = some (byteAt (littleEndian bs) place) := by
  have hbytes : bs = (List.range bs.length).map (byteAt (littleEndian bs)) := by
    rw [← toLittleEndian_eq_map, toLittleEndian_littleEndian]
  calc
    bs[place]? = ((List.range bs.length).map (byteAt (littleEndian bs)))[place]? :=
      congrArg (·[place]?) hbytes
    _ = some (byteAt (littleEndian bs) place) := by
      rw [List.getElem?_map, List.getElem?_range h]
      rfl

/-! ## Reads of a number -/

variable {α : Type} {c c' : Cursor} {n : Nat} {bs : List UInt8}

theorem bytes_eq_ok_iff :
    bytes n c = (.ok bs, c') ↔
      bs.length = n ∧ ∃ rest, c.rest = bs ++ rest ∧ c' = ⟨c.position + n, rest⟩ := by
  constructor
  · intro h
    refine ⟨length_of_bytes h, ?_⟩
    unfold bytes at h
    split at h
    · cases h
    · obtain ⟨hbs, rfl⟩ := Prod.mk.inj h
      obtain rfl := Except.ok.inj hbs
      exact ⟨c.rest.drop n, (List.take_append_drop n c.rest).symm, rfl⟩
  · rintro ⟨rfl, rest, hrest, rfl⟩
    have henough : ¬c.remaining < bs.length := by
      rw [Cursor.remaining, hrest, List.length_append]
      omega
    rw [bytes, if_neg henough, Cursor.advance, hrest, List.take_left, List.drop_left]

/-- A number that fits its type is read exactly from the bytes that it is written with. -/
theorem number_eq_ok_iff {cast : Nat → α} {toNat : α → Nat} (fits : ∀ a, toNat a < 256 ^ n)
    (cast_toNat : ∀ a, cast (toNat a) = a) (toNat_cast : ∀ v < 256 ^ n, toNat (cast v) = v)
    {a : α} :
    (bytes n >>= fun bs => (pure (cast (littleEndian bs)) : Reader α)) c = (.ok a, c') ↔
      ∃ rest, c.rest = toLittleEndian n (toNat a) ++ rest ∧ c' = ⟨c.position + n, rest⟩ := by
  rw [Reader.bind_eq_ok_iff]
  constructor
  · rintro ⟨bs, c₁, hbytes, hlast⟩
    obtain ⟨ha, rfl⟩ := Prod.mk.inj hlast
    obtain rfl : cast (littleEndian bs) = a := Except.ok.inj ha
    obtain ⟨rfl, rest, hrest, rfl⟩ := bytes_eq_ok_iff.mp hbytes
    refine ⟨rest, ?_, rfl⟩
    rw [toNat_cast _ (littleEndian_lt bs), toLittleEndian_littleEndian, hrest]
  · rintro ⟨rest, hrest, rfl⟩
    refine ⟨toLittleEndian n (toNat a), ⟨c.position + n, rest⟩, ?_, ?_⟩
    · exact bytes_eq_ok_iff.mpr ⟨length_toLittleEndian n _, rest, hrest, rfl⟩
    · rw [littleEndian_toLittleEndian (fits a), cast_toNat]
      rfl

theorem byte_eq_ok_iff {b : UInt8} :
    byte c = (.ok b, c') ↔ ∃ rest, c.rest = b :: rest ∧ c' = ⟨c.position + 1, rest⟩ := by
  have hnumber : byte c = (.ok b, c') ↔
      ∃ rest, c.rest = toLittleEndian 1 b.toNat ++ rest ∧ c' = ⟨c.position + 1, rest⟩ :=
    number_eq_ok_iff UInt8.toNat_lt (fun _ => UInt8.ofNat_toNat)
      fun _ h => UInt8.toNat_ofNat_of_lt' h
  have hbytes : toLittleEndian 1 b.toNat = [b] := toLittleEndian_littleEndian [b]
  rw [hnumber, hbytes]
  rfl

theorem byte_cons (position : Nat) (b : UInt8) (rest : List UInt8) :
    byte ⟨position, b :: rest⟩ = (.ok b, ⟨position + 1, rest⟩) :=
  byte_eq_ok_iff.mpr ⟨rest, rfl, rfl⟩

theorem word64_eq_ok_iff {v : UInt64} :
    word64 c = (.ok v, c') ↔
      ∃ rest, c.rest = toLittleEndian 8 v.toNat ++ rest ∧ c' = ⟨c.position + 8, rest⟩ :=
  number_eq_ok_iff UInt64.toNat_lt (fun _ => UInt64.ofNat_toNat)
    fun _ h => UInt64.toNat_ofNat_of_lt' h

end Wire
end PacketDispatch
