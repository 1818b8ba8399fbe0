import PacketDispatch.Proofs.Wire.Bounds

/-!
# What failed reads consume

A read that takes a slice of fixed width consumes nothing when it fails, and neither does the read of
a text that nothing terminates.  The other two ways to fail leave the reader further on: a packed
identifier whose bytes run out has consumed the whole payload, and a text that is no UTF-8 has been
passed with its terminator.
-/

namespace PacketDispatch
namespace Wire

/-! ## Reads of one value -/

/-- The kinds of value that a payload is read by. -/
inductive Part
  | byte
  | flag
  | word32
  | word64
  | packedGuid
  | cstring
  deriving DecidableEq, Repr

/-- A value that was read. -/
inductive Datum
  | byte (value : UInt8)
  | flag (value : Bool)
  | word32 (value : UInt32)
  | word64 (value : UInt64)
  | packedGuid (value : UInt64)
  | cstring (value : String)
  deriving DecidableEq, Repr

/-- The read of a value of some kind. -/
def Part.read : Part → Reader Datum
  | .byte => do return .byte (← Wire.byte)
  | .flag => do return .flag (← Wire.flag)
  | .word32 => do return .word32 (← Wire.word32)
  | .word64 => do return .word64 (← Wire.word64)
  | .packedGuid => do return .packedGuid (← Wire.packedGuid)
  | .cstring => do return .cstring (← Wire.cstring)

/-- The place that reads come to, one after another, whether or not they fail. -/
def Cursor.afterReads (c : Cursor) (parts : List Part) : Cursor :=
  parts.foldl (fun c part => (part.read c).2) c

/-- How many bytes a read consumes that fails. -/
def Part.lost (part : Part) (c : Cursor) (fault : Fault) : Nat :=
  match part, fault with
  | .packedGuid, _ => c.remaining
  | .cstring, .badText _ => (c.rest.takeWhile (· != 0)).length + 1
  | _, _ => 0

/-! ## Places -/

namespace Cursor

@[simp] theorem advance_zero (c : Cursor) : c.advance 0 = c := rfl

@[simp] theorem position_advance (c : Cursor) (n : Nat) :
    (c.advance n).position = c.position + n := rfl

@[simp] theorem remaining_advance (c : Cursor) (n : Nat) :
    (c.advance n).remaining = c.remaining - n :=
  List.length_drop

theorem advance_advance (c : Cursor) (m n : Nat) :
    (c.advance m).advance n = c.advance (m + n) := by
  simp only [advance, List.drop_drop, Nat.add_assoc]

/-- A byte and all bytes after it are all bytes. -/
theorem advance_remaining_advance {c : Cursor} {n : Nat} (enough : n ≤ c.remaining) :
    (c.advance n).advance (c.advance n).remaining = c.advance c.remaining := by
  rw [advance_advance, remaining_advance, Nat.add_sub_cancel' enough]

end Cursor

/-! ## Reads that fail -/

variable {α β : Type} {c c' : Cursor} {fault : Fault}

/-- A read in two parts fails in its first part or, from where that ends, in its second. -/
theorem Reader.bind_eq_error_iff {r : Reader α} {next : α → Reader β} :
    (r >>= next) c = (.error fault, c') ↔
      r c = (.error fault, c') ∨ ∃ a c₁, r c = (.ok a, c₁) ∧ next a c₁ = (.error fault, c') := by
  change Reader.bind r next c = (.error fault, c') ↔ _
  unfold Reader.bind
  rcases r c with ⟨result, c₁⟩
  cases result with
  | error found => simp
  | ok a =>
      refine ⟨fun h => Or.inr ⟨a, c₁, rfl, h⟩, ?_⟩
      rintro (hfirst | ⟨_, _, hsame, h⟩)
      · cases (Prod.mk.inj hfirst).1
      · obtain ⟨ha, rfl⟩ := Prod.mk.inj hsame
        rwa [Except.ok.inj ha]

/-- A value is made of what was read without reading on. -/
theorem Reader.bind_pure_eq_error_iff {r : Reader α} {f : α → β} :
    (r >>= fun a => (Pure.pure (f a) : Reader β)) c = (.error fault, c') ↔
      r c = (.error fault, c') := by
  refine bind_eq_error_iff.trans (or_iff_left ?_)
  rintro ⟨a, c₁, -, hpure⟩
  cases (Prod.mk.inj hpure).1

theorem bytes_eq_error_iff {n : Nat} :
    bytes n c = (.error fault, c') ↔
      c.remaining < n ∧ fault = .truncated c.position n c.remaining ∧ c' = c := by
  unfold bytes
  by_cases hshort : c.remaining < n
  · simp [hshort, eq_comm]
  · simp [hshort]

theorem byte_eq_error_iff :
    byte c = (.error fault, c') ↔
      c.remaining = 0 ∧ fault = .truncated c.position 1 0 ∧ c' = c := by
  refine Reader.bind_pure_eq_error_iff.trans (bytes_eq_error_iff.trans ?_)
  rw [Nat.lt_one_iff]
  constructor
  · rintro ⟨hnone, rfl, rfl⟩
    exact ⟨hnone, by rw [hnone], rfl⟩
  · rintro ⟨hnone, rfl, rfl⟩
    exact ⟨hnone, by rw [hnone], rfl⟩

theorem advance_of_byte {b : UInt8} (h : byte c = (.ok b, c')) :
    1 ≤ c.remaining ∧ c' = c.advance 1 := by
  obtain ⟨bs, c₁, hbytes, hlast⟩ := Reader.bind_eq_ok_iff.mp h
  obtain ⟨-, rfl⟩ := Prod.mk.inj hlast
  unfold bytes at hbytes
  split at hbytes
  · cases hbytes
  · rename_i henough
    exact ⟨Nat.le_of_not_lt henough, (Prod.mk.inj hbytes).2.symm⟩

/-- The bytes that a mask announces are taken one by one, so they fail where the payload ends. -/
theorem maskedBytes_eq_error {mask : UInt8} {places : List Nat}
    (h : maskedBytes mask places c = (.error fault, c')) : c' = c.advance c.remaining := by
  induction places generalizing c with
  | nil => cases (Prod.mk.inj h).1
  | cons place places ih =>
      rw [maskedBytes_cons] at h
      rcases Reader.bind_eq_error_iff.mp h with hfirst | ⟨b, c₁, hfirst, hrest⟩
      · split at hfirst
        · obtain ⟨hnone, -, rfl⟩ := byte_eq_error_iff.mp hfirst
          rw [hnone, Cursor.advance_zero]
        · cases (Prod.mk.inj hfirst).1
      · have hlater := ih (Reader.bind_pure_eq_error_iff.mp hrest)
        split at hfirst
        · obtain ⟨henough, rfl⟩ := advance_of_byte hfirst
          rw [hlater, Cursor.advance_remaining_advance henough]
        · obtain ⟨-, rfl⟩ := Prod.mk.inj hfirst
          exact hlater

/-- A packed identifier that fails has consumed the whole payload. -/
theorem packedGuid_eq_error (h : packedGuid c = (.error fault, c')) :
    c' = c.advance c.remaining := by
  unfold packedGuid at h
  rcases Reader.bind_eq_error_iff.mp h with hmask | ⟨mask, c₁, hmask, hbytes⟩
  · obtain ⟨hnone, -, rfl⟩ := byte_eq_error_iff.mp hmask
    rw [hnone, Cursor.advance_zero]
  · obtain ⟨henough, rfl⟩ := advance_of_byte hmask
    rw [maskedBytes_eq_error (Reader.bind_pure_eq_error_iff.mp hbytes),
      Cursor.advance_remaining_advance henough]

/-- A text fails where it starts: at a terminator that is missing, or past one that is there. -/
theorem cstring_eq_error (h : cstring c = (.error fault, c')) :
    fault = .unterminated c.position ∧ c' = c ∨
      fault = .badText c.position ∧
        c' = c.advance ((c.rest.takeWhile (· != 0)).length + 1) := by
  unfold cstring at h
  dsimp only at h
  split at h
  · split at h
    · cases (Prod.mk.inj h).1
    · obtain ⟨hfault, rfl⟩ := Prod.mk.inj h
      exact Or.inr ⟨(Except.error.inj hfault).symm, rfl⟩
  · obtain ⟨hfault, rfl⟩ := Prod.mk.inj h
    exact Or.inl ⟨(Except.error.inj hfault).symm, rfl⟩

/-- A read that fails consumes what it loses and nothing else. -/
theorem Part.read_eq_error {part : Part} (h : part.read c = (.error fault, c')) :
    c' = c.advance (part.lost c fault) := by
  cases part with
  | byte =>
      obtain ⟨-, -, rfl⟩ := byte_eq_error_iff.mp (Reader.bind_pure_eq_error_iff.mp h)
      rfl
  | flag =>
      have hbyte := Reader.bind_pure_eq_error_iff.mp (Reader.bind_pure_eq_error_iff.mp h)
      obtain ⟨-, -, rfl⟩ := byte_eq_error_iff.mp hbyte
      rfl
  | word32 | word64 =>
      have hbytes := Reader.bind_pure_eq_error_iff.mp (Reader.bind_pure_eq_error_iff.mp h)
      obtain ⟨-, -, rfl⟩ := bytes_eq_error_iff.mp hbytes
      rfl
  | packedGuid => exact packedGuid_eq_error (Reader.bind_pure_eq_error_iff.mp h)
  | cstring =>
      rcases cstring_eq_error (Reader.bind_pure_eq_error_iff.mp h) with ⟨rfl, rfl⟩ | ⟨rfl, rfl⟩ <;>
        rfl

/-- What a read may lose: the bytes after the mask of an identifier, or a text that is none. -/
theorem Part.lost_eq_zero_iff {part : Part} (h : part.read c = (.error fault, c')) :
    part.lost c fault = 0 ↔
      (part = .packedGuid → c.remaining = 0) ∧
        (part = .cstring → fault = .unterminated c.position) := by
  cases part with
  | byte | flag | word32 | word64 => exact iff_of_true rfl ⟨nofun, nofun⟩
  | packedGuid => exact ⟨fun hnone => ⟨fun _ => hnone, nofun⟩, fun h => h.1 rfl⟩
  | cstring =>
      rcases cstring_eq_error (Reader.bind_pure_eq_error_iff.mp h) with ⟨rfl, -⟩ | ⟨rfl, -⟩
      · exact iff_of_true rfl ⟨nofun, fun _ => rfl⟩
      · exact iff_of_false (Nat.succ_ne_zero _) fun h => nomatch h.2 rfl

/-! ## The place after a failed read -/

theorem Part.inBounds_read (part : Part) : part.read.InBounds := by
  cases part with
  | byte => exact inBounds_byte.bind fun _ => .pure _
  | flag => exact inBounds_flag.bind fun _ => .pure _
  | word32 => exact inBounds_word32.bind fun _ => .pure _
  | word64 => exact inBounds_word64.bind fun _ => .pure _
  | packedGuid => exact inBounds_packedGuid.bind fun _ => .pure _
  | cstring => exact inBounds_cstring.bind fun _ => .pure _

/-- Reads never leave their payload, whether or not they fail. -/
theorem Cursor.In.afterReads {payload : List UInt8} (h : c.In payload) (parts : List Part) :
    (c.afterReads parts).In payload := by
  induction parts generalizing c with
  | nil => exact h
  | cons part rest ih => exact ih (part.inBounds_read payload c h).1

/-- Wherever earlier reads have left the reader, a read that fails leaves it in the payload, further on
by the bytes that the read loses.  It stays where it was just when the read was not of a packed
identifier with bytes ahead, and not of a text that is terminated but no UTF-8. -/
theorem failed_read_consumes_lost (payload : List UInt8) (earlier : List Part) (part : Part)
    (fault : Fault)
    (failed : (part.read ((Cursor.start payload).afterReads earlier)).1 = .error fault) :
    let c := (Cursor.start payload).afterReads earlier
    let c' := (part.read c).2
    c' = c.advance (part.lost c fault) ∧
      c'.position + c'.remaining = payload.length ∧
      (c'.position = c.position ∧ c'.remaining = c.remaining ↔
        (part = .packedGuid → c.remaining = 0) ∧
          (part = .cstring → fault = .unterminated c.position)) := by
  intro c c'
  have hread : part.read c = (.error fault, c') := Prod.ext failed rfl
  have hplace := Part.read_eq_error hread
  have hin : c.In payload := (Cursor.In.start payload).afterReads earlier
  refine ⟨hplace, (part.inBounds_read payload c hin).1.position_add_remaining, ?_⟩
  rw [← Part.lost_eq_zero_iff hread, hplace, Cursor.position_advance, Cursor.remaining_advance]
  omega

/-- A flag, a number that fails and loses nothing, and an identifier whose mask announces two bytes
where there is one. -/
theorem failed_read_consumes_lost_shortGuid :
    let c := (Cursor.start [0x01, 0x03, 0xAA]).afterReads [.flag, .word64]
    (Part.packedGuid.read c).1 = .error (.truncated 3 1 0) ∧
      (Part.packedGuid.read c).2 = c.advance 2 ∧ c.position = 1 := by
  intro c
  have failed : (Part.packedGuid.read c).1 = .error (.truncated 3 1 0) := by cbv
  exact ⟨failed, (failed_read_consumes_lost _ _ _ _ failed).1, rfl⟩

example : cstring (Cursor.start [0xFF, 0x00]) = (.error (.badText 0), ⟨2, []⟩) := by
  cbv

/-- Reads that fail may consume something. -/
theorem not_failed_read_consumes_nothing :
    ¬ ∀ (payload : List UInt8) (earlier : List Part) (part : Part) (fault : Fault),
      (part.read ((Cursor.start payload).afterReads earlier)).1 = .error fault →
        (part.read ((Cursor.start payload).afterReads earlier)).2.position =
            ((Cursor.start payload).afterReads earlier).position ∧
          (part.read ((Cursor.start payload).afterReads earlier)).2.remaining =
            ((Cursor.start payload).afterReads earlier).remaining := by
  intro h
  have hsame := h [0x01] [] .packedGuid (.truncated 1 1 0) rfl
  exact absurd hsame (by decide)

end Wire
end PacketDispatch
