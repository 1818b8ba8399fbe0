import PacketDispatch.Proofs.Wire.Packing
import PacketDispatch.Proofs.Wire.Text

/-!
# Bytes after a packet

A read that has come to its end never looked at the bytes after it, so further bytes change nothing:
not its value, not its place, and not a fault for which bytes that are there are to blame.  Only a read
that ran out of bytes can fare better with more of them.
-/

namespace PacketDispatch
namespace Wire

/-- A place with more bytes after the payload. -/
def Cursor.followedBy (c : Cursor) (tail : List UInt8) : Cursor :=
  ⟨c.position, c.rest ++ tail⟩

/-- A fault that more bytes cannot mend. -/
def Fault.Final : Fault → Prop
  | .truncated _ _ _ => False
  | .unterminated _ => False
  | .badText _ => True
  | .malformed _ => True

/-- A result that more bytes cannot change. -/
def Settled {α : Type} : Except Fault α → Prop
  | .ok _ => True
  | .error fault => fault.Final

namespace Reader

variable {α β : Type} {c : Cursor} {tail : List UInt8}

/-- From a place, further bytes change neither a settled result nor how far the read comes. -/
def StableFrom (r : Reader α) (c : Cursor) : Prop :=
  Settled (r c).1 → ∀ tail, r (c.followedBy tail) = ((r c).1, (r c).2.followedBy tail)

/-- Further bytes never change a settled result. -/
def PrefixStable (r : Reader α) : Prop :=
  ∀ c, r.StableFrom c

theorem PrefixStable.pure (a : α) : (Pure.pure a : Reader α).PrefixStable :=
  fun _ _ _ => rfl

theorem PrefixStable.fail (fault : Fault) : (fail fault : Reader α).PrefixStable :=
  fun _ _ _ => rfl

/-- What one read leaves settled, the next goes on from. -/
theorem StableFrom.bind {r : Reader α} {next : α → Reader β} (h : r.StableFrom c)
    (hnext : ∀ a, (next a).PrefixStable) : (r >>= next).StableFrom c := by
  change Settled (Reader.bind r next c).1 → ∀ tail, Reader.bind r next (c.followedBy tail) =
    ((Reader.bind r next c).1, (Reader.bind r next c).2.followedBy tail)
  unfold Reader.bind
  unfold StableFrom at h
  rcases hread : r c with ⟨result, c'⟩
  rw [hread] at h
  intro hsettled tail
  cases result with
  | error fault => rw [h hsettled tail]
  | ok a =>
      rw [h trivial tail]
      exact hnext a c' hsettled tail

theorem PrefixStable.bind {r : Reader α} {next : α → Reader β} (h : r.PrefixStable)
    (hnext : ∀ a, (next a).PrefixStable) : (r >>= next).PrefixStable :=
  fun c => (h c).bind hnext

end Reader

/-! ## Reads of one value -/

theorem prefixStable_bytes (n : Nat) : (bytes n).PrefixStable := by
  intro c hsettled tail
  unfold bytes at hsettled ⊢
  by_cases hshort : c.remaining < n
  · rw [if_pos hshort] at hsettled
    cases hsettled
  · have henough : n ≤ c.rest.length := Nat.le_of_not_lt hshort
    have hmore : ¬(c.followedBy tail).remaining < n := by
      rw [Cursor.followedBy, Cursor.remaining, List.length_append]
      omega
    rw [if_neg hshort, if_neg hmore]
    simp only [Cursor.followedBy, Cursor.advance, List.take_append_of_le_length henough,
      List.drop_append_of_le_length henough]

theorem prefixStable_cstring : cstring.PrefixStable := by
  rintro ⟨position, bytes⟩ hsettled tail
  rcases unterminated_or_terminated bytes with hnone | ⟨content, rest, hfirst, rfl⟩
  · rw [cstring_of_unterminated hnone] at hsettled
    cases hsettled
  · rw [Cursor.followedBy, List.append_assoc, List.cons_append, cstring_of_terminated hfirst,
      cstring_of_terminated hfirst]
    rfl

theorem prefixStable_byte : byte.PrefixStable :=
  (prefixStable_bytes 1).bind fun _ => .pure _

theorem prefixStable_flag : flag.PrefixStable :=
  prefixStable_byte.bind fun _ => .pure _

theorem prefixStable_word32 : word32.PrefixStable :=
  (prefixStable_bytes 4).bind fun _ => .pure _

theorem prefixStable_word64 : word64.PrefixStable :=
  (prefixStable_bytes 8).bind fun _ => .pure _

theorem prefixStable_maskedBytes (mask : UInt8) (places : List Nat) :
    (maskedBytes mask places).PrefixStable := by
  induction places with
  | nil => exact .pure _
  | cons place places ih =>
      rw [maskedBytes_cons]
      refine .bind ?_ fun b => ih.bind fun more => .pure _
      split
      · exact prefixStable_byte
      · exact .pure _

theorem prefixStable_packedGuid : packedGuid.PrefixStable :=
  prefixStable_byte.bind fun _ => (prefixStable_maskedBytes _ _).bind fun _ => .pure _

/-! ## Packets -/

/-- The kinds of packets that the world decodes. -/
inductive PacketKind
  | nameQuery
  | charDelete
  | charRename
  | moveTimeSkipped
  | togglePvp
  deriving DecidableEq, Repr

namespace PacketKind

/-- The packets of a kind. -/
def Content : PacketKind → Type
  | .nameQuery => NameQuery
  | .charDelete => CharDelete
  | .charRename => CharRename
  | .moveTimeSkipped => MoveTimeSkipped
  | .togglePvp => TogglePvp

/-- The read of a packet of some kind. -/
def read : (kind : PacketKind) → Reader kind.Content
  | .nameQuery => NameQuery.read
  | .charDelete => CharDelete.read
  | .charRename => CharRename.read
  | .moveTimeSkipped => MoveTimeSkipped.read
  | .togglePvp => TogglePvp.read

end PacketKind

theorem prefixStable_charRename : CharRename.read.PrefixStable := by
  refine prefixStable_word64.bind fun guid => prefixStable_cstring.bind fun name => ?_
  split
  · exact .fail _
  · exact .pure _

/-- A switch is decoded as a truth value when there is any byte. -/
theorem togglePvp_of_ne_nil {c : Cursor} (h : c.rest ≠ []) :
    TogglePvp.read c = (flag >>= fun b => (pure ⟨some b⟩ : Reader TogglePvp)) c := by
  have hremaining : c.remaining ≠ 0 := fun hnone => h (List.length_eq_zero_iff.mp hnone)
  rw [TogglePvp.read, if_neg hremaining]
  rfl

theorem stableFrom_togglePvp {c : Cursor} (h : c.rest ≠ []) : TogglePvp.read.StableFrom c := by
  have hflag : (flag >>= fun b => (pure ⟨some b⟩ : Reader TogglePvp)).PrefixStable :=
    prefixStable_flag.bind fun _ => .pure _
  intro hsettled tail
  have hfollowed : (c.followedBy tail).rest ≠ [] := by
    simp [Cursor.followedBy, h]
  rw [togglePvp_of_ne_nil h] at hsettled ⊢
  rw [togglePvp_of_ne_nil hfollowed]
  exact hflag c hsettled tail

/-- Apart from the switch without a payload, further bytes change no packet that was decoded. -/
theorem PacketKind.stableFrom_read (kind : PacketKind) {c : Cursor}
    (h : kind = .togglePvp → c.rest ≠ []) : kind.read.StableFrom c := by
  cases kind with
  | nameQuery => exact prefixStable_word64.bind (fun _ => .pure _) c
  | charDelete => exact prefixStable_word64.bind (fun _ => .pure _) c
  | charRename => exact prefixStable_charRename c
  | moveTimeSkipped =>
      exact prefixStable_packedGuid.bind (fun _ => prefixStable_word32.bind fun _ => .pure _) c
  | togglePvp => exact stableFrom_togglePvp (h rfl)

end Wire
end PacketDispatch
