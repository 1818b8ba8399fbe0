import PacketDispatch.Proofs.Wire.Trailing
import PacketDispatch.World.Handlers

/-!
# The packets of the world

Every handler of the world takes its message as it is or decodes one of five kinds of packets.  A
packet that was decoded is decoded in the same way when more bytes follow, and so is a payload that is
refused for what it holds; only the switch without a payload becomes another packet.  The new name of
a character has a grammar that decides which payloads are decoded, and as what.
-/

namespace PacketDispatch
namespace Wire

variable {c c' : Cursor} {guid : UInt64} {name : String} {payload : List UInt8}

/-! ## Names -/

/-- The last step of reading a new name, which consumes nothing, lets names of one to twelve bytes
pass. -/
theorem charRename_check_eq_ok_iff {guid' : UInt64} {name' : String} :
    (if name'.utf8ByteSize = 0 ∨ maxNameBytes < name'.utf8ByteSize then
        let size := name'.utf8ByteSize
        Reader.fail (.malformed s!"character name must be 1-12 bytes, got {size}")
      else (pure ⟨guid', name'⟩ : Reader CharRename)) c = (.ok ⟨guid, name⟩, c') ↔
      (1 ≤ (textBytes name').length ∧ (textBytes name').length ≤ 12) ∧
        guid' = guid ∧ name' = name ∧ c = c' := by
  rw [length_textBytes, maxNameBytes]
  split
  · rename_i hrefused
    refine iff_of_false nofun ?_
    rintro ⟨hlength, -⟩
    omega
  · rename_i hpassed
    have hlength : 1 ≤ name'.utf8ByteSize ∧ name'.utf8ByteSize ≤ 12 := by omega
    constructor
    · intro h
      obtain ⟨hpacket, hplace⟩ := Prod.mk.inj h
      obtain ⟨hguid, hname⟩ := CharRename.mk.inj (Except.ok.inj hpacket)
      exact ⟨hlength, hguid, hname, hplace⟩
    · rintro ⟨-, rfl, rfl, rfl⟩
      rfl

/-- A payload gives a character a new name when it has the identifier, then a name of one to twelve
bytes without a zero byte, then a zero byte. -/
theorem charRename_eq_ok_iff :
    CharRename.read.run payload = (.ok ⟨guid, name⟩, c') ↔
      (0 ∉ textBytes name ∧ 1 ≤ (textBytes name).length ∧ (textBytes name).length ≤ 12) ∧
        ∃ rest, payload = toLittleEndian 8 guid.toNat ++ (textBytes name ++ 0 :: rest) ∧
          c' = ⟨8 + ((textBytes name).length + 1), rest⟩ := by
  unfold Reader.run CharRename.read
  rw [Reader.bind_eq_ok_iff]
  constructor
  · rintro ⟨guid', c₁, hguid, hrest⟩
    obtain ⟨name', c₂, hname, hlast⟩ := Reader.bind_eq_ok_iff.mp hrest
    obtain ⟨hlength, rfl, rfl, rfl⟩ := charRename_check_eq_ok_iff.mp hlast
    obtain ⟨bytes, hpayload, rfl⟩ := word64_eq_ok_iff.mp hguid
    obtain ⟨hzero, rest, hbytes, rfl⟩ := cstring_eq_ok_iff.mp hname
    refine ⟨⟨hzero, hlength⟩, rest, ?_, ?_⟩
    · exact hpayload.trans (congrArg _ hbytes)
    · rw [Cursor.start, Nat.zero_add]
  · rintro ⟨⟨hzero, hlength⟩, rest, rfl, rfl⟩
    have hguid : word64 (.start (toLittleEndian 8 guid.toNat ++ (textBytes name ++ 0 :: rest))) =
        (.ok guid, ⟨8, textBytes name ++ 0 :: rest⟩) :=
      word64_eq_ok_iff.mpr ⟨_, rfl, rfl⟩
    have hname : cstring ⟨8, textBytes name ++ 0 :: rest⟩ =
        (.ok name, ⟨8 + ((textBytes name).length + 1), rest⟩) :=
      cstring_eq_ok_iff.mpr ⟨hzero, rest, rfl, rfl⟩
    refine ⟨guid, _, hguid, Reader.bind_eq_ok_iff.mpr ⟨name, _, hname, ?_⟩⟩
    exact charRename_check_eq_ok_iff.mpr ⟨hlength, rfl, rfl, rfl⟩

/-! ## Every kind of packet -/

/-- Further bytes change neither a packet that was decoded nor a fault that is final, apart from the
switch without a payload. -/
theorem PacketKind.run_append {kind : PacketKind}
    (present : ¬(kind = .togglePvp ∧ payload = []))
    (settled : Settled (kind.read.run payload).1) (tail : List UInt8) :
    kind.read.run (payload ++ tail) =
      ((kind.read.run payload).1, (kind.read.run payload).2.followedBy tail) := by
  have hstable : kind.read.StableFrom (.start payload) := by
    apply kind.stableFrom_read
    intro hkind hnone
    exact present ⟨hkind, hnone⟩
  exact hstable settled tail

/-- The switch without a payload is decoded to no value. -/
theorem run_togglePvp_nil : TogglePvp.read.run [] = (.ok ⟨none⟩, ⟨0, []⟩) :=
  rfl

/-- The switch with a payload is decoded from its first byte. -/
theorem run_togglePvp_cons (b : UInt8) (rest : List UInt8) :
    TogglePvp.read.run (b :: rest) = (.ok ⟨some (b != 0)⟩, ⟨1, rest⟩) := by
  have hflag : flag (.start (b :: rest)) = (.ok (b != 0), ⟨1, rest⟩) :=
    Reader.bind_eq_ok_iff.mpr ⟨b, _, byte_cons 0 b rest, rfl⟩
  rw [Reader.run, togglePvp_of_ne_nil (List.cons_ne_nil b rest)]
  exact Reader.bind_eq_ok_iff.mpr ⟨_, _, hflag, rfl⟩

/-- A handler of the world takes the message as it is or decodes one of the kinds of packets. -/
theorem raw_or_typed_of_mem_handlers {h : Handler WorldSession}
    (hmem : h ∈ WorldSession.handlers) :
    (∃ body, h = Handler.raw h.name body) ∨
      ∃ (kind : PacketKind) (body : kind.Content → Body WorldSession),
        h = Handler.typed h.name kind.read body := by
  simp only [WorldSession.handlers, List.mem_cons, List.not_mem_nil, or_false] at hmem
  rcases hmem with rfl | rfl | rfl | rfl | rfl | rfl | rfl
  · exact .inr ⟨.nameQuery, _, rfl⟩
  · exact .inr ⟨.charDelete, _, rfl⟩
  · exact .inr ⟨.charRename, _, rfl⟩
  · exact .inr ⟨.moveTimeSkipped, _, rfl⟩
  · exact .inr ⟨.togglePvp, _, rfl⟩
  · exact .inl ⟨_, rfl⟩
  · exact .inl ⟨_, rfl⟩

/-- Every handler of the world decodes no packet or one of these kinds.  When a payload is decoded,
more bytes after it change neither the packet nor how many bytes it takes, apart from the switch
without a payload; a payload that is refused for its text or for its content is refused for the same
fault when more bytes follow.  The switch is the exception, for its first byte decides when there is
one.  A new name is decoded just from the eight bytes of the identifier, the bytes of a name of one to
twelve bytes without a zero byte, and a zero byte, with anything after them. -/
theorem packets_decode_by_prefix :
    (∀ h ∈ WorldSession.handlers, (∃ body, h = Handler.raw h.name body) ∨
      ∃ (kind : PacketKind) (body : kind.Content → Body WorldSession),
        h = Handler.typed h.name kind.read body) ∧
      (∀ (kind : PacketKind) payload tail packet consumed rest,
        kind.read.run payload = (.ok packet, ⟨consumed, rest⟩) →
          ¬(kind = .togglePvp ∧ payload = []) →
            kind.read.run (payload ++ tail) = (.ok packet, ⟨consumed, rest ++ tail⟩)) ∧
      (∀ (kind : PacketKind) payload tail fault, (kind.read.run payload).1 = .error fault →
        fault.Final → (kind.read.run (payload ++ tail)).1 = .error fault) ∧
      (TogglePvp.read.run [] = (.ok ⟨none⟩, ⟨0, []⟩) ∧
        ∀ b rest, TogglePvp.read.run (b :: rest) = (.ok ⟨some (b != 0)⟩, ⟨1, rest⟩)) ∧
      ∀ payload guid name c', CharRename.read.run payload = (.ok ⟨guid, name⟩, c') ↔
        (0 ∉ textBytes name ∧ 1 ≤ (textBytes name).length ∧ (textBytes name).length ≤ 12) ∧
          ∃ rest, payload = toLittleEndian 8 guid.toNat ++ (textBytes name ++ 0 :: rest) ∧
            c' = ⟨8 + ((textBytes name).length + 1), rest⟩ := by
  refine ⟨fun _ => raw_or_typed_of_mem_handlers, ?_, ?_, ⟨run_togglePvp_nil, run_togglePvp_cons⟩,
    fun _ _ _ _ => charRename_eq_ok_iff⟩
  · intro kind payload tail packet consumed rest hread present
    have hsettled : Settled (kind.read.run payload).1 := by
      rw [hread]
      trivial
    rw [PacketKind.run_append present hsettled, hread]
    rfl
  · intro kind payload tail fault hread final
    have hsettled : Settled (kind.read.run payload).1 := by
      rw [hread]
      exact final
    have present : ¬(kind = .togglePvp ∧ payload = []) := by
      rintro ⟨rfl, rfl⟩
      cases hread
    rw [PacketKind.run_append present hsettled, hread]

/-- A report of skipped time with a byte after it, and a new name without any letter. -/
theorem packets_decode_by_prefix_skipped :
    MoveTimeSkipped.read.run [0x01, 0x2A, 0xE8, 3, 0, 0, 9] = (.ok ⟨42, 1000⟩, ⟨6, [9]⟩) ∧
      (CharRename.read.run [7, 0, 0, 0, 0, 0, 0, 0, 0, 65, 0]).1 =
        .error (.malformed "character name must be 1-12 bytes, got 0") := by
  have hskipped : PacketKind.moveTimeSkipped.read.run [0x01, 0x2A, 0xE8, 3, 0, 0] =
      (.ok (⟨42, 1000⟩ : MoveTimeSkipped), ⟨6, []⟩) := by cbv
  have hnameless : (PacketKind.charRename.read.run [7, 0, 0, 0, 0, 0, 0, 0, 0]).1 =
      .error (.malformed "character name must be 1-12 bytes, got 0") := by cbv
  obtain ⟨-, hdecoded, hrefused, -, -⟩ := packets_decode_by_prefix
  exact ⟨hdecoded .moveTimeSkipped _ [9] _ _ _ hskipped (by rintro ⟨⟨⟩, -⟩),
    hrefused .charRename _ [65, 0] _ hnameless trivial⟩

end Wire
end PacketDispatch
