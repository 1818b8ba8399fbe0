import PacketDispatch.Proofs.Wire.Bounds
import PacketDispatch.Proofs.World.Conduct

/-!
# The world decodes within bounds

Every handler of the production table takes its message as it is or reads a packet from its payload.
None of these reads leaves the payload, so a call leaves no more bytes unread than there are, and a
message that does not decode is refused for a place that it has.
-/

namespace PacketDispatch

/-- A handler that decodes nothing, or decodes by a read that stays in its payload. -/
inductive Handler.ReadsInBounds {σ : Type} : Handler σ → Prop
  | raw (name : String) (body : Envelope → Body σ) : ReadsInBounds (Handler.raw name body)
  | typed {π : Type} (name : String) {read : Wire.Reader π} (body : π → Body σ)
    (bounds : read.InBounds) : ReadsInBounds (Handler.typed name read body)

/-- What comes of a message when its payload is not left: a call that leaves no more unread than
there is, or a fault that is true of the payload. -/
structure Handler.PreparesInBounds {σ : Type} (h : Handler σ) (env : Envelope) : Prop where
  unread : ∀ c, h.prepare env = .ok c → c.unread ≤ env.payload.length
  fault : ∀ fault, h.prepare env = .error fault → fault.Within env.payload

theorem Handler.ReadsInBounds.prepares {σ : Type} {h : Handler σ} (reads : h.ReadsInBounds)
    (env : Envelope) : h.PreparesInBounds env := by
  cases reads with
  | raw name body =>
      refine ⟨fun c hc => ?_, nofun⟩
      obtain rfl := Except.ok.inj hc
      exact Nat.zero_le _
  | @typed π name read body bounds =>
      obtain ⟨hin, -, hfault⟩ := bounds env.payload _ (.start env.payload)
      change (read.run env.payload).2.In env.payload at hin
      change ∀ fault, (read.run env.payload).1 = .error fault → fault.Within env.payload at hfault
      rcases hread : read.run env.payload with ⟨result, c⟩
      rw [hread] at hin hfault
      cases result with
      | ok packet =>
          have hprepare : (Handler.typed name read body).prepare env =
              .ok ⟨name, c.remaining, body packet⟩ := by
            simp only [Handler.typed, hread]
          refine ⟨fun call hcall => ?_, fun fault herror => ?_⟩
          · obtain rfl := Except.ok.inj (hprepare.symm.trans hcall)
            have hlength := hin.position_add_remaining
            exact Nat.le.intro ((Nat.add_comm _ _).trans hlength)
          · cases hprepare.symm.trans herror
      | error fault' =>
          have hprepare : (Handler.typed name read body).prepare env = .error fault' := by
            simp only [Handler.typed, hread]
          refine ⟨fun call hcall => ?_, fun fault herror => ?_⟩
          · cases hprepare.symm.trans hcall
          · obtain rfl := Except.error.inj (hprepare.symm.trans herror)
            exact hfault fault' rfl

/-- A table of handlers that stay in the payloads of their messages. -/
structure Table.DecodesInBounds {σ : Type} (t : Table σ) : Prop where
  reads : ∀ id d, t.lookup id = some d → d.handler.ReadsInBounds
  prepares : ∀ id d env, t.lookup id = some d → d.handler.PreparesInBounds env

namespace WorldSession

/-- A handler that is found in the production table is bound to a key, or it only writes a line. -/
theorem exists_rule_of_lookup_opening {rule : String → Handler WorldSession → Prop}
    (keeps : bindings.Keeps rule)
    (discards : ∀ key name level notice, rule key (Handler.discard name level notice))
    {id : Opcode} {d : Descriptor WorldSession} (h : opening.table.lookup id = some d) :
    ∃ key, rule key d.handler := by
  rw [opening, Manifest.load_table] at h
  obtain ⟨r, -, -, -, describes⟩ :=
    (Manifest.wellNumbered_production.lookup_eq_some_iff bindings).mp h
  cases hkind : r.kind with
  | server requirement =>
      rw [(describes.server _ hkind).2]
      exact ⟨"", discards "" _ _ _⟩
  | client requirement lane key =>
      exact ⟨key, keeps key d.handler (describes.client _ _ _ hkind).2⟩

theorem readsInBounds_of_mem_handlers {h : Handler WorldSession} (hmem : h ∈ handlers) :
    h.ReadsInBounds := by
  simp only [handlers, List.mem_cons, List.not_mem_nil, or_false] at hmem
  rcases hmem with rfl | rfl | rfl | rfl | rfl | rfl | rfl
  · exact .typed _ _ Wire.inBounds_nameQuery
  · exact .typed _ _ Wire.inBounds_charDelete
  · exact .typed _ _ Wire.inBounds_charRename
  · exact .typed _ _ Wire.inBounds_moveTimeSkipped
  · exact .typed _ _ Wire.inBounds_togglePvp
  · exact .raw _ _
  · exact .raw _ _

theorem decodesInBounds_opening : opening.table.DecodesInBounds := by
  have keeps : bindings.Keeps fun _ h => h.ReadsInBounds :=
    keeps_bindings (fun _ name _ _ => .raw name _) fun _ => readsInBounds_of_mem_handlers
  have reads : ∀ id d, opening.table.lookup id = some d → d.handler.ReadsInBounds := by
    intro id d hlookup
    obtain ⟨-, hreads⟩ :=
      exists_rule_of_lookup_opening keeps (fun _ name _ _ => .raw name _) hlookup
    exact hreads
  exact ⟨reads, fun id d env hlookup => (reads id d hlookup).prepares env⟩

end WorldSession
end PacketDispatch
