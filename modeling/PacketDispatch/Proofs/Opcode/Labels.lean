import PacketDispatch.Proofs.Opcode.Grammar
import PacketDispatch.Proofs.Table.Sentinel

/-!
# Labels of opcodes

The label of an opcode holds its number twice, and each of the two numerals is one that a person may
write for it.  The second numeral stands after the last opening bracket of the label, so the opcode can be
told from the label whatever its name looks like.
-/

namespace PacketDispatch

open Text (Numeral Written)

namespace Opcode

variable {base n : Nat} {c : Char} {cs : List Char} {text : String} {id : Opcode}

/-! ## Reading the numerals of a label -/

theorem unsigned_of_numeral (hbase : base ≤ 36) (h : Numeral base cs n) : unsigned cs = cs := by
  unfold unsigned
  split
  · obtain ⟨d, hd⟩ := h.exists_isDigit List.mem_cons_self
    have hbounds := hd.toNat_bounds hbase
    contradiction
  · rfl

/-- A decimal numeral has no mark of a base. -/
theorem marked_of_numeral (h : Numeral 10 cs n) : marked cs = (10, cs) := by
  have hletter : ∀ c ∈ cs, ¬57 < c.toNat := by
    intro c hc hletter
    obtain ⟨d, hd⟩ := h.exists_isDigit hc
    rw [Text.isDigit_iff (by decide)] at hd
    split_ifs at hd <;> omega
  unfold marked
  split
  · exact absurd (by decide) (hletter 'x' (by simp))
  · exact absurd (by decide) (hletter 'X' (by simp))
  · rfl

theorem not_blank_of_numeral (hbase : base ≤ 36) (h : Numeral base cs n) :
    ∀ c ∈ cs, Text.isBlank c = false := by
  intro c hc
  obtain ⟨d, hd⟩ := h.exists_isDigit hc
  exact hd.not_blank hbase

/-- A numeral is accepted as it stands after the mark of its base. -/
theorem parse_of_numeral (hmarked : marked (Text.trimList text.toList) = (base, cs))
    (hbase : base ≤ 36) (hne : cs ≠ []) (h : Numeral base cs id.toNat) :
    parse text = .ok id := by
  rw [parse_eq_ok_iff, hmarked, unsigned_of_numeral hbase h]
  exact ⟨hne, h⟩

theorem parse_decimal (id : Opcode) : parse (Text.decimal id.toNat) = .ok id := by
  have hwritten := Text.written_decimal id.toNat
  refine parse_of_numeral ?_ (by decide) (hwritten.ne_nil Nat.one_pos) hwritten.numeral
  rw [Text.trimList_of_forall_not_blank (not_blank_of_numeral (by decide) hwritten.numeral)]
  exact marked_of_numeral hwritten.numeral

theorem parse_hexWord (id : Opcode) : parse (Text.hexWord id.toNat) = .ok id := by
  obtain ⟨cs, hcs, hwritten⟩ := Text.written_hexWord id.toNat
  have hclean : ∀ c ∈ '0' :: 'x' :: cs, Text.isBlank c = false := by
    intro c hc
    rcases List.mem_cons.mp hc with rfl | hc
    · decide
    rcases List.mem_cons.mp hc with rfl | hc
    · decide
    · exact not_blank_of_numeral (by decide) hwritten.numeral c hc
  refine parse_of_numeral ?_ (by decide) (hwritten.ne_nil (by decide)) hwritten.numeral
  rw [hcs, Text.trimList_of_forall_not_blank hclean]
  rfl

/-! ## Telling labels apart -/

/-- What stands after the last occurrence of a character is told from the whole. -/
theorem eq_of_append_cons_eq {before before' after after' : List Char}
    (h : before ++ c :: after = before' ++ c :: after') (hlast : c ∉ after) (hlast' : c ∉ after') :
    after = after' := by
  rcases List.append_eq_append_iff.mp h with ⟨between, -, hafter⟩ | ⟨between, -, hafter⟩
  · cases between with
    | nil => exact (List.cons.inj hafter).2
    | cons first between =>
        obtain ⟨-, rfl⟩ := List.cons.inj hafter
        exact absurd (List.mem_append_right between List.mem_cons_self) hlast
  · cases between with
    | nil => exact (List.cons.inj hafter).2.symm
    | cons first between =>
        obtain ⟨-, rfl⟩ := List.cons.inj hafter
        exact absurd (List.mem_append_right between List.mem_cons_self) hlast'

theorem exists_toList_label (name : Option String) (id : Opcode) :
    ∃ before, (label name id).toList =
      before ++ '(' :: ((Text.decimal id.toNat).toList ++ [')', ']']) := by
  unfold label
  dsimp only
  generalize (if id.toNat < opcodeLimit then name.getD "UNKNOWN OPCODE" else "INVALID OPCODE") = shown
  exact ⟨("[" ++ shown ++ " " ++ Text.hexWord id.toNat ++ " ").toList, by simp⟩

theorem bracket_not_mem_decimal (n : Nat) : '(' ∉ (Text.decimal n).toList ++ [')', ']'] := by
  intro hmem
  rcases List.mem_append.mp hmem with hmem | hmem
  · obtain ⟨d, hd⟩ := (Text.written_decimal n).numeral.exists_isDigit hmem
    have hbounds := hd.toNat_bounds (by decide)
    contradiction
  · revert hmem
    decide

theorem decimal_eq_of_label_eq {name name' : Option String} {id' : Opcode}
    (h : label name id = label name' id') :
    Text.decimal id.toNat = Text.decimal id'.toNat := by
  obtain ⟨before, hbefore⟩ := exists_toList_label name id
  obtain ⟨before', hbefore'⟩ := exists_toList_label name' id'
  rw [h, hbefore'] at hbefore
  have hafter := eq_of_append_cons_eq hbefore.symm (bracket_not_mem_decimal _)
    (bracket_not_mem_decimal _)
  exact String.toList_inj.mp (List.append_cancel_right hafter)

end Opcode

namespace Table

variable {σ : Type} {t : Table σ}

/-- The name in a label is the registered one.  An opcode without one is unknown in range and invalid out
of it, where no table that was built has any. -/
theorem Built.exists_label_eq (built : t.Built) (id : Opcode) :
    ∃ name, t.label id =
        "[" ++ name ++ " " ++ Text.hexWord id.toNat ++ " (" ++ Text.decimal id.toNat ++ ")]" ∧
      (∀ d, t.lookup id = some d → name = d.name) ∧
      (t.lookup id = none → id.toNat < opcodeLimit → name = "UNKNOWN OPCODE") ∧
      (opcodeLimit ≤ id.toNat → name = "INVALID OPCODE") := by
  refine ⟨_, rfl, ?_, ?_, ?_⟩
  · intro d hd
    have hrange : id.toNat < opcodeLimit := by
      by_contra hbeyond
      rw [built.lookup_eq_none (Nat.le_of_not_lt hbeyond)] at hd
      cases hd
    rw [if_pos hrange, hd]
    rfl
  · intro hnone hrange
    rw [if_pos hrange, hnone]
    rfl
  · intro hbeyond
    rw [if_neg (Nat.not_lt.mpr hbeyond)]

/-- The label of an opcode holds its name, a hexadecimal numeral with at least four digits and a decimal
one, and each numeral is read as the opcode.  Two opcodes never have the same label, in one table or in
two, whatever the names in these are. -/
theorem label_identifies_opcode (built : t.Built) (id : Opcode) :
    (∃ name, t.label id =
        "[" ++ name ++ " " ++ Text.hexWord id.toNat ++ " (" ++ Text.decimal id.toNat ++ ")]" ∧
      (∀ d, t.lookup id = some d → name = d.name) ∧
      (t.lookup id = none → id.toNat < opcodeLimit → name = "UNKNOWN OPCODE") ∧
      (opcodeLimit ≤ id.toNat → name = "INVALID OPCODE")) ∧
      (∃ cs, (Text.hexWord id.toNat).toList = '0' :: 'x' :: cs ∧ Written 16 4 cs id.toNat) ∧
      Written 10 1 (Text.decimal id.toNat).toList id.toNat ∧
      Opcode.parse (Text.hexWord id.toNat) = .ok id ∧
      Opcode.parse (Text.decimal id.toNat) = .ok id ∧
      ∀ (t' : Table σ) (id' : Opcode), t'.label id' = t.label id → id' = id := by
  refine ⟨built.exists_label_eq id, Text.written_hexWord _, Text.written_decimal _,
    Opcode.parse_hexWord id, Opcode.parse_decimal id, ?_⟩
  intro t' id' hlabel
  have hdecimal : Text.decimal id'.toNat = Text.decimal id.toNat :=
    Opcode.decimal_eq_of_label_eq hlabel
  have hparse := Opcode.parse_decimal id'
  rw [hdecimal, Opcode.parse_decimal id] at hparse
  exact (Except.ok.inj hparse).symm

/-- Two opcodes with the same name, which ends like the label of the first. -/
def mimics : List (Registration Unit) :=
  [.server 0x036 "A 0x0036 (54)]" .never, .server 0x037 "A 0x0036 (54)]" .never]

theorem label_identifies_opcode_mimics :
    let t := ((empty : Table Unit).addAll mimics).1
    t.label 0x037 = "[A 0x0036 (54)] 0x0037 (55)]" ∧
      Opcode.parse (Text.hexWord 0x037) = .ok 0x037 ∧ t.label 0x036 ≠ t.label 0x037 := by
  intro t
  obtain ⟨⟨name, hlabel, hregistered, -⟩, -, -, hparse, -, hdiffer⟩ :=
    label_identifies_opcode (Built.registered mimics) 0x037
  have hname : name = "A 0x0036 (54)]" := hregistered _ rfl
  refine ⟨?_, hparse, fun hsame => absurd (hdiffer t _ hsame) (by decide)⟩
  rw [hlabel, hname]
  decide +kernel

end Table
end PacketDispatch
