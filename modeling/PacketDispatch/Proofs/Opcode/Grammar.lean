import PacketDispatch.Opcode
import PacketDispatch.Proofs.Text.Numerals
import PacketDispatch.Proofs.Text.Trimming

/-!
# The grammar of opcodes

A person writes an opcode as a numeral, hexadecimal after a mark, with one plus sign allowed in front of
the digits.  Digits are read from the left, and the first thing that is wrong is reported: a number that
has grown too large, or a character that is no digit.  So a text is accepted just when it is a numeral of
an opcode, and the report of any other one is a fact about its digits before the first wrong one.
-/

namespace PacketDispatch
namespace Opcode

open Text (IsDigit Numeral)

variable {base d n seen : Nat} {c : Char} {cs : List Char} {fault : NumberFault}

/-- The base of a number that is written, and what is written after the mark of the base. -/
def marked : List Char → Nat × List Char
  | '0' :: 'x' :: rest => (16, rest)
  | '0' :: 'X' :: rest => (16, rest)
  | cs => (10, cs)

/-- A number that is written, without a plus sign in front. -/
def unsigned : List Char → List Char
  | '+' :: rest => rest
  | cs => cs

/-! ## Digits after digits -/

theorem not_isDigit_minus (hbase : base ≤ 36) (d : Nat) : ¬IsDigit base d '-' := by
  have hminus : '-'.toNat = 45 := rfl
  rw [Text.isDigit_iff hbase, hminus]
  split_ifs <;> omega

theorem digitValue?_eq_some_iff (hbase : base ≤ 36) :
    digitValue? base c = some d ↔ IsDigit base d c := by
  rw [Text.isDigit_iff hbase, digitValue?, Option.filter_eq_some_iff, decide_eq_true_eq]
  split_ifs <;> simp only [Option.some.injEq, false_and, false_iff] <;> omega

theorem digitValue?_eq_none_iff (hbase : base ≤ 36) :
    digitValue? base c = none ↔ ∀ d, ¬IsDigit base d c := by
  rw [Option.eq_none_iff_forall_ne_some]
  exact forall_congr' fun d => (digitValue?_eq_some_iff hbase).not

/-- Characters are digits that go on from a number to another number. -/
def Continues (base seen : Nat) (cs : List Char) (n : Nat) : Prop :=
  ∃ ds, List.Forall₂ (IsDigit base) ds cs ∧ ds.foldl (fun n d => n * base + d) seen = n

theorem continues_nil : Continues base seen [] n ↔ seen = n := by
  simp [Continues]

theorem continues_cons :
    Continues base seen (c :: cs) n ↔
      ∃ d, IsDigit base d c ∧ Continues base (seen * base + d) cs n := by
  constructor
  · rintro ⟨ds, hspelled, hvalue⟩
    obtain ⟨d, ds', hd, hspelled', rfl⟩ := List.forall₂_cons_right_iff.mp hspelled
    exact ⟨d, hd, ds', hspelled', hvalue⟩
  · rintro ⟨d, hd, ds, hspelled, hvalue⟩
    exact ⟨d :: ds, .cons hd hspelled, hvalue⟩

theorem numeral_iff_continues : Numeral base cs n ↔ Continues base 0 cs n := by
  refine exists_congr fun ds => and_congr_right fun _ => ?_
  have hvalue : Nat.ofDigits base ds.reverse = ds.foldl (fun n d => n * base + d) 0 := by
    rw [Nat.ofDigits_eq_foldr, List.foldr_reverse]
    simp only [Nat.cast_id, Nat.add_comm, Nat.mul_comm]
  rw [hvalue]

/-- More digits never make a number smaller. -/
theorem Continues.le (hbase : 0 < base) (h : Continues base seen cs n) : seen ≤ n := by
  induction cs generalizing seen with
  | nil => exact Nat.le_of_eq (continues_nil.mp h)
  | cons c cs ih =>
      obtain ⟨d, -, hrest⟩ := continues_cons.mp h
      calc seen ≤ seen * base := Nat.le_mul_of_pos_right seen hbase
        _ ≤ seen * base + d := Nat.le_add_right _ d
        _ ≤ n := ih hrest

/-! ## Reading digits -/

/-- What is wrong with a character after digits that make a number: it is a digit that makes the number
too large, or it is no digit. -/
def Wrong (base n : Nat) (c : Char) : NumberFault → Prop
  | .tooLarge => ∃ d, IsDigit base d c ∧ UInt32.size ≤ n * base + d
  | .badDigit => ∀ d, ¬IsDigit base d c
  | .empty => False

theorem wrong_iff_of_stray (hstray : ∀ d, ¬IsDigit base d c) :
    Wrong base n c fault ↔ fault = .badDigit := by
  cases fault with
  | badDigit => exact iff_of_true hstray rfl
  | tooLarge => exact iff_of_false (fun ⟨d, hd, _⟩ => hstray d hd) nofun
  | empty => exact iff_of_false id nofun

/-- A character is a digit of one value at most. -/
theorem exists_digit_iff (hbase : base ≤ 36) (hd : IsDigit base d c) {P : Nat → Prop} :
    (∃ d', IsDigit base d' c ∧ P d') ↔ P d := by
  constructor
  · rintro ⟨d', hd', h⟩
    rwa [hd.unique hbase hd']
  · exact fun h => ⟨d, hd, h⟩

theorem wrong_iff_of_digit (hbase : base ≤ 36) (hd : IsDigit base d c) :
    Wrong base n c fault ↔ fault = .tooLarge ∧ UInt32.size ≤ n * base + d := by
  cases fault with
  | badDigit => exact iff_of_false (fun hstray => hstray d hd) nofun
  | tooLarge => exact (exists_digit_iff hbase hd).trans (and_iff_right rfl).symm
  | empty => exact iff_of_false id nofun

/-- The first character with a fault comes after digits that go on from a number to one that is not too
large. -/
def FirstWrong (base seen : Nat) (cs : List Char) (fault : NumberFault) : Prop :=
  ∃ ds c rest n, cs = ds ++ c :: rest ∧ Continues base seen ds n ∧ n < UInt32.size ∧
    Wrong base n c fault

theorem not_firstWrong_nil : ¬FirstWrong base seen [] fault := by
  rintro ⟨ds, c, rest, n, hsplit, -⟩
  exact List.append_ne_nil_of_right_ne_nil ds (List.cons_ne_nil c rest) hsplit.symm

theorem firstWrong_cons :
    FirstWrong base seen (c :: cs) fault ↔
      (seen < UInt32.size ∧ Wrong base seen c fault) ∨
        ∃ d, IsDigit base d c ∧ FirstWrong base (seen * base + d) cs fault := by
  constructor
  · rintro ⟨ds, c', rest, n, hsplit, hdigits, hsmall, hwrong⟩
    cases ds with
    | nil =>
        obtain ⟨rfl, rfl⟩ := List.cons.inj hsplit
        obtain rfl := continues_nil.mp hdigits
        exact .inl ⟨hsmall, hwrong⟩
    | cons c'' ds =>
        obtain ⟨rfl, rfl⟩ := List.cons.inj hsplit
        obtain ⟨d, hd, hmore⟩ := continues_cons.mp hdigits
        exact .inr ⟨d, hd, ds, c', rest, n, rfl, hmore, hsmall, hwrong⟩
  · rintro (⟨hsmall, hwrong⟩ | ⟨d, hd, ds, c', rest, n, rfl, hmore, hsmall, hwrong⟩)
    · exact ⟨[], c, cs, seen, rfl, continues_nil.mpr rfl, hsmall, hwrong⟩
    · exact ⟨c :: ds, c', rest, n, rfl, continues_cons.mpr ⟨d, hd, hmore⟩, hsmall, hwrong⟩

/-- Nothing is wrong after a number that is too large already. -/
theorem FirstWrong.seen_lt (hbase : 0 < base) (h : FirstWrong base seen cs fault) :
    seen < UInt32.size := by
  obtain ⟨ds, c, rest, n, -, hdigits, hsmall, -⟩ := h
  exact Nat.lt_of_le_of_lt (hdigits.le hbase) hsmall

/-- A character is read in one of three ways. -/
theorem readDigits_cons_cases (hbase : base ≤ 36) (seen : Nat) (c : Char) (cs : List Char) :
    ((∀ d, ¬IsDigit base d c) ∧ readDigits base seen (c :: cs) = .error .badDigit) ∨
      ∃ d, IsDigit base d c ∧
        (UInt32.size ≤ seen * base + d ∧ readDigits base seen (c :: cs) = .error .tooLarge ∨
          seen * base + d < UInt32.size ∧
            readDigits base seen (c :: cs) = readDigits base (seen * base + d) cs) := by
  rw [readDigits]
  cases hvalue : digitValue? base c with
  | none => exact .inl ⟨(digitValue?_eq_none_iff hbase).mp hvalue, rfl⟩
  | some d =>
      refine .inr ⟨d, (digitValue?_eq_some_iff hbase).mp hvalue, ?_⟩
      by_cases hsmall : seen * base + d < UInt32.size
      · exact .inr ⟨hsmall, if_pos hsmall⟩
      · exact .inl ⟨Nat.le_of_not_lt hsmall, if_neg hsmall⟩

/-- Digits are read just when they make a number that is not too large. -/
theorem readDigits_eq_ok_iff (hpos : 0 < base) (hbase : base ≤ 36) (hseen : seen < UInt32.size) :
    readDigits base seen cs = .ok n ↔ Continues base seen cs n ∧ n < UInt32.size := by
  induction cs generalizing seen with
  | nil =>
      rw [continues_nil, readDigits, Except.ok.injEq]
      exact ⟨fun h => ⟨h, h ▸ hseen⟩, And.left⟩
  | cons c cs ih =>
      rw [continues_cons]
      rcases readDigits_cons_cases hbase seen c cs with
        ⟨hstray, hread⟩ | ⟨d, hd, ⟨hlarge, hread⟩ | ⟨hsmall, hread⟩⟩
      · rw [hread]
        exact iff_of_false nofun fun ⟨⟨d, hd, _⟩, _⟩ => hstray d hd
      · rw [hread, exists_digit_iff hbase hd]
        refine iff_of_false nofun ?_
        rintro ⟨hmore, hsmall⟩
        have hle := hmore.le hpos
        omega
      · rw [hread, exists_digit_iff hbase hd, ih hsmall]

/-- The fault that is reported is that of the first character with one. -/
theorem readDigits_eq_error_iff (hpos : 0 < base) (hbase : base ≤ 36) (hseen : seen < UInt32.size) :
    readDigits base seen cs = .error fault ↔ FirstWrong base seen cs fault := by
  induction cs generalizing seen with
  | nil => exact iff_of_false nofun not_firstWrong_nil
  | cons c cs ih =>
      rw [firstWrong_cons, and_iff_right hseen]
      rcases readDigits_cons_cases hbase seen c cs with
        ⟨hstray, hread⟩ | ⟨d, hd, ⟨hlarge, hread⟩ | ⟨hsmall, hread⟩⟩
      · have hmore : ¬∃ d, IsDigit base d c ∧ FirstWrong base (seen * base + d) cs fault :=
          fun ⟨d, hd, _⟩ => hstray d hd
        rw [hread, wrong_iff_of_stray hstray, or_iff_left hmore, Except.error.injEq, eq_comm]
      · have hmore : ¬FirstWrong base (seen * base + d) cs fault :=
          fun hmore => absurd (hmore.seen_lt hpos) (Nat.not_lt.mpr hlarge)
        rw [hread, wrong_iff_of_digit hbase hd, exists_digit_iff hbase hd, or_iff_left hmore,
          and_iff_left hlarge, Except.error.injEq, eq_comm]
      · have hright : ¬(fault = .tooLarge ∧ UInt32.size ≤ seen * base + d) :=
          fun hwrong => absurd hsmall (Nat.not_lt.mpr hwrong.2)
        rw [hread, wrong_iff_of_digit hbase hd, exists_digit_iff hbase hd, or_iff_right hright,
          ih hsmall]

/-! ## Reading numbers -/

/-- A number is nothing, a plus sign alone, or digits. -/
theorem readNumber_cases (base : Nat) (cs : List Char) :
    cs = [] ∧ readNumber base cs = .error .empty ∨
      cs ≠ [] ∧ unsigned cs = [] ∧ readNumber base cs = .error .badDigit ∨
        cs ≠ [] ∧ unsigned cs ≠ [] ∧ readNumber base cs = readDigits base 0 (unsigned cs) := by
  unfold readNumber
  split
  · exact .inl ⟨rfl, rfl⟩
  · exact .inr (.inl ⟨List.cons_ne_nil _ _, rfl, rfl⟩)
  · rename_i rest hrest
    exact .inr (.inr ⟨List.cons_ne_nil _ _, hrest, rfl⟩)
  · rename_i hnil _ hsigned
    have hsame : unsigned cs = cs := by
      unfold unsigned
      split
      · exact absurd rfl (hsigned _)
      · rfl
    rw [hsame]
    exact .inr (.inr ⟨hnil, hnil, rfl⟩)

theorem readNumber_eq_ok_iff (hpos : 0 < base) (hbase : base ≤ 36) :
    readNumber base cs = .ok n ↔
      unsigned cs ≠ [] ∧ Numeral base (unsigned cs) n ∧ n < UInt32.size := by
  rcases readNumber_cases base cs with ⟨rfl, hread⟩ | ⟨-, hnone, hread⟩ | ⟨-, hsome, hread⟩
  · rw [hread]
    exact iff_of_false nofun fun h => h.1 rfl
  · rw [hread]
    exact iff_of_false nofun fun h => h.1 hnone
  · rw [hread, readDigits_eq_ok_iff hpos hbase (by decide), numeral_iff_continues,
      and_iff_right hsome]

theorem readNumber_eq_error_iff (hpos : 0 < base) (hbase : base ≤ 36) :
    readNumber base cs = .error fault ↔
      cs = [] ∧ fault = .empty ∨ (cs ≠ [] ∧ unsigned cs = [] ∧ fault = .badDigit) ∨
        FirstWrong base 0 (unsigned cs) fault := by
  rcases readNumber_cases base cs with ⟨rfl, hread⟩ | ⟨hne, hnone, hread⟩ | ⟨hne, hsome, hread⟩
  · rw [hread]
    simp [unsigned, not_firstWrong_nil, eq_comm]
  · rw [hread]
    simp [hne, hnone, not_firstWrong_nil, eq_comm]
  · rw [hread, readDigits_eq_error_iff hpos hbase (by decide)]
    simp [hne, hsome]

/-! ## Reading opcodes -/

theorem parse_eq (text : String) :
    parse text =
      (readNumber (marked (Text.trimList text.toList)).1
        (marked (Text.trimList text.toList)).2).map UInt32.ofNat := by
  unfold parse
  generalize Text.trimList text.toList = s
  unfold marked
  split <;> simp

/-- A number is written in one of two bases. -/
theorem marked_bounds (cs : List Char) : 0 < (marked cs).1 ∧ (marked cs).1 ≤ 36 := by
  unfold marked
  split <;> simp

/-- The number of a text that is accepted is that of its opcode, and no other one. -/
theorem parse_eq_ok_iff {text : String} {id : Opcode} :
    parse text = .ok id ↔
      unsigned (marked (Text.trimList text.toList)).2 ≠ [] ∧
        Numeral (marked (Text.trimList text.toList)).1
          (unsigned (marked (Text.trimList text.toList)).2) id.toNat := by
  obtain ⟨hpos, hbase⟩ := marked_bounds (Text.trimList text.toList)
  rw [parse_eq]
  constructor
  · intro hparse
    cases hread : readNumber (marked (Text.trimList text.toList)).1
        (marked (Text.trimList text.toList)).2 with
    | error fault => simp [hread, Except.map] at hparse
    | ok n =>
        obtain ⟨hsome, hnumeral, hsmall⟩ := (readNumber_eq_ok_iff hpos hbase).mp hread
        have hid : UInt32.ofNat n = id := by simpa [hread, Except.map] using hparse
        rw [← hid, UInt32.toNat_ofNat_of_lt' hsmall]
        exact ⟨hsome, hnumeral⟩
  · rintro ⟨hsome, hnumeral⟩
    rw [(readNumber_eq_ok_iff hpos hbase).mpr ⟨hsome, hnumeral, id.toNat_lt⟩]
    exact congrArg Except.ok UInt32.ofNat_toNat

theorem parse_eq_error_iff {text : String} {fault : NumberFault} :
    parse text = .error fault ↔
      readNumber (marked (Text.trimList text.toList)).1
        (marked (Text.trimList text.toList)).2 = .error fault := by
  rw [parse_eq]
  cases readNumber (marked (Text.trimList text.toList)).1
    (marked (Text.trimList text.toList)).2 <;> simp [Except.map]

theorem firstWrong_zero_iff :
    FirstWrong base 0 cs fault ↔
      ∃ ds c rest n, cs = ds ++ c :: rest ∧ Numeral base ds n ∧ n < UInt32.size ∧
        Wrong base n c fault := by
  simp only [numeral_iff_continues]
  rfl

/-- A text is read without the blank characters at its ends.  It is accepted just when it is a numeral of
an opcode: in base sixteen after the mark of this base and in base ten otherwise, with one plus sign
allowed and with at least one digit.  Any other text is reported with a quotation of what is left of it,
and with the first thing that is wrong from the left: that there is no number at all, that a digit makes
the number of the digits so far too large, or that a character is no digit, or that no digit follows the
plus sign. -/
theorem parse_accepts_numerals (text : String) :
    let s := Text.trimList text.toList
    let base := (marked s).1
    let body := (marked s).2
    let digits := unsigned body
    Text.Trims text.toList s ∧
      (∀ id : Opcode, parse text = .ok id ↔ digits ≠ [] ∧ Numeral base digits id.toNat) ∧
      (parse text = .error .empty ↔ body = []) ∧
      (parse text = .error .tooLarge ↔
        ∃ ds c rest n, digits = ds ++ c :: rest ∧ Numeral base ds n ∧ n < UInt32.size ∧
          ∃ d, IsDigit base d c ∧ UInt32.size ≤ n * base + d) ∧
      (parse text = .error .badDigit ↔
        (body ≠ [] ∧ digits = []) ∨
          ∃ ds c rest n, digits = ds ++ c :: rest ∧ Numeral base ds n ∧ n < UInt32.size ∧
            ∀ d, ¬IsDigit base d c) ∧
      (body = ['+'] ∨ digits.head? = some '-' → parse text = .error .badDigit) ∧
      ∀ fault, parse text = .error fault →
        parseMessage text fault = "invalid opcode '" ++ String.ofList s ++ "': " ++ fault.message := by
  intro s base body digits
  obtain ⟨hpos, hbase⟩ := marked_bounds s
  have herror : ∀ fault, parse text = .error fault ↔
      body = [] ∧ fault = .empty ∨ (body ≠ [] ∧ digits = [] ∧ fault = .badDigit) ∨
        ∃ ds c rest n, digits = ds ++ c :: rest ∧ Numeral base ds n ∧ n < UInt32.size ∧
          Wrong base n c fault := by
    intro fault
    rw [parse_eq_error_iff, readNumber_eq_error_iff hpos hbase, firstWrong_zero_iff]
  have hbad : parse text = .error .badDigit ↔
      (body ≠ [] ∧ digits = []) ∨
        ∃ ds c rest n, digits = ds ++ c :: rest ∧ Numeral base ds n ∧ n < UInt32.size ∧
          ∀ d, ¬IsDigit base d c := by
    rw [herror]
    simp [Wrong]
  refine ⟨Text.trims_trimList _, fun id => parse_eq_ok_iff, ?_, ?_, hbad, ?_, fun _ _ => rfl⟩
  · rw [herror]
    simp [Wrong]
  · rw [herror]
    simp [Wrong]
  · rw [hbad]
    rintro (hplus | hminus)
    · have hdigits : digits = [] := congrArg unsigned hplus
      exact .inl ⟨hplus ▸ List.cons_ne_nil _ _, hdigits⟩
    · obtain ⟨rest, hrest⟩ := List.head?_eq_some_iff.mp hminus
      exact .inr ⟨[], '-', rest, 0, hrest, Text.numeral_nil, by decide, not_isDigit_minus hbase⟩

/-- A marked numeral between blank characters, a number that is too large before a character that is no
digit, and a sign that is none. -/
theorem parse_accepts_numerals_mixed :
    parse "\u00a00X00004dF " = .ok 0x4DF ∧ parse "42949672960x" = .error .tooLarge ∧
      parse "+-7" = .error .badDigit := by
  obtain ⟨-, haccepted, -⟩ := parse_accepts_numerals "\u00a00X00004dF "
  obtain ⟨-, -, -, hlarge, -⟩ := parse_accepts_numerals "42949672960x"
  obtain ⟨-, -, -, -, -, hsign, -⟩ := parse_accepts_numerals "+-7"
  have hdigits : Numeral 16 "00004dF".toList 0x4DF :=
    ⟨[0, 0, 0, 0, 4, 13, 15], by decide, by decide⟩
  have hsmall : Numeral 10 "429496729".toList 429496729 :=
    ⟨[4, 2, 9, 4, 9, 6, 7, 2, 9], by decide, by decide⟩
  refine ⟨(haccepted 0x4DF).mpr ⟨by decide, hdigits⟩, hlarge.mpr ?_, hsign (.inr (by decide))⟩
  exact ⟨"429496729".toList, '6', "0x".toList, _, by decide, hsmall, by decide, 6, by decide,
    by decide⟩

end Opcode
end PacketDispatch
