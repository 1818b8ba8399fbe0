import PacketDispatch.Manifest.Production
import PacketDispatch.Proofs.Handler.Preparation
import PacketDispatch.Proofs.Manifest.Loading
import Mathlib.Data.List.Nodup

/-!
# Loading the production manifest

Each opcode of the production manifest has a value, is in range and stands once.  A manifest with
such numbers can only fail to load by its keys: the rows whose keys are bound are installed, and
every other row is reported as unbound, in order.  The production manifest is one case of that,
with bindings that may have been prepared in any way.
-/

namespace PacketDispatch
namespace Manifest

variable {σ : Type} {b : Bindings σ} {rows : List Row} {r : Row}

/-! ## Rows without a handler -/

/-- The failure of a row whose key is not bound. -/
def Row.unbound? (b : Bindings σ) (r : Row) : Option RegistrationError :=
  match r.key? with
  | none => none
  | some key => if b.contains key then none else some (.unbound r.id r.name key)

theorem Row.unbound?_eq_none_iff : r.unbound? b = none ↔ r.Bound b := by
  unfold unbound? Bound
  cases r.key? with
  | none => simp
  | some key => cases b.contains key <;> simp

theorem Row.unbound?_of_unbound {key : String} (hkey : r.key? = some key)
    (hresolve : b.resolve? key = none) :
    r.unbound? b = some (.unbound r.id r.name key) := by
  simp [unbound?, hkey, Bindings.contains, hresolve]

/-! ## Manifests with sound numbers -/

/-- The opcodes of the rows have values, are in range and stand once. -/
structure WellNumbered (rows : List Row) : Prop where
  value : ∀ r ∈ rows, r.id ≠ nullOpcode
  range : ∀ r ∈ rows, r.id.toNat < opcodeLimit
  nodup : (rows.map Row.id).Nodup

namespace WellNumbered

theorem nodup_concat (h : WellNumbered (rows ++ [r])) :
    (rows.map Row.id).Nodup ∧ ∀ row ∈ rows, row.id ≠ r.id := by
  have hnodup := h.nodup
  rw [List.map_append, List.nodup_append] at hnodup
  refine ⟨hnodup.1, fun row hrow => ?_⟩
  exact hnodup.2.2 row.id (List.mem_map_of_mem hrow) r.id (by simp)

theorem of_concat (h : WellNumbered (rows ++ [r])) : WellNumbered rows where
  value := fun row hrow => h.value row (List.mem_append_left _ hrow)
  range := fun row hrow => h.range row (List.mem_append_left _ hrow)
  nodup := h.nodup_concat.1

/-- The opcode of the last row can be registered, whatever became of the rows before it. -/
theorem not_refuses (h : WellNumbered (rows ++ [r])) (b : Bindings σ)
    (error : RegistrationError) :
    ¬ (loadRows rows b).table.Refuses r.id r.name error := by
  intro refuses
  cases refuses with
  | missingValue hnull => exact h.value r (by simp) hnull
  | outOfRange _ hlimit => exact absurd (h.range r (by simp)) (Nat.not_lt.mpr hlimit)
  | duplicate _ _ htaken =>
      obtain ⟨row, hrow, hid, -⟩ := ((Account.loadRows rows b).lookup _ _).mp htaken
      obtain ⟨i, -, hfound⟩ := mem_installedRows.mp hrow
      exact h.nodup_concat.2 row (List.mem_of_getElem? hfound) hid

end WellNumbered

/-- Loading separates the rows whose keys are bound from the others. -/
structure Separates (rows : List Row) (b : Bindings σ) : Prop where
  installed : installedRows rows b = rows.filter fun r => (r.unbound? b).isNone
  failures : (loadRows rows b).failures = rows.filterMap (Row.unbound? b)

theorem WellNumbered.separates (h : WellNumbered rows) (b : Bindings σ) : Separates rows b := by
  induction rows using List.reverseRecOn with
  | nil => exact ⟨rfl, rfl⟩
  | append_singleton rows r ih =>
      have hbefore := ih h.of_concat
      have hcases := (loadRows rows b).step_cases b r
      rw [← loadRows_concat] at hcases
      rcases hcases with hkeeps | ⟨error, hskips⟩
      · have hbound := Row.unbound?_eq_none_iff.mpr hkeeps.bound
        have hinstalled : installed (rows ++ [r]) b rows.length = true := by
          rw [installed_concat_length, hkeeps.registered]
          simp
        constructor
        · rw [installedRows_concat, if_pos hinstalled, hbefore.installed]
          simp [hbound]
        · rw [hkeeps.failures, hbefore.failures]
          simp [hbound]
      · have hskipped : ¬ installed (rows ++ [r]) b rows.length = true := by
          rw [installed_concat_length, hskips.registered]
          simp
        cases hskips.faults with
        | unbound hkey hresolve =>
            have hunbound := Row.unbound?_of_unbound hkey hresolve
            constructor
            · rw [installedRows_concat, if_neg hskipped, hbefore.installed]
              simp [hunbound]
            · rw [hskips.failures, hbefore.failures]
              simp [hunbound]
        | refused _ hrefuses => exact absurd hrefuses (h.not_refuses b error)

/-! ### What a manifest with sound numbers leaves -/

@[simp] theorem load_table (rows : List Row) (b : Bindings σ) :
    (load rows b).table = (loadRows rows b).table := rfl

@[simp] theorem load_failures (rows : List Row) (b : Bindings σ) :
    (load rows b).failures = (loadRows rows b).failures := rfl

@[simp] theorem load_mismatches (rows : List Row) (b : Bindings σ) :
    (load rows b).mismatches = (loadRows rows b).mismatches := rfl

namespace WellNumbered

/-- An opcode is found when it has a row whose key is bound, and with what that row says. -/
theorem lookup_eq_some_iff {id : Opcode} {d : Descriptor σ} (h : WellNumbered rows)
    (b : Bindings σ) :
    (loadRows rows b).table.lookup id = some d ↔
      ∃ r ∈ rows, r.Bound b ∧ r.id = id ∧ r.Describes b d := by
  rw [(Account.loadRows rows b).lookup, (h.separates b).installed]
  simp only [List.mem_filter, Option.isNone_iff_eq_none, Row.unbound?_eq_none_iff, and_assoc]

/-- A row is installed exactly when its key is bound. -/
theorem installed_iff_bound (h : WellNumbered rows) (b : Bindings σ) (hr : r ∈ rows) :
    (∃ d, (loadRows rows b).table.lookup r.id = some d ∧ r.Describes b d) ↔ r.Bound b := by
  constructor
  · rintro ⟨d, hlookup, -⟩
    obtain ⟨row, hrow, hbound, hid, -⟩ := (h.lookup_eq_some_iff b).mp hlookup
    exact List.inj_on_of_nodup_map h.nodup hrow hr hid ▸ hbound
  · intro hbound
    obtain ⟨registration, -, hdescribes⟩ := Row.registration_of_bound hbound
    exact ⟨_, (h.lookup_eq_some_iff b).mpr ⟨r, hr, hbound, rfl, hdescribes⟩, hdescribes⟩

theorem mismatches_eq (h : WellNumbered rows) (b : Bindings σ) :
    (loadRows rows b).mismatches =
      ((mismatches rows).filter fun r => (r.unbound? b).isNone).map Row.id := by
  rw [(Account.loadRows rows b).mismatches, (h.separates b).installed, mismatches,
    List.filter_filter, List.filter_filter]
  simp only [Bool.and_comm]

/-- Installed and reported rows are all rows. -/
theorem size_add_failures (h : WellNumbered rows) (b : Bindings σ) :
    (loadRows rows b).table.size + (rows.filterMap (Row.unbound? b)).length = rows.length := by
  have haccount := Account.loadRows rows b
  rw [← (h.separates b).failures, ← haccount.size, haccount.total]

end WellNumbered

/-! ### Rows whose keys are bound -/

/-- In prepared bindings a row is bound when the server sends its messages, when its key is one of
the two that every book starts with, or when its key was bound later. -/
theorem Row.bound_prepared_iff (steps : List (Bindings.Step σ)) (r : Row) :
    r.Bound (Bindings.prepared steps) ↔
      r.origin = .server ∨ r.key? = some nullKey ∨ r.key? = some earlyKey ∨
        ∃ key, r.key? = some key ∧ (Bindings.prepared steps).contains key = true := by
  have hnull := Bindings.contains_nullKey_prepared steps
  have hearly := Bindings.contains_earlyKey_prepared steps
  cases hkind : r.kind with
  | client requirement lane key =>
      simp only [Bound, key?, origin, hkind, Option.some.injEq, forall_eq', exists_eq_left',
        reduceCtorEq, false_or]
      constructor
      · intro hbound
        exact Or.inr (Or.inr hbound)
      · rintro (rfl | rfl | hbound)
        · exact hnull
        · exact hearly
        · exact hbound
  | server requirement => simp [Bound, key?, origin, hkind]

/-- Stubbing leaves no row of the manifest without a handler. -/
theorem Row.unbound?_stubUnbound (b : Bindings σ) (hr : r ∈ rows) :
    r.unbound? (b.stubUnbound rows).1 = none := by
  refine unbound?_eq_none_iff.mpr fun key hkey => ?_
  exact (b.contains_stubUnbound rows).mpr (Or.inr ⟨r, hr, hkey⟩)

/-! ## The numbers of the production manifest -/

/-- The production manifest has one row for each opcode, from the first to the last. -/
theorem map_id_production :
    production.map (fun r => r.id.toNat) = List.range' 1 1310 := by
  decide +kernel

theorem exists_mem_production_iff {id : Opcode} :
    (∃ r ∈ production, r.id = id) ↔ 1 ≤ id.toNat ∧ id.toNat ≤ 0x51E := by
  have hmem : (∃ r ∈ production, r.id = id) ↔
      id.toNat ∈ production.map fun r => r.id.toNat := by
    simp only [List.mem_map, UInt32.toNat_inj]
  rw [hmem, map_id_production, List.mem_range'_1]
  omega

theorem wellNumbered_production : WellNumbered production := by
  have hrange : ∀ r ∈ production, 1 ≤ r.id.toNat ∧ r.id.toNat ≤ 0x51E :=
    fun r hr => exists_mem_production_iff.mp ⟨r, hr, rfl⟩
  refine ⟨fun r hr hnull => ?_, fun r hr => ?_, ?_⟩
  · have hpos := (hrange r hr).1
    rw [hnull] at hpos
    exact absurd hpos (by decide)
  · exact Nat.lt_of_le_of_lt (hrange r hr).2 (by decide)
  · have hnodup : ((production.map Row.id).map UInt32.toNat).Nodup := by
      rw [List.map_map]
      exact map_id_production ▸ List.nodup_range'
    exact List.Nodup.of_map UInt32.toNat hnodup

/-! ## The one row whose name says the other side sends it -/

/-- The first byte of the names that the other side's opcodes have by custom. -/
def Row.foreignByte (r : Row) : UInt8 :=
  match r.origin with
  | .client => 'S'.toUInt8
  | .server => 'C'.toUInt8

/-- The first byte of a row's name leaves open whether the other side sends it. -/
def Row.suspect (r : Row) : Bool :=
  r.name.toByteArray.data.toList.head? == some r.foreignByte

theorem Row.suspect_of_mismatched (h : r.mismatched = true) : r.suspect = true := by
  obtain ⟨rest, hrest⟩ := List.isPrefixOf_iff_prefix.mp h
  have hname : r.name = String.ofList (foreignStart r.origin ++ rest) := by
    rw [hrest, String.ofList_toList]
  have hbyte : String.utf8EncodeChar 'S' = ['S'.toUInt8] ∧
      String.utf8EncodeChar 'C' = ['C'.toUInt8] := by decide
  unfold suspect foreignByte
  rw [hname, String.toByteArray_ofList]
  cases r.origin <;> simp [foreignStart, List.utf8Encode, hbyte]

/-- The first bytes rule out all rows but one, so that only one name is decoded. -/
theorem filter_suspect_production :
    production.filter Row.suspect = [.server 0x29A "CMSG_GMTICKETSYSTEM_TOGGLE" .never] := by
  decide +kernel

theorem mismatches_production :
    mismatches production = [.server 0x29A "CMSG_GMTICKETSYSTEM_TOGGLE" .never] := by
  have hsuspect : mismatches production = (production.filter Row.suspect).filter Row.mismatched := by
    rw [List.filter_filter]
    apply List.filter_congr
    intro r _
    by_cases h : r.mismatched = true
    · simp [h, Row.suspect_of_mismatched h]
    · simp [h]
  rw [hsuspect, filter_suspect_production]
  decide +kernel

theorem length_production : production.length = 1310 := by
  have hlength := congrArg List.length map_id_production
  rwa [List.length_map, List.length_range'] at hlength

/-- The one suspect row has no key, so it is installed whatever is bound. -/
theorem mismatches_load_production (b : Bindings σ) :
    (loadRows production b).mismatches = [0x29A] := by
  rw [wellNumbered_production.mismatches_eq, mismatches_production]
  rfl

/-- The production manifest fails to load only through keys that are not bound, however its bindings
were prepared. It registers the rows of the server, the rows with one of the two keys of the start,
and the client rows whose key is bound; the table has nothing else. Each other row is reported as
unbound, once and in order, and registered and reported rows add up to 1310. With its keys stubbed
the load is clean and finds all opcodes from 0x001 to 0x51E. Whatever is bound, the one row whose
name says the other side sends it is that of 0x29A. -/
theorem production_fails_only_by_keys (steps : List (Bindings.Step σ)) :
    let b := Bindings.prepared steps
    let l := load production b
    let full := load production (b.stubUnbound production).1
    (∀ r ∈ production,
        (∃ d, l.table.lookup r.id = some d ∧ r.Describes b d) ↔
          r.origin = .server ∨ r.key? = some nullKey ∨ r.key? = some earlyKey ∨
            ∃ key, r.key? = some key ∧ b.contains key = true) ∧
      (∀ id d, l.table.lookup id = some d →
        ∃ r ∈ production, r.id = id ∧ r.Describes b d) ∧
      l.failures = production.filterMap (Row.unbound? b) ∧
      l.table.size + l.failures.length = 1310 ∧
      l.mismatches = [0x29A] ∧
      full.isClean = true ∧
      full.table.size = 1310 ∧
      (∀ id, (full.table.lookup id).isSome = true ↔ 1 ≤ id.toNat ∧ id.toNat ≤ 0x51E) ∧
      full.mismatches = [0x29A] := by
  intro b l full
  simp only [l, full, load_table, load_failures, load_mismatches, Load.isClean]
  have sound := wellNumbered_production
  have hstubbed : ∀ r ∈ production, r.unbound? (b.stubUnbound production).1 = none :=
    fun r hr => Row.unbound?_stubUnbound b hr
  have hnone : production.filterMap (Row.unbound? (b.stubUnbound production).1) = [] :=
    List.filterMap_eq_nil_iff.mpr hstubbed
  refine ⟨fun r hr => ?_, fun id d hlookup => ?_, (sound.separates b).failures, ?_,
    mismatches_load_production b, ?_, ?_, fun id => ?_, mismatches_load_production _⟩
  · rw [← Row.bound_prepared_iff]
    exact sound.installed_iff_bound b hr
  · obtain ⟨r, hr, -, hid, hdescribes⟩ := (sound.lookup_eq_some_iff b).mp hlookup
    exact ⟨r, hr, hid, hdescribes⟩
  · rw [(sound.separates b).failures, ← length_production]
    exact sound.size_add_failures b
  · rw [(sound.separates _).failures, hnone]
    rfl
  · have hsize := sound.size_add_failures (b.stubUnbound production).1
    rwa [hnone, List.length_nil, Nat.add_zero, length_production] at hsize
  · rw [Option.isSome_iff_exists, ← exists_mem_production_iff]
    constructor
    · rintro ⟨d, hlookup⟩
      obtain ⟨r, hr, -, hid, -⟩ := (sound.lookup_eq_some_iff _).mp hlookup
      exact ⟨r, hr, hid⟩
    · rintro ⟨r, hr, rfl⟩
      have hbound := Row.unbound?_eq_none_iff.mp (hstubbed r hr)
      obtain ⟨d, hlookup, -⟩ := (sound.installed_iff_bound _ hr).mpr hbound
      exact ⟨d, hlookup⟩

/-- With one handler bound, its row is registered. -/
theorem production_fails_only_by_keys_charCreate :
    let b : Bindings Unit := Bindings.prepared [.bind "char_create" (.stub "char_create")]
    let r := Row.client 0x036 "CMSG_CHAR_CREATE" .authed .world "char_create"
    r ∈ production ∧ b.contains "char_create" = true ∧
      (∃ d, (load production b).table.lookup 0x036 = some d ∧ r.Describes b d ∧
        ∃ r' ∈ production, r'.id = 0x036 ∧ r'.Describes b d) ∧
      (load production b).table.size + (load production b).failures.length = 1310 := by
  intro b r
  obtain ⟨hregisters, hfound, -, hsize, -⟩ :=
    production_fails_only_by_keys
      ([.bind "char_create" (.stub "char_create")] : List (Bindings.Step Unit))
  have hmem : r ∈ production := List.mem_of_getElem? (i := 53) (by decide +kernel)
  have hbound : b.contains "char_create" = true := rfl
  obtain ⟨d, hlookup, hdescribes⟩ :=
    (hregisters r hmem).mpr (Or.inr (Or.inr (Or.inr ⟨"char_create", rfl, hbound⟩)))
  exact ⟨hmem, hbound, ⟨d, hlookup, hdescribes, hfound 0x036 d hlookup⟩, hsize⟩

end Manifest
end PacketDispatch
