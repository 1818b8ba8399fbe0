import PacketDispatch.Manifest.Load
import PacketDispatch.Proofs.Table.Registration
import Mathlib.Data.List.Forall2
import Mathlib.Data.List.Induction

/-!
# What loading a manifest keeps

Loading a manifest installs the first row of each opcode that can be loaded and reports every other
row.  Whether a row is installed depends on the rows before it, so all facts are proved for a
manifest with one more row at its end: the table, the number of accepted rows and the two lists of
the report stay in step.
-/

namespace PacketDispatch
namespace Manifest

variable {σ : Type} {b : Bindings σ} {l : Load σ} {r : Row} {d : Descriptor σ}

/-! ## The registration of a row -/

/-- The key of a row is bound, when the row has one. -/
def Row.Bound (b : Bindings σ) (r : Row) : Prop :=
  ∀ key, r.key? = some key → b.contains key = true

/-- A descriptor says what a row says, and has the handler that the bindings give to the row's key.
An opcode of the server runs in place, and its handler is the sentinel. -/
structure Row.Describes (b : Bindings σ) (r : Row) (d : Descriptor σ) : Prop where
  id : d.id = r.id
  name : d.name = r.name
  origin : d.origin = r.origin
  requirement : d.requirement = r.requirement
  client : ∀ requirement lane key, r.kind = .client requirement lane key →
    d.lane = lane ∧ b.resolve? key = some d.handler
  server : ∀ requirement, r.kind = .server requirement →
    d.lane = .inPlace ∧ d.handler = Handler.serverSide

/-- A row determines its descriptor. -/
theorem Row.Describes.eq {e : Descriptor σ} (hd : r.Describes b d) (he : r.Describes b e) :
    d = e := by
  have hrest : d.lane = e.lane ∧ d.handler = e.handler := by
    cases hkind : r.kind with
    | client requirement lane key =>
        obtain ⟨hlane, hhandler⟩ := hd.client _ _ _ hkind
        obtain ⟨hlane', hhandler'⟩ := he.client _ _ _ hkind
        refine ⟨hlane.trans hlane'.symm, ?_⟩
        rw [hhandler] at hhandler'
        exact Option.some.inj hhandler'
    | server requirement =>
        obtain ⟨hlane, hhandler⟩ := hd.server _ hkind
        obtain ⟨hlane', hhandler'⟩ := he.server _ hkind
        exact ⟨hlane.trans hlane'.symm, hhandler.trans hhandler'.symm⟩
  have hid := hd.id.trans he.id.symm
  have hname := hd.name.trans he.name.symm
  have horigin := hd.origin.trans he.origin.symm
  have hrequirement := hd.requirement.trans he.requirement.symm
  cases d
  cases e
  simp_all

theorem Row.bound_or_unbound (b : Bindings σ) (r : Row) :
    r.Bound b ∨ ∃ key, r.key? = some key ∧ b.resolve? key = none := by
  cases hkey : r.key? with
  | none => exact Or.inl (by simp [Bound, hkey])
  | some key =>
      cases hresolve : b.resolve? key with
      | none => exact Or.inr ⟨key, rfl, hresolve⟩
      | some handler => exact Or.inl (by simp [Bound, hkey, Bindings.contains, hresolve])

theorem Row.not_bound_of_unbound {key : String} (hkey : r.key? = some key)
    (hresolve : b.resolve? key = none) :
    ¬ r.Bound b := by
  intro hbound
  have hcontains := hbound key hkey
  simp [Bindings.contains, hresolve] at hcontains

theorem Row.registration_of_bound (hbound : r.Bound b) :
    ∃ registration, r.registration b = .ok registration ∧
      r.Describes b registration.descriptor := by
  cases hkind : r.kind with
  | client requirement lane key =>
      have hcontains := hbound key (by simp [key?, hkind])
      obtain ⟨handler, hresolve⟩ := Option.isSome_iff_exists.mp hcontains
      refine ⟨.client r.id r.name requirement lane handler,
        by simp [registration, hkind, hresolve], ?_⟩
      constructor <;>
        simp_all [Table.Registration.descriptor, origin, Row.requirement]
  | server requirement =>
      refine ⟨.server r.id r.name requirement, by simp [registration, hkind], ?_⟩
      constructor <;>
        simp_all [Table.Registration.descriptor, origin, Row.requirement]

theorem Row.registration_of_unbound {key : String} (hkey : r.key? = some key)
    (hresolve : b.resolve? key = none) :
    r.registration b = .error (.unbound r.id r.name key) := by
  cases hkind : r.kind with
  | client requirement lane key' =>
      obtain rfl : key' = key := by simpa [key?, hkind] using hkey
      simp [registration, hkind, hresolve]
  | server requirement => simp [key?, hkind] at hkey

/-! ## One row -/

/-- Why a row is skipped at a table: its key is not bound or, with a bound key, its opcode cannot be
registered. -/
inductive Row.Faults (b : Bindings σ) (t : Table σ) (r : Row) : RegistrationError → Prop
  | unbound {key : String} (key? : r.key? = some key) (unbound : b.resolve? key = none) :
      Faults b t r (.unbound r.id r.name key)
  | refused {error : RegistrationError} (bound : r.Bound b)
      (refuses : t.Refuses r.id r.name error) : Faults b t r error

/-- What changes when a row is installed. -/
structure Load.Keeps (b : Bindings σ) (l : Load σ) (r : Row) (l' : Load σ) : Prop where
  bound : r.Bound b
  vacant : l.table.refusal? r.id r.name = none
  table : ∃ d, r.Describes b d ∧ Table.Registers l.table d l'.table
  registered : l'.registered = l.registered + 1
  failures : l'.failures = l.failures
  mismatches : l'.mismatches = l.mismatches ++ if r.mismatched then [r.id] else []

/-- What changes when a row is skipped. -/
structure Load.Skips (b : Bindings σ) (l : Load σ) (r : Row) (error : RegistrationError)
    (l' : Load σ) : Prop where
  faults : r.Faults b l.table error
  table : l'.table = l.table
  registered : l'.registered = l.registered
  failures : l'.failures = l.failures ++ [error]
  mismatches : l'.mismatches = l.mismatches

/-- A row is installed, or it is skipped for a reason. -/
theorem Load.step_cases (b : Bindings σ) (l : Load σ) (r : Row) :
    Keeps b l r (l.step b r) ∨ ∃ error, Skips b l r error (l.step b r) := by
  rcases r.bound_or_unbound b with hbound | ⟨key, hkey, hresolve⟩
  · obtain ⟨registration, hregistration, hdescribes⟩ := Row.registration_of_bound hbound
    have hrefusal : l.table.refusal? registration.descriptor.id registration.descriptor.name =
        l.table.refusal? r.id r.name := by
      rw [hdescribes.id, hdescribes.name]
    cases hanswer : l.table.refusal? r.id r.name with
    | none =>
        have hvacant := hrefusal.trans hanswer
        have hadd : l.table.add registration = _ := Table.register_of_vacant hvacant
        exact Or.inl {
          bound := hbound
          vacant := hanswer
          table := by
            refine ⟨registration.descriptor, hdescribes, ?_⟩
            simp only [step, hregistration, hadd]
            exact Table.registers_of_vacant hvacant
          registered := by simp only [step, hregistration, hadd]
          failures := by simp only [step, hregistration, hadd]
          mismatches := by
            simp only [step, hregistration, hadd]
            split <;> simp }
    | some error =>
        have hadd : l.table.add registration = _ :=
          Table.register_of_refusal? (hrefusal.trans hanswer)
        exact Or.inr ⟨error, {
          faults := .refused hbound (Table.refuses_of_refusal? hanswer)
          table := by simp only [step, hregistration, hadd]
          registered := by simp only [step, hregistration, hadd]
          failures := by simp only [step, hregistration, hadd]
          mismatches := by simp only [step, hregistration, hadd] }⟩
  · have hregistration := Row.registration_of_unbound hkey hresolve
    exact Or.inr ⟨.unbound r.id r.name key, {
      faults := .unbound hkey hresolve
      table := by simp only [step, hregistration]
      registered := by simp only [step, hregistration]
      failures := by simp only [step, hregistration]
      mismatches := by simp only [step, hregistration] }⟩

theorem loadRows_concat (rows : List Row) (r : Row) (b : Bindings σ) :
    loadRows (rows ++ [r]) b = (loadRows rows b).step b r := by
  simp [loadRows]

/-! ## Installed rows -/

/-- Loading the row at a place raises the number of rows in the table. -/
def installed (rows : List Row) (b : Bindings σ) (i : Nat) : Bool :=
  decide ((loadRows (rows.take i) b).registered < (loadRows (rows.take (i + 1)) b).registered)

/-- The installed rows, in their order. -/
def installedRows (rows : List Row) (b : Bindings σ) : List Row :=
  ((List.range rows.length).filter (installed rows b)).filterMap fun i => rows[i]?

/-- The places of the rows that are skipped, in their order. -/
def skipped (rows : List Row) (b : Bindings σ) : List Nat :=
  (List.range rows.length).filter fun i => !installed rows b i

variable {rows : List Row} {i : Nat}

theorem mem_installedRows :
    r ∈ installedRows rows b ↔ ∃ i, installed rows b i = true ∧ rows[i]? = some r := by
  simp only [installedRows, List.mem_filterMap, List.mem_filter, List.mem_range]
  constructor
  · rintro ⟨i, ⟨-, hinstalled⟩, hfound⟩
    exact ⟨i, hinstalled, hfound⟩
  · rintro ⟨i, hinstalled, hfound⟩
    exact ⟨i, ⟨(List.getElem?_eq_some_iff.mp hfound).1, hinstalled⟩, hfound⟩

/-- Whether a row is installed does not depend on the rows after it. -/
theorem installed_take {n : Nat} (h : i < n) :
    installed (rows.take n) b i = installed rows b i := by
  simp only [installed, List.take_take, Nat.min_eq_left (Nat.le_of_lt h), Nat.min_eq_left h]

theorem installed_concat_of_lt (r : Row) (h : i < rows.length) :
    installed (rows ++ [r]) b i = installed rows b i := by
  have htake : installed ((rows ++ [r]).take rows.length) b i = installed (rows ++ [r]) b i :=
    installed_take h
  rw [List.take_left] at htake
  exact htake.symm

theorem installed_concat_length (rows : List Row) (b : Bindings σ) (r : Row) :
    installed (rows ++ [r]) b rows.length =
      decide ((loadRows rows b).registered < (loadRows (rows ++ [r]) b).registered) := by
  have htake : (rows ++ [r]).take (rows.length + 1) = rows ++ [r] :=
    List.take_of_length_le (by simp)
  simp only [installed, List.take_left, htake]

theorem installedRows_concat (rows : List Row) (b : Bindings σ) (r : Row) :
    installedRows (rows ++ [r]) b =
      installedRows rows b ++ if installed (rows ++ [r]) b rows.length then [r] else [] := by
  have hbefore : (List.range rows.length).filter (installed (rows ++ [r]) b) =
      (List.range rows.length).filter (installed rows b) := by
    apply List.filter_congr
    intro i hi
    exact installed_concat_of_lt r (List.mem_range.mp hi)
  have hfound : ((List.range rows.length).filter (installed rows b)).filterMap
        (fun i => (rows ++ [r])[i]?) = installedRows rows b := by
    apply List.filterMap_congr
    intro i hi
    exact List.getElem?_append_left (List.mem_range.mp (List.mem_filter.mp hi).1)
  simp only [installedRows, List.length_append, List.length_singleton, List.range_succ,
    List.filter_append, List.filterMap_append, hbefore]
  rw [hfound]
  by_cases h : installed (rows ++ [r]) b rows.length <;> simp [h, installedRows]

theorem skipped_concat (rows : List Row) (b : Bindings σ) (r : Row) :
    skipped (rows ++ [r]) b =
      skipped rows b ++ if installed (rows ++ [r]) b rows.length then [] else [rows.length] := by
  have hbefore : (List.range rows.length).filter (fun i => !installed (rows ++ [r]) b i) =
      skipped rows b := by
    apply List.filter_congr
    intro i hi
    rw [installed_concat_of_lt r (List.mem_range.mp hi)]
  simp only [skipped, List.length_append, List.length_singleton, List.range_succ,
    List.filter_append]
  rw [hbefore]
  by_cases h : installed (rows ++ [r]) b rows.length <;> simp [h, skipped]

/-! ## The account of a load -/

/-- The error that is reported for a row that is skipped: the first of its faults. A duplicate names
the installed row that has its opcode. -/
inductive Reports (rows : List Row) (b : Bindings σ) (i : Nat) : RegistrationError → Prop
  | unbound {r : Row} {key : String} (found : rows[i]? = some r) (key? : r.key? = some key)
      (unbound : b.resolve? key = none) : Reports rows b i (.unbound r.id r.name key)
  | missingValue {r : Row} (found : rows[i]? = some r) (bound : r.Bound b)
      (null : r.id = nullOpcode) : Reports rows b i (.missingValue r.name)
  | outOfRange {r : Row} (found : rows[i]? = some r) (bound : r.Bound b)
      (value : r.id ≠ nullOpcode) (range : opcodeLimit ≤ r.id.toNat) :
      Reports rows b i (.outOfRange r.id r.name)
  | duplicate {r earlier : Row} {j : Nat} (found : rows[i]? = some r) (bound : r.Bound b)
      (value : r.id ≠ nullOpcode) (range : r.id.toNat < opcodeLimit) (before : j < i)
      (existing : rows[j]? = some earlier) (first : installed rows b j = true)
      (same : earlier.id = r.id) : Reports rows b i (.duplicate r.id earlier.name r.name)

theorem Reports.concat {error : RegistrationError} (h : Reports rows b i error) (r : Row) :
    Reports (rows ++ [r]) b i error := by
  have hfound : ∀ {j : Nat} {row : Row}, rows[j]? = some row →
      (rows ++ [r])[j]? = some row := by
    intro j row hrow
    rw [List.getElem?_append_left (List.getElem?_eq_some_iff.mp hrow).1]
    exact hrow
  cases h with
  | unbound found key? unbound => exact .unbound (hfound found) key? unbound
  | missingValue found bound null => exact .missingValue (hfound found) bound null
  | outOfRange found bound value range => exact .outOfRange (hfound found) bound value range
  | duplicate found bound value range before existing first same =>
      have hj := (List.getElem?_eq_some_iff.mp existing).1
      refine .duplicate (hfound found) bound value range before (hfound existing) ?_ same
      rw [installed_concat_of_lt r hj]
      exact first

/-- The parts of a load are in step: the table knows the installed rows and nothing else, and the
report has the other rows, each with its error, and counts them all. -/
structure Account (rows : List Row) (b : Bindings σ) (l : Load σ) : Prop where
  lookup : ∀ id d, l.table.lookup id = some d ↔
    ∃ r ∈ installedRows rows b, r.id = id ∧ r.Describes b d
  described : ∀ r ∈ installedRows rows b, ∃ d, r.Describes b d
  size : l.registered = l.table.size
  total : l.registered + l.failures.length = rows.length
  failures : List.Forall₂ (Reports rows b) (skipped rows b) l.failures
  mismatches : l.mismatches = ((installedRows rows b).filter Row.mismatched).map Row.id

namespace Account

theorem nil (b : Bindings σ) :
    Account [] b (loadRows [] b) := by
  constructor <;>
    simp [loadRows, Load.empty, installedRows, skipped, Table.size, Table.empty, Table.lookup]

/-- An opcode is vacant as long as no installed row has it. -/
theorem lookup_eq_none_iff {id : Opcode} (h : Account rows b l) :
    l.table.lookup id = none ↔ ∀ r ∈ installedRows rows b, r.id ≠ id := by
  constructor
  · intro hvacant r hr hid
    obtain ⟨d, hdescribes⟩ := h.described r hr
    have htaken := (h.lookup id d).mpr ⟨r, hr, hid, hdescribes⟩
    rw [hvacant] at htaken
    cases htaken
  · intro hothers
    cases hlookup : l.table.lookup id with
    | none => rfl
    | some d =>
        obtain ⟨r, hr, hid, -⟩ := (h.lookup id d).mp hlookup
        exact absurd hid (hothers r hr)

/-- A row that is installed is one more in the table. -/
theorem keep (h : Account rows b (loadRows rows b))
    (keeps : Load.Keeps b (loadRows rows b) r (loadRows (rows ++ [r]) b)) :
    Account (rows ++ [r]) b (loadRows (rows ++ [r]) b) := by
  obtain ⟨d, hdescribes, hregisters⟩ := keeps.table
  have hkept : installed (rows ++ [r]) b rows.length = true := by
    rw [installed_concat_length, keeps.registered]
    simp
  have hrows : installedRows (rows ++ [r]) b = installedRows rows b ++ [r] := by
    rw [installedRows_concat, if_pos hkept]
  have hskipped : skipped (rows ++ [r]) b = skipped rows b := by
    rw [skipped_concat, if_pos hkept, List.append_nil]
  have hmem : ∀ {row : Row}, row ∈ installedRows (rows ++ [r]) b ↔
      row ∈ installedRows rows b ∨ row = r := by
    simp [hrows]
  have hvacant := h.lookup_eq_none_iff.mp (Table.refusal?_eq_none_iff.mp keeps.vacant).2.2
  exact {
    lookup := by
      intro id e
      rw [hregisters.lookup, hdescribes.id]
      by_cases hid : r.id = id
      · rw [if_pos hid]
        constructor
        · intro he
          obtain rfl := Option.some.inj he
          exact ⟨r, hmem.mpr (Or.inr rfl), hid, hdescribes⟩
        · rintro ⟨row, hrow, hrowId, hrowDescribes⟩
          rcases hmem.mp hrow with hold | rfl
          · exact absurd (hrowId.trans hid.symm) (hvacant row hold)
          · rw [hdescribes.eq hrowDescribes]
      · rw [if_neg hid, h.lookup]
        constructor
        · rintro ⟨row, hrow, hrest⟩
          exact ⟨row, hmem.mpr (Or.inl hrow), hrest⟩
        · rintro ⟨row, hrow, hrowId, hrowDescribes⟩
          rcases hmem.mp hrow with hold | rfl
          · exact ⟨row, hold, hrowId, hrowDescribes⟩
          · exact absurd hrowId hid
    described := by
      intro row hrow
      rcases hmem.mp hrow with hold | rfl
      · exact h.described row hold
      · exact ⟨d, hdescribes⟩
    size := by rw [keeps.registered, hregisters.size, h.size]
    total := by
      have htotal := h.total
      rw [keeps.registered, keeps.failures, List.length_append, List.length_singleton]
      omega
    failures := by
      rw [hskipped, keeps.failures]
      exact h.failures.imp fun _ _ hreports => hreports.concat r
    mismatches := by
      rw [keeps.mismatches, hrows, h.mismatches, List.filter_append, List.map_append]
      by_cases hmismatched : r.mismatched <;> simp [hmismatched] }

/-- The fault of a row at the table that the rows before it left is the error that is reported. -/
theorem reports_of_faults {error : RegistrationError} (h : Account rows b l)
    (faults : r.Faults b l.table error) :
    Reports (rows ++ [r]) b rows.length error := by
  have hfound : (rows ++ [r])[rows.length]? = some r := by simp
  cases faults with
  | unbound hkey hunbound => exact .unbound hfound hkey hunbound
  | refused hbound hrefuses =>
      cases hrefuses with
      | missingValue hnull => exact .missingValue hfound hbound hnull
      | outOfRange hvalue hrange => exact .outOfRange hfound hbound hvalue hrange
      | duplicate hvalue hrange htaken =>
          obtain ⟨earlier, hearlier, hsame, hdescribes⟩ := (h.lookup _ _).mp htaken
          obtain ⟨j, hinstalled, hexisting⟩ := mem_installedRows.mp hearlier
          have hj := (List.getElem?_eq_some_iff.mp hexisting).1
          rw [hdescribes.name]
          refine .duplicate hfound hbound hvalue hrange hj ?_ ?_ hsame
          · rw [List.getElem?_append_left hj]
            exact hexisting
          · rw [installed_concat_of_lt r hj]
            exact hinstalled

/-- A row that is skipped is one more failure. -/
theorem skip {error : RegistrationError} (h : Account rows b (loadRows rows b))
    (skips : Load.Skips b (loadRows rows b) r error (loadRows (rows ++ [r]) b)) :
    Account (rows ++ [r]) b (loadRows (rows ++ [r]) b) := by
  have hskip : ¬ installed (rows ++ [r]) b rows.length = true := by
    rw [installed_concat_length, skips.registered]
    simp
  have hrows : installedRows (rows ++ [r]) b = installedRows rows b := by
    rw [installedRows_concat, if_neg hskip, List.append_nil]
  have hskipped : skipped (rows ++ [r]) b = skipped rows b ++ [rows.length] := by
    rw [skipped_concat, if_neg hskip]
  exact {
    lookup := by
      rw [skips.table, hrows]
      exact h.lookup
    described := by
      rw [hrows]
      exact h.described
    size := by rw [skips.registered, skips.table, h.size]
    total := by
      have htotal := h.total
      rw [skips.registered, skips.failures, List.length_append, List.length_append,
        List.length_singleton, List.length_singleton]
      omega
    failures := by
      rw [hskipped, skips.failures]
      have hbefore := h.failures.imp fun _ _ hreports => Reports.concat hreports r
      have hlast := h.reports_of_faults skips.faults
      exact List.rel_append hbefore (.cons hlast .nil)
    mismatches := by rw [skips.mismatches, hrows, h.mismatches] }

/-- Every load has its account. -/
theorem loadRows (rows : List Row) (b : Bindings σ) :
    Account rows b (loadRows rows b) := by
  induction rows using List.reverseRecOn with
  | nil => exact nil b
  | append_singleton rows r ih =>
      have hcases := (Manifest.loadRows rows b).step_cases b r
      rw [← loadRows_concat] at hcases
      rcases hcases with hkeeps | ⟨error, hskips⟩
      · exact ih.keep hkeeps
      · exact ih.skip hskips

/-- Every failure is the report of some row. -/
theorem exists_reports {error : RegistrationError} (h : Account rows b l)
    (failed : error ∈ l.failures) : ∃ i, Reports rows b i error := by
  obtain ⟨n, hn, rfl⟩ := List.getElem_of_mem failed
  have hn' : n < (skipped rows b).length := h.failures.length_eq ▸ hn
  exact ⟨(skipped rows b)[n], h.failures.get hn' hn⟩

end Account

/-- Rows whose keys are all bound are not reported for their keys. -/
theorem not_unbound_of_bound (bound : ∀ r ∈ rows, r.Bound b) {error : RegistrationError}
    (failed : error ∈ (load rows b).failures) (id : Opcode) (name key : String) :
    error ≠ .unbound id name key := by
  rintro rfl
  obtain ⟨i, hreports⟩ := (Account.loadRows rows b).exists_reports failed
  cases hreports with
  | unbound found key? unbound =>
      exact Row.not_bound_of_unbound key? unbound (bound _ (List.mem_of_getElem? found))

/-! ## The first row of each opcode -/

/-- No row before a place is installed with an opcode, in the words of the rows before it. -/
theorem forall_installedRows_take_iff (id : Opcode) :
    (∀ row ∈ installedRows (rows.take i) b, row.id ≠ id) ↔
      ∀ j < i, ∀ earlier, rows[j]? = some earlier → earlier.id = id →
        installed rows b j = false := by
  constructor
  · intro hrows j hj earlier hfound hid
    rw [← Bool.not_eq_true]
    intro hinstalled
    refine hrows earlier (mem_installedRows.mpr ⟨j, ?_, ?_⟩) hid
    · rw [installed_take hj]
      exact hinstalled
    · rw [List.getElem?_take_of_lt hj]
      exact hfound
  · intro hearlier row hrow hid
    obtain ⟨j, hinstalled, hfound⟩ := mem_installedRows.mp hrow
    have hj : j < i := by
      have hlength := (List.getElem?_eq_some_iff.mp hfound).1
      rw [List.length_take] at hlength
      omega
    rw [installed_take hj] at hinstalled
    rw [List.getElem?_take_of_lt hj] at hfound
    rw [hearlier j hj row hfound hid] at hinstalled
    cases hinstalled

/-- A row is installed when its opcode has a value and is in range, its key is bound, and no row
before it is installed with its opcode. -/
theorem installed_iff (b : Bindings σ) (found : rows[i]? = some r) :
    installed rows b i = true ↔
      r.id ≠ nullOpcode ∧ r.id.toNat < opcodeLimit ∧ r.Bound b ∧
        ∀ j < i, ∀ earlier, rows[j]? = some earlier → earlier.id = r.id →
          installed rows b j = false := by
  have htake : rows.take (i + 1) = rows.take i ++ [r] := by
    rw [List.take_add_one, found]
    rfl
  have haccount := Account.loadRows (rows.take i) b
  rw [← forall_installedRows_take_iff, ← haccount.lookup_eq_none_iff]
  have hcases := (loadRows (rows.take i) b).step_cases b r
  rw [← loadRows_concat, ← htake] at hcases
  rcases hcases with hkeeps | ⟨error, hskips⟩
  · have hinstalled : installed rows b i = true := by
      simp [installed, hkeeps.registered]
    obtain ⟨hvalue, hrange, hvacant⟩ := Table.refusal?_eq_none_iff.mp hkeeps.vacant
    exact iff_of_true hinstalled ⟨hvalue, hrange, hkeeps.bound, hvacant⟩
  · have hinstalled : ¬ installed rows b i = true := by
      simp [installed, hskips.registered]
    refine iff_of_false hinstalled ?_
    rintro ⟨hvalue, hrange, hbound, hvacant⟩
    cases hskips.faults with
    | unbound hkey hunbound => exact Row.not_bound_of_unbound hkey hunbound hbound
    | refused _ hrefuses =>
        cases hrefuses with
        | missingValue hnull => exact hvalue hnull
        | outOfRange _ hlimit => exact absurd hrange (Nat.not_lt.mpr hlimit)
        | duplicate _ _ htaken =>
            rw [hvacant] at htaken
            cases htaken

/-- Loading a manifest installs a row exactly when its opcode has a value and is in range, its key
is bound, and no row before it is installed with its opcode. The table knows the opcodes of the
installed rows, each with what its row says and the handler of its key, and no others. Each row that
is not installed is reported once, in order, with the first of its faults; rows in the table and
reported rows add up to all rows; and the installed rows whose names say the other side sends them
are listed by opcode, in order. -/
theorem load_keeps_first_loadable (rows : List Row) (b : Bindings σ) :
    let l := load rows b
    (∀ i r, rows[i]? = some r →
        (installed rows b i = true ↔
          r.id ≠ nullOpcode ∧ r.id.toNat < opcodeLimit ∧ r.Bound b ∧
            ∀ j < i, ∀ earlier, rows[j]? = some earlier → earlier.id = r.id →
              installed rows b j = false)) ∧
      (∀ id d, l.table.lookup id = some d ↔
        ∃ i r, installed rows b i = true ∧ rows[i]? = some r ∧ r.id = id ∧ r.Describes b d) ∧
      (∀ i r, installed rows b i = true → rows[i]? = some r →
        ∃ d, l.table.lookup r.id = some d ∧ r.Describes b d) ∧
      List.Forall₂ (Reports rows b)
        ((List.range rows.length).filter fun i => !installed rows b i) l.failures ∧
      l.registered = l.table.size ∧
      l.registered + l.failures.length = rows.length ∧
      l.mismatches = ((installedRows rows b).filter Row.mismatched).map Row.id := by
  intro l
  have account : Account rows b (loadRows rows b) := Account.loadRows rows b
  have hlookup : ∀ id d, l.table.lookup id = some d ↔
      ∃ i r, installed rows b i = true ∧ rows[i]? = some r ∧ r.id = id ∧ r.Describes b d := by
    intro id d
    refine (account.lookup id d).trans ?_
    simp only [mem_installedRows]
    constructor
    · rintro ⟨r, ⟨i, hinstalled, hfound⟩, hid, hdescribes⟩
      exact ⟨i, r, hinstalled, hfound, hid, hdescribes⟩
    · rintro ⟨i, r, hinstalled, hfound, hid, hdescribes⟩
      exact ⟨r, ⟨i, hinstalled, hfound⟩, hid, hdescribes⟩
  refine ⟨fun i r found => installed_iff b found, hlookup, ?_, account.failures, account.size,
    account.total, account.mismatches⟩
  intro i r hinstalled hfound
  obtain ⟨d, hdescribes⟩ :=
    account.described r (mem_installedRows.mpr ⟨i, hinstalled, hfound⟩)
  exact ⟨d, (hlookup r.id d).mpr ⟨i, r, hinstalled, hfound, rfl, hdescribes⟩, hdescribes⟩

/-- Rows with every fault. The key of the first is not bound, which leaves its opcode to the second;
the third comes too late for it. The fourth has neither a bound key nor an opcode with a value. -/
def overlappingRows : List Row :=
  [.client 0x36 "CMSG_CHAR_CREATE" .authed .pool "char_create",
    .client 0x36 "SMSG_CHAR_CREATE" .authed .world nullKey,
    .server 0x36 "SMSG_LATE" .never,
    .client nullOpcode "CMSG_NOTHING" .authed .inPlace "nothing",
    .server 0x51F "SMSG_BEYOND" .unhandled,
    .server nullOpcode "SMSG_NOTHING" .never]

theorem load_keeps_first_loadable_overlapping :
    let l : Load Nat := load overlappingRows .initial
    ((List.range 6).map (installed overlappingRows (.initial : Bindings Nat))) =
        [false, true, false, false, false, false] ∧
      l.failures = [.unbound 0x36 "CMSG_CHAR_CREATE" "char_create",
        .duplicate 0x36 "SMSG_CHAR_CREATE" "SMSG_LATE",
        .unbound nullOpcode "CMSG_NOTHING" "nothing", .outOfRange 0x51F "SMSG_BEYOND",
        .missingValue "SMSG_NOTHING"] ∧
      l.mismatches = [0x36] ∧
      ∃ d, l.table.lookup 0x36 = some d ∧
        Row.Describes .initial (.client 0x36 "SMSG_CHAR_CREATE" .authed .world nullKey) d := by
  intro l
  have hkeeps := load_keeps_first_loadable overlappingRows (.initial : Bindings Nat)
  have hsecond : installed overlappingRows (.initial : Bindings Nat) 1 = true := by decide
  exact ⟨by decide, by decide, by decide, hkeeps.2.2.1 1 _ hsecond rfl⟩

end Manifest
end PacketDispatch
