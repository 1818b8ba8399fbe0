import PacketDispatch.Proofs.Handler.Preparation
import PacketDispatch.Proofs.Manifest.Loading
import Mathlib.Data.Finset.Card
import Mathlib.Data.List.Induction

/-!
# Which handler a key stands for

Bindings are prepared by binding keys and stubbing manifests, in any order and any number of times.
What a key stands for in the end can be read off the steps: a binding replaces whatever there was, a
stub only fills a gap, and the two keys of the start have no gap.  Stubbing a manifest counts the keys
whose gaps it fills, so the count is how much the bindings grow, and a second time there is none left.
-/

namespace PacketDispatch
namespace Bindings

variable {σ : Type} {b : Bindings σ} {key : String} {steps : List (Step σ)}

/-! ## What the steps say of a key -/

/-- The handler that a step binds a key to. -/
def Step.bound? (key : String) : Step σ → Option (Handler σ)
  | .bind other handler => if key = other then some handler else none
  | .stub _ => none

/-- The client keys of the rows that a step stubs. -/
def Step.stubbedKeys : Step σ → List String
  | .bind _ _ => []
  | .stub rows => rows.filterMap Manifest.Row.key?

/-- The handler that a key was bound to last. -/
def lastBound? (steps : List (Step σ)) (key : String) : Option (Handler σ) :=
  (steps.filterMap (Step.bound? key)).getLast?

/-- The handler that a key has from the start. -/
def builtIn? (key : String) : Option (Handler σ) :=
  if key = Manifest.nullKey then some Handler.null
  else if key = Manifest.earlyKey then some Handler.earlyProcess
  else none

theorem resolve?_initial (key : String) :
    (initial : Bindings σ).resolve? key = builtIn? key := by
  rw [resolve?, initial, lookup_cons_eq_ite, lookup_cons_eq_ite]
  rfl

theorem prepared_concat (steps : List (Step σ)) (step : Step σ) :
    prepared (steps ++ [step]) = (prepared steps).perform step := by
  simp [prepared]

theorem lastBound?_concat (steps : List (Step σ)) (step : Step σ) (key : String) :
    lastBound? (steps ++ [step]) key = (step.bound? key).or (lastBound? steps key) := by
  unfold lastBound?
  rw [List.filterMap_append, List.getLast?_append]
  cases h : step.bound? key with
  | none => simp [h]
  | some handler => simp [h]

/-- A key stands for the handler that it was bound to last; a key that was never bound stands for what
it had from the start or, failing that, for a stand-in if a manifest with that key was stubbed. -/
theorem resolve?_prepared (steps : List (Step σ)) (key : String) :
    (prepared steps).resolve? key =
      ((lastBound? steps key).or (builtIn? key)).or
        (stubAmong? (steps.flatMap Step.stubbedKeys) key) := by
  induction steps using List.reverseRecOn with
  | nil => simp [prepared, resolve?_initial, lastBound?, stubAmong?]
  | append_singleton steps step ih =>
      rw [prepared_concat, lastBound?_concat, List.flatMap_append, stubAmong?_append]
      cases step with
      | bind other handler =>
          change ((prepared steps).insert other handler).resolve? key = _
          rw [resolve?_insert, ih]
          by_cases h : key = other
          · simp [Step.bound?, h]
          · simp [Step.bound?, Step.stubbedKeys, stubAmong?, h]
      | stub rows =>
          change ((prepared steps).stubKeys (rows.filterMap Manifest.Row.key?)).1.resolve? key = _
          rw [resolve?_stubKeys, ih, Option.or_assoc]
          simp [Step.bound?, Step.stubbedKeys]

/-! ## Keys with a handler -/

/-- The keys that have a handler, in the order in which they got one. -/
def keys (b : Bindings σ) : List String :=
  b.entries.map Prod.fst

theorem mem_keys_iff (b : Bindings σ) (key : String) :
    key ∈ b.keys ↔ b.contains key = true := by
  rw [contains, resolve?, List.lookup_isSome_iff, keys, List.mem_map]
  simp only [beq_iff_eq, eq_comm (a := key)]

theorem not_mem_keys_iff (b : Bindings σ) (key : String) :
    key ∉ b.keys ↔ b.resolve? key = none := by
  rw [mem_keys_iff, Bool.not_eq_true, contains_eq_false_iff]

theorem map_fst_put (key : String) (handler : Handler σ) (entries : List (String × Handler σ)) :
    (put key handler entries).map Prod.fst =
      if key ∈ entries.map Prod.fst then entries.map Prod.fst
      else entries.map Prod.fst ++ [key] := by
  induction entries with
  | nil => rfl
  | cons entry rest ih =>
      obtain ⟨first, previous⟩ := entry
      unfold put
      by_cases hfirst : first = key
      · simp [hfirst]
      · rw [if_neg hfirst, List.map_cons, ih]
        have hne : key ≠ first := fun h => hfirst h.symm
        by_cases hrest : key ∈ rest.map Prod.fst
        · simp [hrest]
        · simp [hrest, hne]

theorem keys_insert (b : Bindings σ) (key : String) (handler : Handler σ) :
    (b.insert key handler).keys = if key ∈ b.keys then b.keys else b.keys ++ [key] :=
  map_fst_put key handler b.entries

theorem nodup_keys_insert (h : b.keys.Nodup) (key : String) (handler : Handler σ) :
    (b.insert key handler).keys.Nodup := by
  rw [keys_insert]
  split
  · exact h
  · rename_i hnew
    rw [← List.concat_eq_append, List.nodup_concat]
    exact ⟨hnew, h⟩

/-- However bindings are prepared, each key is listed once. -/
theorem nodup_keys_prepared (steps : List (Step σ)) :
    (prepared steps).keys.Nodup := by
  refine List.foldlRecOn (motive := fun b : Bindings σ => b.keys.Nodup) steps perform ?_ ?_
  · simp [keys, initial, Manifest.nullKey, Manifest.earlyKey]
  · intro b hb step _
    cases step with
    | bind key handler => exact nodup_keys_insert hb key handler
    | stub rows =>
        refine stubKeys_induction (P := fun b : Bindings σ => b.keys.Nodup) ?_ hb _
        intro b key hb _
        exact nodup_keys_insert hb key _

theorem size_eq_length_keys (b : Bindings σ) : b.size = b.keys.length :=
  (List.length_map ..).symm

theorem size_insert_of_unbound (h : b.resolve? key = none) (handler : Handler σ) :
    (b.insert key handler).size = b.size + 1 := by
  have hnew := (b.not_mem_keys_iff key).mpr h
  rw [size_eq_length_keys, keys_insert, if_neg hnew, List.length_append, size_eq_length_keys]
  rfl

/-- The number of entries is the number of keys that have a handler. -/
theorem exists_size_eq_card (steps : List (Step σ)) :
    ∃ bound : Finset String,
      (∀ key, key ∈ bound ↔ (prepared steps).contains key = true) ∧
        (prepared steps).size = bound.card := by
  refine ⟨(prepared steps).keys.toFinset, ?_, ?_⟩
  · intro key
    rw [List.mem_toFinset, mem_keys_iff]
  · rw [List.toFinset_card_of_nodup (nodup_keys_prepared steps), size_eq_length_keys]

/-! ## What a stubbing adds -/

/-- Those of some keys that have no handler, each counted once. -/
def unbound (b : Bindings σ) (keys : List String) : Finset String :=
  keys.toFinset.filter fun key => b.resolve? key = none

theorem unbound_cons (b : Bindings σ) (key : String) (keys : List String) :
    b.unbound (key :: keys) =
      if b.resolve? key = none then Insert.insert key (b.unbound keys) else b.unbound keys := by
  rw [unbound, List.toFinset_cons, Finset.filter_insert]
  rfl

theorem unbound_insert (b : Bindings σ) (key : String) (handler : Handler σ)
    (keys : List String) :
    (b.insert key handler).unbound keys = (b.unbound keys).erase key := by
  ext other
  simp only [unbound, Finset.mem_filter, Finset.mem_erase, resolve?_insert]
  by_cases h : other = key <;> simp [h]

/-- As many stubs are needed as there are keys without a handler. -/
theorem count_stubKeys (b : Bindings σ) (keys : List String) :
    (b.stubKeys keys).2 = (b.unbound keys).card := by
  induction keys generalizing b with
  | nil => rfl
  | cons key keys ih =>
      unfold stubKeys
      rw [unbound_cons]
      by_cases hunbound : b.resolve? key = none
      · have hfirst : b.contains key = false := (b.contains_eq_false_iff key).mpr hunbound
        rw [if_pos hunbound, hfirst]
        change ((b.insert key (Handler.stub key)).stubKeys keys).2 + 1 = _
        rw [ih, unbound_insert, ← Finset.erase_insert_eq_erase,
          Finset.card_erase_add_one (Finset.mem_insert_self key _)]
      · have hfirst : b.contains key = true := by
          rwa [← Bool.not_eq_false, contains_eq_false_iff]
        rw [if_neg hunbound, if_pos hfirst, ih]

/-- The bindings grow by the stubs that were needed. -/
theorem size_stubKeys (b : Bindings σ) (keys : List String) :
    (b.stubKeys keys).1.size = b.size + (b.stubKeys keys).2 := by
  induction keys generalizing b with
  | nil => rfl
  | cons key keys ih =>
      unfold stubKeys
      by_cases hbound : b.contains key = true
      · rw [if_pos hbound, ih]
      · rw [if_neg hbound]
        change ((b.insert key (Handler.stub key)).stubKeys keys).1.size =
          b.size + (((b.insert key (Handler.stub key)).stubKeys keys).2 + 1)
        rw [Bool.not_eq_true, contains_eq_false_iff] at hbound
        rw [ih, size_insert_of_unbound hbound]
        omega

/-- Nothing is stubbed when all keys have a handler. -/
theorem stubKeys_of_bound {keys : List String} (bound : ∀ key ∈ keys, b.contains key = true) :
    b.stubKeys keys = (b, 0) := by
  induction keys with
  | nil => rfl
  | cons key keys ih =>
      unfold stubKeys
      rw [if_pos (bound key List.mem_cons_self)]
      exact ih fun other hother => bound other (List.mem_cons_of_mem key hother)

/-- What a key stands for follows from the steps that prepared the bindings: the last handler that it
was bound to, whatever was stubbed before or after; without one, what it had from the start; failing
that, a stub with its name if it was a client key of a manifest that was stubbed.  Each stubbing counts
the client keys that had no handler, which is how much the number of keys with a handler grows.  It
changes no handler, leaves no row of its manifest without one, and has nothing to do a second time. -/
theorem resolution_follows_history (steps : List (Step σ)) :
    let b := prepared steps
    (∀ key, b.resolve? key =
        ((lastBound? steps key).or (builtIn? key)).or
          (stubAmong? (steps.flatMap Step.stubbedKeys) key)) ∧
      (∀ key, (Handler.stub key : Handler σ).name = key) ∧
      (∃ bound : Finset String,
        (∀ key, key ∈ bound ↔ b.contains key = true) ∧ b.size = bound.card) ∧
      ∀ rows : List Manifest.Row,
        let stubbed := b.stubUnbound rows
        stubbed.1 = prepared (steps ++ [.stub rows]) ∧
          stubbed.2 = (b.unbound (rows.filterMap Manifest.Row.key?)).card ∧
          stubbed.1.size = b.size + stubbed.2 ∧
          (∀ key handler, b.resolve? key = some handler →
            stubbed.1.resolve? key = some handler) ∧
          (∀ r ∈ rows, r.Bound stubbed.1) ∧
          (∀ error ∈ (Manifest.load rows stubbed.1).failures, ∀ id name key,
            error ≠ .unbound id name key) ∧
          stubbed.1.stubUnbound rows = (stubbed.1, 0) := by
  intro b
  refine ⟨resolve?_prepared steps, fun _ => rfl, exists_size_eq_card steps, ?_⟩
  intro rows stubbed
  have hbound : ∀ r ∈ rows, r.Bound stubbed.1 := by
    intro r hr key hkey
    exact (b.contains_stubUnbound rows).mpr (Or.inr ⟨r, hr, hkey⟩)
  refine ⟨(prepared_concat steps (.stub rows)).symm, b.count_stubKeys _, b.size_stubKeys _, ?_,
    hbound, ?_, ?_⟩
  · intro key handler hresolve
    change (b.stubKeys _).1.resolve? key = some handler
    rw [resolve?_stubKeys, hresolve, Option.some_or]
  · intro error failed
    exact Manifest.not_unbound_of_bound hbound failed
  · apply stubKeys_of_bound
    intro key hkey
    obtain ⟨r, hr, hsome⟩ := List.mem_filterMap.mp hkey
    exact hbound r hr key hsome

/-- Rows with a key that has game logic, a key that two of them share, a key of the start and none. -/
def sharedKeyRows : List Manifest.Row :=
  [.client 0x36 "CMSG_CHAR_CREATE" .authed .world "char_create",
    .client 0xB5 "MSG_MOVE_START_FORWARD" .loggedIn .inPlace "movement",
    .client 0xB6 "MSG_MOVE_START_BACKWARD" .loggedIn .inPlace "movement",
    .client 0x1 "CMSG_BOOTME" .never .inPlace Manifest.nullKey,
    .server 0x39 "SMSG_CHAR_CREATE" .never]

theorem resolution_follows_history_sharedKey :
    let own : Handler Nat := Handler.raw "char_create" fun _ _ n => ⟨n + 1, .returned, [], false⟩
    let b := prepared [.stub sharedKeyRows, .bind "char_create" own, .bind "movement" own,
      .stub sharedKeyRows, .bind Manifest.earlyKey own]
    b.resolve? "movement" = some own ∧ b.resolve? Manifest.nullKey = some Handler.null ∧
      b.resolve? Manifest.earlyKey = some own ∧
      (prepared [.bind "char_create" own]).resolve? "char_create" = some own ∧
      ((prepared [.bind "char_create" own]).stubUnbound sharedKeyRows).2 = 1 ∧
      ((prepared [.bind "char_create" own]).stubbed sharedKeyRows).resolve? "char_create" =
        some own := by
  intro own b
  have hafter := resolution_follows_history [.stub sharedKeyRows, .bind "char_create" own,
    .bind "movement" own, .stub sharedKeyRows, .bind Manifest.earlyKey own]
  have hbefore := resolution_follows_history [.bind "char_create" own]
  have hown : (prepared [.bind "char_create" own]).resolve? "char_create" = some own := by
    rw [hbefore.1]
    rfl
  obtain ⟨-, hcount, -, hkeeps, -⟩ := hbefore.2.2.2 sharedKeyRows
  refine ⟨?_, ?_, ?_, hown, ?_, hkeeps _ _ hown⟩
  · rw [hafter.1]
    rfl
  · rw [hafter.1]
    rfl
  · rw [hafter.1]
    rfl
  · rw [hcount]
    decide

end Bindings
end PacketDispatch
