import PacketDispatch.Handler.Bindings

/-!
# Bindings as they are prepared

Bindings start with two keys and grow until a manifest is loaded: binding a key and stubbing the
keys of a manifest keep every key that has a handler.  So the two keys of the start are bound in
all bindings that can come about, and stubbing leaves no client key of its rows without a handler.
-/

namespace PacketDispatch
namespace Bindings

variable {σ : Type} {b : Bindings σ} {other : String}

/-! ## Binding and stubbing -/

theorem lookup_cons_eq_ite (key other : String) (handler : Handler σ)
    (rest : List (String × Handler σ)) :
    ((key, handler) :: rest).lookup other =
      if other = key then some handler else rest.lookup other := by
  by_cases h : other = key
  · simp [h]
  · simp [List.lookup_cons, h, beq_false_of_ne h]

theorem lookup_put (key other : String) (handler : Handler σ)
    (entries : List (String × Handler σ)) :
    (put key handler entries).lookup other =
      if other = key then some handler else entries.lookup other := by
  induction entries with
  | nil => exact lookup_cons_eq_ite key other handler []
  | cons entry rest ih =>
      obtain ⟨k, previous⟩ := entry
      unfold put
      by_cases hk : k = key
      · subst hk
        rw [if_pos rfl, lookup_cons_eq_ite, lookup_cons_eq_ite]
        by_cases h : other = k <;> simp [h]
      · rw [if_neg hk, lookup_cons_eq_ite, lookup_cons_eq_ite, ih]
        by_cases h : other = k
        · subst h
          simp [hk]
        · simp [h]

theorem resolve?_insert (b : Bindings σ) (key other : String) (handler : Handler σ) :
    (b.insert key handler).resolve? other =
      if other = key then some handler else b.resolve? other :=
  lookup_put key other handler b.entries

/-- Binding a key binds that key and keeps the others. -/
theorem contains_insert (b : Bindings σ) (key other : String) (handler : Handler σ) :
    (b.insert key handler).contains other = true ↔ other = key ∨ b.contains other = true := by
  unfold contains
  rw [resolve?_insert]
  by_cases h : other = key <;> simp [h]

theorem contains_eq_false_iff (b : Bindings σ) (key : String) :
    b.contains key = false ↔ b.resolve? key = none := by
  simp [contains]

/-- The stand-in of a key that is among some keys. -/
def stubAmong? (keys : List String) (key : String) : Option (Handler σ) :=
  if key ∈ keys then some (Handler.stub key) else none

theorem stubAmong?_append (earlier later : List String) (key : String) :
    (stubAmong? (earlier ++ later) key : Option (Handler σ)) =
      (stubAmong? earlier key).or (stubAmong? later key) := by
  unfold stubAmong?
  by_cases h : key ∈ earlier <;> simp [h]

/-- What stays with every key that gets its stand-in stays with all of them. -/
theorem stubKeys_induction {P : Bindings σ → Prop}
    (step : ∀ b key, P b → b.resolve? key = none → P (b.insert key (Handler.stub key)))
    (h : P b) (keys : List String) : P (b.stubKeys keys).1 := by
  induction keys generalizing b with
  | nil => exact h
  | cons key keys ih =>
      unfold stubKeys
      by_cases hbound : b.contains key = true
      · rw [if_pos hbound]
        exact ih h
      · rw [if_neg hbound]
        rw [Bool.not_eq_true, contains_eq_false_iff] at hbound
        exact ih (step b key h hbound)

/-- Stubbing keys gives a stand-in to those that have no handler and leaves the others alone. -/
theorem resolve?_stubKeys (b : Bindings σ) (keys : List String) (other : String) :
    (b.stubKeys keys).1.resolve? other = (b.resolve? other).or (stubAmong? keys other) := by
  induction keys generalizing b with
  | nil => simp [stubKeys, stubAmong?]
  | cons key keys ih =>
      unfold stubKeys
      rw [← List.singleton_append, stubAmong?_append, ← Option.or_assoc]
      by_cases hbound : b.contains key = true
      · -- A key that is bound already is passed over; its stand-in is not needed.
        rw [if_pos hbound, ih]
        congr 1
        by_cases h : other = key
        · obtain ⟨handler, hhandler⟩ := Option.isSome_iff_exists.mp hbound
          rw [h, hhandler, Option.some_or]
        · simp [stubAmong?, h]
      · rw [if_neg hbound]
        refine (ih _).trans ?_
        rw [resolve?_insert]
        congr 1
        rw [Bool.not_eq_true, contains_eq_false_iff] at hbound
        by_cases h : other = key
        · simp [stubAmong?, h, hbound]
        · simp [stubAmong?, h]

theorem contains_stubKeys (b : Bindings σ) (keys : List String) :
    (b.stubKeys keys).1.contains other = true ↔ b.contains other = true ∨ other ∈ keys := by
  simp [contains, resolve?_stubKeys, stubAmong?, Option.isSome_or]

/-- Stubbing binds the client keys of the rows and keeps the others. -/
theorem contains_stubUnbound (b : Bindings σ) (rows : List Manifest.Row) :
    (b.stubUnbound rows).1.contains other = true ↔
      b.contains other = true ∨ ∃ r ∈ rows, r.key? = some other := by
  rw [stubUnbound, contains_stubKeys, List.mem_filterMap]

/-! ## The steps of a preparation -/

/-- What is done to bindings before a manifest is loaded. -/
inductive Step (σ : Type)
  | bind (key : String) (handler : Handler σ)
  | stub (rows : List Manifest.Row)

/-- The bindings after one step. -/
def perform (b : Bindings σ) : Step σ → Bindings σ
  | .bind key handler => (b.bind key handler).1
  | .stub rows => (b.stubUnbound rows).1

/-- The bindings that steps make of those that every book starts with. -/
def prepared (steps : List (Step σ)) : Bindings σ :=
  steps.foldl perform initial

/-- No step takes a handler away. -/
theorem contains_perform (step : Step σ) (h : b.contains other = true) :
    (b.perform step).contains other = true := by
  cases step with
  | bind key handler => exact (b.contains_insert key other handler).mpr (Or.inr h)
  | stub rows => exact (b.contains_stubUnbound rows).mpr (Or.inl h)

theorem contains_prepared (steps : List (Step σ))
    (h : (initial : Bindings σ).contains other = true) :
    (prepared steps).contains other = true :=
  List.foldlRecOn (motive := fun b : Bindings σ => b.contains other = true) steps perform h
    fun _ hb step _ => contains_perform step hb

/-- The key of opcodes that nothing handles is always bound. -/
theorem contains_nullKey_prepared (steps : List (Step σ)) :
    (prepared steps).contains Manifest.nullKey = true :=
  contains_prepared steps (by simp [contains, resolve?, initial])

/-- The key of opcodes that the socket layer processes is always bound. -/
theorem contains_earlyKey_prepared (steps : List (Step σ)) :
    (prepared steps).contains Manifest.earlyKey = true :=
  contains_prepared steps
    (by simp [contains, resolve?, initial, List.lookup_cons, Manifest.earlyKey, Manifest.nullKey])

end Bindings
end PacketDispatch
