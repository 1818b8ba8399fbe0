import PacketDispatch.Handler.Basic
import PacketDispatch.Manifest.Row

/-!
# Bindings

Which handler each key stands for. Two keys are bound from the start. Binding a key again replaces
its handler; stubbing gives a stand-in to keys that have none and leaves the others alone.
-/

namespace PacketDispatch

/-- Keys with their handlers, each key once. -/
structure Bindings (σ : Type) where
  entries : List (String × Handler σ)

namespace Bindings

/-- The bindings every book starts with. -/
def initial : Bindings σ :=
  ⟨[(Manifest.nullKey, Handler.null), (Manifest.earlyKey, Handler.earlyProcess)]⟩

/-- The handler of a key. -/
def resolve? (b : Bindings σ) (key : String) : Option (Handler σ) :=
  b.entries.lookup key

/-- A key has a handler. -/
def contains (b : Bindings σ) (key : String) : Bool :=
  (b.resolve? key).isSome

/-- How many keys have a handler. -/
def size (b : Bindings σ) : Nat :=
  b.entries.length

/-- No key has a handler. -/
def isEmpty (b : Bindings σ) : Bool :=
  b.entries.isEmpty

/-- The entries with the handler of a key replaced, or added at the end. -/
def put (key : String) (handler : Handler σ) : List (String × Handler σ) → List (String × Handler σ)
  | [] => [(key, handler)]
  | (k, h) :: rest => if k = key then (k, handler) :: rest else (k, h) :: put key handler rest

/-- The bindings with a key bound to a handler. -/
def insert (b : Bindings σ) (key : String) (handler : Handler σ) : Bindings σ :=
  ⟨put key handler b.entries⟩

/-- The line about binding a key. -/
def bindLine (b : Bindings σ) (key : String) : Line :=
  match b.resolve? key with
  | some previous =>
    ⟨.warn, "⚠️ Handler key '" ++ key ++ "' rebound (was " ++ previous.name ++ ")"⟩
  | none => ⟨.debug, "📝 Bound handler key '" ++ key ++ "'"⟩

/-- A key is bound, and a line tells whether it was bound before. -/
def bind (b : Bindings σ) (key : String) (handler : Handler σ) : Bindings σ × List Line :=
  (b.insert key handler, [b.bindLine key])

/-- Keys are bound one after another. -/
def bindAll (b : Bindings σ) : List (String × Handler σ) → Bindings σ × List Line
  | [] => (b, [])
  | (key, handler) :: rest =>
    let (b', lines) := b.bind key handler
    let (last, more) := b'.bindAll rest
    (last, lines ++ more)

/-- A stub for each of the keys that has no handler, and how many were needed. -/
def stubKeys (b : Bindings σ) : List String → Bindings σ × Nat
  | [] => (b, 0)
  | key :: keys =>
    if b.contains key then b.stubKeys keys
    else
      let (b', n) := (b.insert key (Handler.stub key)).stubKeys keys
      (b', n + 1)

/-- A stub for each client key of the rows that has no handler, and how many were needed. -/
def stubUnbound (b : Bindings σ) (rows : List Manifest.Row) : Bindings σ × Nat :=
  b.stubKeys (rows.filterMap Manifest.Row.key?)

/-- The bindings with a stub for each client key of the rows that has no handler. -/
def stubbed (b : Bindings σ) (rows : List Manifest.Row) : Bindings σ :=
  (b.stubUnbound rows).1

/-- The line about stubbing. -/
def stubLines (stubbed : Nat) : List Line :=
  if stubbed = 0 then []
  else [⟨.debug, "🧩 Stubbed " ++ Text.decimal stubbed ++ " unbound handler keys"⟩]

end Bindings
end PacketDispatch
