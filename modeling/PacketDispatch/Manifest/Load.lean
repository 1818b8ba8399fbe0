import PacketDispatch.Handler.Bindings
import PacketDispatch.Table.Basic

/-!
# Loading a manifest

A table is built from the rows of a manifest and the bindings of their keys. A row whose key is not
bound, or whose opcode cannot be registered, is skipped and reported; the others go into the table.
-/

namespace PacketDispatch
namespace Manifest

/-- What loading a manifest leaves: the table, the failures in the order of their rows, the opcodes
of the accepted rows whose names say the other side sends them, and the number of accepted rows. -/
structure Load (σ : Type) where
  table : Table σ
  registered : Nat
  failures : List RegistrationError
  mismatches : List Opcode
  lines : List Line

namespace Load

/-- Nothing loaded yet. -/
def empty : Load σ :=
  ⟨Table.empty, 0, [], [], []⟩

/-- No row failed. -/
def isClean (l : Load σ) : Bool :=
  l.failures.isEmpty

end Load

/-- The registration that a row stands for, when its key is bound. -/
def Row.registration (r : Row) (b : Bindings σ) :
    Except RegistrationError (Table.Registration σ) :=
  match r.kind with
  | .client requirement lane key =>
    match b.resolve? key with
    | some handler => .ok (.client r.id r.name requirement lane handler)
    | none => .error (.unbound r.id r.name key)
  | .server requirement => .ok (.server r.id r.name requirement)

/-- The line about a row that was accepted although its name says the other side sends it. -/
def Row.mismatchLine (r : Row) : Line :=
  ⟨.warn, "🔀 " ++ r.name ++ " (opcode " ++ Text.hexWord r.id.toNat ++ ") is registered as " ++
    r.origin.text ++ "-originated"⟩

/-- One row is loaded. -/
def Load.step (b : Bindings σ) (l : Load σ) (r : Row) : Load σ :=
  match r.registration b with
  | .error error =>
    { l with
      failures := l.failures ++ [error]
      lines := l.lines ++ [⟨.warn, "🔌 " ++ error.message⟩] }
  | .ok registration =>
    match l.table.add registration with
    | .error error =>
      { l with
        failures := l.failures ++ [error]
        lines := l.lines ++ [l.table.addLine registration] }
    | .ok table =>
      { table := table
        registered := l.registered + 1
        failures := l.failures
        mismatches := if r.mismatched then l.mismatches ++ [r.id] else l.mismatches
        lines := l.lines ++ l.table.addLine registration ::
          (if r.mismatched then [r.mismatchLine] else []) }

/-- The line about a loaded manifest. -/
def Load.doneLine (l : Load σ) : Line :=
  ⟨.info, "📋 Loaded opcode manifest: " ++ Text.decimal l.registered ++ " registered, " ++
    Text.decimal l.failures.length ++ " skipped, " ++ Text.decimal l.mismatches.length ++
    " direction mismatches"⟩

/-- The rows are loaded in order. -/
def loadRows (rows : List Row) (b : Bindings σ) : Load σ :=
  rows.foldl (Load.step b) Load.empty

/-- The rows are loaded in order, and the table is finished. -/
def load (rows : List Row) (b : Bindings σ) : Load σ :=
  let l := loadRows rows b
  { l with lines := l.lines ++ [l.doneLine, l.table.builtLine] }

end Manifest
end PacketDispatch
