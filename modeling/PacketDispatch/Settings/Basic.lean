import PacketDispatch.Settings.Dispatch
import PacketDispatch.Settings.Logging
import PacketDispatch.Toml.Parser

/-!
# Settings

All settings of the server, as they are read from a file, checked, and written to a file that does
not exist yet.
-/

namespace PacketDispatch

/-- The settings of the server. -/
structure Settings where
  dispatch : Settings.Dispatch := {}
  logging : Settings.Logging := {}
  deriving DecidableEq, Repr

namespace Settings

/-- Why a file holds no settings: it is no text, or its text does not say any. -/
inductive FileFault
  | unreadable
  | malformed
  deriving DecidableEq, Repr

/-- The wording of a fault, for a file with a name. -/
def FileFault.message (name : String) : FileFault → String
  | .unreadable => "reading " ++ name
  | .malformed => "parsing " ++ name

/-- The settings in a value; tables that are missing have their defaults. -/
def ofValue? (v : Value) : Option Settings := do
  let dispatch ← v.field "dispatch" 0 Dispatch.ofValue? {}
  let logging ← v.field "logging" 1 Logging.ofValue? {}
  some ⟨dispatch, logging⟩

/-- The settings in the text of a file. -/
def ofText (text : String) : Except FileFault Settings :=
  match (Toml.parse text).bind fun t => ofValue? (.ofToml t) with
  | some s => .ok s
  | none => .error .malformed

/-- The settings in the bytes of a file. -/
def ofBytes (bytes : List UInt8) : Except FileFault Settings :=
  match String.fromUTF8? ⟨bytes.toArray⟩ with
  | some text => ofText text
  | none => .error .unreadable

/-- The settings can be worked with; if not, a text says why. -/
def validate (s : Settings) : Except String Unit :=
  match s.dispatch.validate with
  | .error fault => .error fault.message
  | .ok () => if s.logging.isValid then .ok () else .error s.logging.refusal

/-- The settings as lines of a file, on a machine with some processors. -/
def fileLines (s : Settings) (processors : Nat) : List String :=
  s.dispatch.fileLines processors ++ [""] ++ s.logging.fileLines

/-- The settings as the text of a file. -/
def fileText (s : Settings) (processors : Nat) : String :=
  String.join ((s.fileLines processors).map fun line => line ++ "\n")

end Settings
end PacketDispatch
