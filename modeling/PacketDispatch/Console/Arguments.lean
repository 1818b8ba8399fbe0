/-!
# Command line arguments

Options with a value, switches, and two requests that end the reading at once. Every option may be
given once; of the three questions `--describe`, `--summary` and `--replay` at most one may be
asked; there are no positional arguments.
-/

namespace PacketDispatch
namespace Console

/-- An option that takes a value. -/
inductive Setting
  | config
  | logLevel
  | describe
  | replay
  deriving DecidableEq, Repr

/-- An option without a value. -/
inductive Switch
  | jsonLogs
  | summary
  deriving DecidableEq, Repr

/-- A request that is answered in place of a run. -/
inductive Request
  | help
  | version
  deriving DecidableEq, Repr

/-- What an option's name stands for. -/
inductive Flag
  | setting (s : Setting)
  | switch (s : Switch)
  | request (r : Request)
  deriving DecidableEq, Repr

/-- The option with a long name. -/
def Flag.ofLong? (name : String) : Option Flag :=
  if name == "config" then some (.setting .config)
  else if name == "log-level" then some (.setting .logLevel)
  else if name == "describe" then some (.setting .describe)
  else if name == "replay" then some (.setting .replay)
  else if name == "json-logs" then some (.switch .jsonLogs)
  else if name == "summary" then some (.switch .summary)
  else if name == "help" then some (.request .help)
  else if name == "version" then some (.request .version)
  else none

/-- The option with a short name. -/
def Flag.ofShort? (c : Char) : Option Flag :=
  match c with
  | 'c' => some (.setting .config)
  | 'l' => some (.setting .logLevel)
  | 'h' => some (.request .help)
  | 'V' => some (.request .version)
  | _ => none

/-- The options that were given. -/
structure Given where
  settings : List (Setting × String)
  switches : List Switch
  deriving DecidableEq, Repr

namespace Given

/-- No options. -/
def empty : Given :=
  ⟨[], []⟩

/-- The value of an option. -/
def value? (g : Given) (s : Setting) : Option String :=
  g.settings.lookup s

/-- A switch was given. -/
def has (g : Given) (s : Switch) : Bool :=
  g.switches.contains s

/-- An option with its value, if it was not given before. -/
def addSetting? (g : Given) (s : Setting) (value : String) : Option Given :=
  if (g.value? s).isSome then none else some { g with settings := g.settings ++ [(s, value)] }

/-- A switch, if it was not given before. -/
def addSwitch? (g : Given) (s : Switch) : Option Given :=
  if g.has s then none else some { g with switches := g.switches ++ [s] }

/-- How many of the three questions were asked. -/
def questions (g : Given) : Nat :=
  (if (g.value? .describe).isSome then 1 else 0) + (if g.has .summary then 1 else 0) +
    (if (g.value? .replay).isSome then 1 else 0)

end Given

/-- What the arguments ask for: a run with options, an answer to a request, or nothing that there
is. -/
inductive Reading
  | run (g : Given)
  | request (r : Request)
  | misuse
  deriving DecidableEq, Repr

/-- The name and the value of a long option, at the first equals sign. -/
def splitLong (cs : List Char) : String × Option String :=
  match cs.dropWhile (· != '=') with
  | _ :: value => (String.ofList (cs.takeWhile (· != '=')), some (String.ofList value))
  | [] => (String.ofList cs, none)

/-- The value that stands right after a short option; an equals sign before it is left out. -/
def attached? : List Char → Option String
  | [] => none
  | '=' :: value => some (String.ofList value)
  | value => some (String.ofList value)

/-- An argument that is meant as an option: it starts with a dash that is not alone. -/
def isOption (arg : String) : Bool :=
  match arg.toList with
  | '-' :: _ :: _ => true
  | _ => false

/-- An argument as an option: its flag and the value attached to it. -/
def flagOf? (arg : String) : Option (Flag × Option String) :=
  match arg.toList with
  | '-' :: '-' :: name =>
    let (name, value) := splitLong name
    (Flag.ofLong? name).map (·, value)
  | '-' :: c :: rest => (Flag.ofShort? c).map (·, attached? rest)
  | _ => none

/-- A request ends the reading. A long one takes no value; what follows the letter of a short one
does not matter any more. -/
def answer (r : Request) (arg : String) (value : Option String) : Reading :=
  if value.isSome && arg.toList.take 2 == ['-', '-'] then .misuse else .request r

/-- Arguments after a lone double dash would be positional. -/
def afterDashes (g : Given) : List String → Reading
  | [] => .run g
  | _ :: _ => .misuse

/-- Arguments are read from the left. -/
def readFrom (g : Given) : List String → Reading
  | [] => .run g
  | arg :: rest =>
    if arg == "--" then afterDashes g rest
    else
      match flagOf? arg with
      | none => .misuse
      | some (.request r, value) => answer r arg value
      | some (.switch s, value) =>
        match value, g.addSwitch? s with
        | none, some g => readFrom g rest
        | _, _ => .misuse
      | some (.setting s, some value) =>
        match g.addSetting? s value with
        | some g => readFrom g rest
        | none => .misuse
      | some (.setting s, none) =>
        match rest with
        | [] => .misuse
        | value :: rest =>
          if isOption value then .misuse
          else
            match g.addSetting? s value with
            | some g => readFrom g rest
            | none => .misuse

/-- What the arguments ask for. -/
def read (args : List String) : Reading :=
  match readFrom Given.empty args with
  | .run g => if g.questions ≤ 1 then .run g else .misuse
  | other => other

end Console
end PacketDispatch
