import PacketDispatch.Console.Basic

/-!
# A machine for commands

A command is rehearsed on a machine that is made up for it: files by their places, in folders that
every machine has. A path is followed part by part, from the root or from the folder of the command;
every part but the last must lead to a folder. The folders are fixed: a command makes files and no
folders. Which folders and which files are there is assumed; the console reaches files by their
paths alone and knows nothing of them.
-/

namespace PacketDispatch
namespace Rehearsal

/-- A place in the tree: the names on the way to it from the root, the last one first. -/
abbrev Place := List String

namespace Place

/-- The place where all paths with a slash in front begin. -/
def root : Place := []

/-- The folder in which a command runs, where all other paths begin. It is one of those for
temporary files, and its own name is never part of a path. -/
def here : Place := ["", "tmp"]

/-- The folders that every machine has, as far as paths can be expected to lead through them. -/
def folders : List Place :=
  [here, ["boot"], ["dev"], ["etc"], ["home"], ["media"], ["mnt"], ["opt"], ["proc"], ["root"],
    ["run"], ["srv"], ["sys"], ["tmp"], ["usr"], ["var"], ["shm", "dev"], ["bin", "usr"],
    ["lib", "usr"], ["local", "usr"], ["sbin", "usr"], ["share", "usr"], ["lib", "var"],
    ["log", "var"], ["tmp", "var"]]

/-- Names that lead to a folder elsewhere. -/
def links : List (Place × Place) :=
  [(["bin"], ["bin", "usr"]), (["lib"], ["lib", "usr"]), (["sbin"], ["sbin", "usr"]),
    (["run", "var"], ["run"])]

/-- Folders in which no file can be made. -/
def closedFolders : List Place :=
  [["proc"], ["sys"]]

/-- The folder that a part of a path leads to from another one: the same for an empty part or a dot,
the one around it for two dots, which the root does not have and stays itself. -/
def enter? (p : Place) (part : String) : Option Place :=
  if part == "" || part == "." then some p
  else if part == ".." then some p.tail
  else
    let next := part :: p
    match links.lookup next with
    | some q => some q
    | none => if folders.contains next then some next else none

end Place

/-- What a path leads to. -/
inductive Target
  | file (place : Place)
  | folder
  | nowhere
  deriving DecidableEq, Repr

namespace Target

/-- The longest name of a file, in bytes. -/
def maxName : Nat := 255

/-- The longest path, in bytes. -/
def maxPath : Nat := 4095

/-- The parts of a path are followed from a folder. -/
def follow (p : Place) : List String → Target
  | [] => .folder
  | [part] =>
    if (p.enter? part).isSome then .folder
    else if maxName < part.utf8ByteSize then .nowhere
    else .file (part :: p)
  | part :: rest =>
    match p.enter? part with
    | some q => follow q rest
    | none => .nowhere

/-- The parts of a path between its slashes. -/
def split : List Char → List (List Char)
  | [] => [[]]
  | c :: rest =>
    if c == '/' then [] :: split rest
    else
      match split rest with
      | [] => [[c]]
      | part :: parts => (c :: part) :: parts

/-- The parts of a path as names. -/
def parts (cs : List Char) : List String :=
  (split cs).map String.ofList

/-- What a path leads to. -/
def ofPath (path : String) : Target :=
  if maxPath < path.utf8ByteSize then .nowhere
  else
    match path.toList with
    | [] => .nowhere
    | '/' :: rest => follow Place.root (parts rest)
    | cs => follow Place.here (parts cs)

end Target

/-- Files by place, each with its bytes. -/
structure FileTree where
  files : List (Place × List UInt8)
  deriving DecidableEq, Repr

namespace FileTree

/-- Files that every machine has: the device that reads as empty, and tables of users, groups and
hosts. -/
def standing : List (Place × List UInt8) :=
  [(["null", "dev"], []),
    (["passwd", "etc"], "root:x:0:0:root:/root:/bin/sh\n".toUTF8.data.toList),
    (["group", "etc"], "root:x:0:\n".toUTF8.data.toList),
    (["hosts", "etc"], "127.0.0.1\tlocalhost\n".toUTF8.data.toList)]

/-- A tree with files in the folder of the command. -/
def ofFiles (files : List (String × List UInt8)) : FileTree :=
  ⟨files.map fun f => (f.1 :: Place.here, f.2)⟩

/-- The bytes of the file at a place. -/
def lookup? (t : FileTree) (place : Place) : Option (List UInt8) :=
  (t.files ++ standing).lookup place

/-- A path is read. -/
def read (t : FileTree) (path : String) : Console.Found :=
  match Target.ofPath path with
  | .file place =>
    match t.lookup? place with
    | some content => .bytes content
    | none => .missing
  | .folder => .unreadable
  | .nowhere => .missing

/-- The tree with a file at a place. What is written to the device that reads as empty is lost. -/
def put (t : FileTree) (place : Place) (content : List UInt8) : FileTree :=
  if place == ["null", "dev"] then t
  else ⟨(t.files.filter fun f => f.1 != place) ++ [(place, content)]⟩

/-- A file is written, if the path can name one. -/
def write? (t : FileTree) (path : String) (content : List UInt8) : Option FileTree :=
  match Target.ofPath path with
  | .file place =>
    if Place.closedFolders.contains place.tail then none else some (t.put place content)
  | .folder | .nowhere => none

/-- The files of a tree that a command may change. -/
def access : Console.Files (StateM FileTree) where
  read path := fun t => (t.read path, t)
  write path content := fun t =>
    match t.write? path content with
    | some t => (true, t)
    | none => (false, t)

/-- The names of the files in the folder of the command, in order. -/
def names (t : FileTree) : List String :=
  (t.files.filterMap fun f => if f.1.tail == Place.here then f.1.head? else none).mergeSort
    fun a b => a ≤ b

/-- A command runs on a machine with these files, which it may change, and some processors. -/
def runCommand (t : FileTree) (processors : Nat) (args : List String) : Console.Ended × FileTree :=
  (Console.run access processors args).run t

end FileTree
end Rehearsal
end PacketDispatch
