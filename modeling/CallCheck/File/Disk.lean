import CallCheck.File.Fault
import CallCheck.File.Path

/-!
# File trees

A disk is a tree of files and directories with a working directory. A path is followed step by step
from the root or the working directory; every step but the last has to lead to a directory.

Trees have no links and no entries that the system refuses to read. Such entries are left out of a
tree, so that a walk through it never fails.
-/

namespace CallCheck
namespace File

/-- A file with its bytes, or a directory with its entries. -/
inductive Tree where
  | file (bytes : ByteArray)
  | directory (entries : List (String × Tree))
  deriving Inhabited

namespace Tree

def isFile : Tree → Bool
  | .file _ => true
  | .directory _ => false

/-- The entries of a directory; a file has none. -/
def entries : Tree → List (String × Tree)
  | .file _ => []
  | .directory es => es

def child? (name : String) (t : Tree) : Option Tree :=
  (t.entries.find? (·.1 == name)).map (·.2)

/-- The part of the tree that names lead to. -/
def find? (t : Tree) : List String → Option Tree
  | [] => some t
  | name :: rest => (t.child? name).bind fun below => below.find? rest

/-- Puts an entry into a list sorted by name, in place of an entry of that name. -/
def setEntry (name : String) (t : Tree) : List (String × Tree) → List (String × Tree)
  | [] => [(name, t)]
  | (n, old) :: rest =>
    if name < n then (name, t) :: (n, old) :: rest
    else if name = n then (name, t) :: rest
    else (n, old) :: setEntry name t rest

/-- Puts a tree where names lead, with the directories on the way. -/
def write (t new : Tree) : List String → Tree
  | [] => new
  | name :: rest =>
    let below := (t.child? name).getD (.directory [])
    .directory (setEntry name (below.write new rest) t.entries)

end Tree

/-- A tree of files with the working directory. -/
structure Disk where
  root : Tree
  working : List String
  deriving Inhabited

namespace Disk

/-- Follows the pieces of a path from the directory that `names` lead to, the last name first. -/
def follow (d : Disk) : List String → List (List Char) → Except Fault (List String)
  | names, [] => .ok names
  | names, piece :: rest =>
    match d.root.find? names.reverse with
    | some (.directory es) =>
      match Path.component? piece with
      | none => d.follow names rest
      | some (.name n) =>
        if 255 < n.utf8ByteSize then .error .nameTooLong
        else if es.any (·.1 == n) then d.follow (n :: names) rest
        else .error .notFound
      | some _ => d.follow names.tail rest
    | _ => .error .notDirectory

/-- The names that lead from the root to what a path refers to. -/
def locate (d : Disk) (p : Path) : Except Fault (List String) :=
  if p.text.isEmpty then .error .notFound
  else if p.text.toList.contains '\x00' then .error .zeroByte
  else if p.isAbsolute then List.reverse <$> d.follow [] p.pieces.tail
  else List.reverse <$> d.follow d.working.reverse p.pieces

def at? (d : Disk) (p : Path) : Option Tree := (d.locate p).toOption.bind d.root.find?

def isFile (d : Disk) (p : Path) : Bool := (d.at? p).any (·.isFile)

def isDirectory (d : Disk) (p : Path) : Bool := (d.at? p).any (!·.isFile)

def contains (d : Disk) (p : Path) : Bool := (d.at? p).isSome

def readText (d : Disk) (p : Path) : Except Fault String := do
  let names ← d.locate p
  match d.root.find? names with
  | some (.file bytes) =>
    match String.fromUTF8? bytes with
    | some s => return s
    | none => throw .notText
  | some (.directory _) => throw .isDirectory
  | none => throw .notFound

/-- Puts a tree at a place below the working directory, or anywhere if the path is absolute. -/
def write (d : Disk) (p : Path) (t : Tree) : Disk :=
  let names := p.components.filterMap Path.Component.name?
  { d with root := d.root.write t (if p.isAbsolute then names else d.working ++ names) }

end Disk
end File
end CallCheck
