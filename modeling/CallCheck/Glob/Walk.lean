import CallCheck.File.Disk
import CallCheck.Glob.Pattern

/-!
# The paths that a glob names

A glob is followed step by step over a disk: a step without wildcards is looked up, one with
wildcards is matched against the names in a directory, and `**` goes down any number of
directories. `Glob.paths` lists what is reached; the order is that of the directories.
-/

namespace CallCheck
namespace Glob

open File (Disk Tree)

/-- Whether a path is the working directory, written as a dot. -/
def isHere (p : Path) : Bool := p.same ⟨"."⟩

/-- The path of an entry of a directory; below the working directory it is its name. -/
def below (p : Path) (name : String) : Path := if isHere p then ⟨name⟩ else p.join ⟨name⟩

/-- The text of a pattern without wildcards. -/
def literalText? : Pattern → Option (List Char)
  | [] => some []
  | .literal c :: rest => (literalText? rest).map (c :: ·)
  | _ :: _ => none

def children (d : Disk) (p : Path) : List (Path × Tree) :=
  ((d.at? p).elim [] Tree.entries).map fun (name, t) => (below p name, t)

mutual

def everything (p : Path) : Tree → List Path
  | .file _ => [p]
  | .directory es => p :: everythingIn p es

def everythingIn (p : Path) : List (String × Tree) → List Path
  | [] => []
  | (name, t) :: rest => everything (p.join ⟨name⟩) t ++ everythingIn p rest

end

def descendants (d : Disk) (p : Path) : List Path :=
  (children d p).flatMap fun (path, t) => everything path t

def isNamed (pattern : Pattern) (p : Path) : Bool := p.fileName?.any pattern.accepts

/-- The dots that stand for a directory and the one above it. -/
def dots : List String := [".", ".."]

/-- The paths that one step leads to from a path. The dots are only reached by a pattern that
begins with one. -/
def step (d : Disk) (pattern : Pattern) (p : Path) : List Path :=
  match literalText? pattern with
  | some s =>
    let next := below p (String.ofList s)
    let isDots := dots.contains (String.ofList s)
    if (isDots && d.isDirectory p) || (!isDots && d.contains next) then [next] else []
  | none =>
    if !d.isDirectory p then []
    else
      let special :=
        if pattern.head? == some (.literal '.') then
          (dots.reverse.filter pattern.accepts).map fun dot => p.join ⟨dot⟩
        else []
      special ++ ((children d p).map (·.1)).filter (isNamed pattern)

/-- The paths that several steps lead to. After `**` the next step is matched by name alone. -/
def steps (d : Disk) : List Pattern → Path → List Path
  | [], p => [p]
  | [[.anySteps]], p => (descendants d p).filter d.isDirectory
  | [.anySteps] :: next :: rest, p =>
    ((descendants d p).filter (isNamed next)).flatMap (steps d rest)
  | pattern :: rest, p => (step d pattern p).flatMap (steps d rest)

/-- Repeated `**` steps count once. -/
def collapse : List Pattern → List Pattern
  | [.anySteps] :: rest =>
    match collapse rest with
    | [.anySteps] :: rest => [.anySteps] :: rest
    | rest => [.anySteps] :: rest
  | p :: rest => p :: collapse rest
  | [] => []

/-- The steps of a pattern, those between its slashes. A slash at the end starts none. -/
def stepsOf (s : List Char) : List (List Char) :=
  let pieces := s.splitOn '/'
  if pieces.getLast? == some [] then pieces.dropLast else pieces

/-- What a pattern names on a disk, or why it is none. -/
def paths (d : Disk) (s : List Char) : Except Fault (List Path) := do
  let _ ← Pattern.ofText (String.ofList s)
  let absolute := s.head? == some '/'
  let rest := if absolute then s.tail else s
  let patterns ← (stepsOf rest).mapM fun piece => Pattern.ofText (String.ofList piece)
  let patterns := if rest.isEmpty then [[]] else patterns
  let found := steps d (collapse patterns) ⟨if absolute then "/" else "."⟩
  return if s.getLast? == some '/' then found.filter d.isDirectory else found

end Glob
end CallCheck
