/-!
# Paths

A path is a text; its components are what stands between the slashes. A dot counts only at the
start of a relative path, and doubled or trailing slashes do not count. Paths are ordered by their
components, so that a directory comes before what it holds.
-/

namespace CallCheck

/-- A path as it is written. -/
structure Path where
  text : String
  deriving DecidableEq, Inhabited

namespace Path

inductive Component where
  | root
  | current
  | parent
  | name (name : String)
  deriving DecidableEq, Inhabited

namespace Component

/-- The place of the kind of a component in their order. -/
def rank : Component → Nat
  | .root => 0
  | .current => 1
  | .parent => 2
  | .name _ => 3

def name? : Component → Option String
  | .name n => some n
  | _ => none

/-- The order of components: by kind, names by their characters. -/
def compare (a b : Component) : Ordering :=
  match a, b with
  | .name m, .name n => if m < n then .lt else if m = n then .eq else .gt
  | a, b => Ord.compare a.rank b.rank

end Component

/-- What stands between the slashes. -/
def pieces (p : Path) : List (List Char) := p.text.toList.splitOn '/'

def isAbsolute (p : Path) : Bool := p.text.toList.head? == some '/'

/-- The component that a piece stands for, dots and empty pieces being none. -/
def component? : List Char → Option Component
  | [] | ['.'] => none
  | ['.', '.'] => some .parent
  | piece => some (.name (String.ofList piece))

def components (p : Path) : List Component :=
  match p.pieces with
  | [] => []
  | first :: rest =>
    let steps := rest.filterMap component?
    if first = ['.'] then .current :: steps
    else if p.isAbsolute then .root :: steps
    else (component? first).toList ++ steps

def compareComponents : List Component → List Component → Ordering
  | [], [] => .eq
  | [], _ :: _ => .lt
  | _ :: _, [] => .gt
  | a :: as, b :: bs => (a.compare b).then (compareComponents as bs)

def compare (p q : Path) : Ordering := compareComponents p.components q.components

/-- Whether one path comes before another or has the same components. -/
def le (p q : Path) : Bool := (p.compare q).isLE

/-- Whether two paths have the same components. -/
def same (p q : Path) : Bool := p.components == q.components

/-- The last component, if it is a name. -/
def fileName? (p : Path) : Option String := p.components.getLast?.bind Component.name?

/-- Takes off the last pieces that stand for no component; the first piece stays. -/
def dropIdle : List (List Char) → List (List Char)
  | piece :: before :: rest =>
    if (component? piece).isNone then dropIdle (before :: rest) else piece :: before :: rest
  | pieces => pieces

/-- The path without its last component; a path without components has none. -/
def parent? (p : Path) : Option Path :=
  match dropIdle p.pieces.reverse with
  | [] | [[]] => none
  | [_] => some ⟨""⟩
  | _ :: before =>
    let kept := (dropIdle before).reverse
    some ⟨if kept = [[]] then "/" else String.ofList (['/'].intercalate kept)⟩

/-- A path below another; an absolute path stands for itself. -/
def join (p q : Path) : Path :=
  if q.isAbsolute || p.text.isEmpty then q
  else if p.text.endsWith "/" then ⟨p.text ++ q.text⟩
  else ⟨p.text ++ "/" ++ q.text⟩

def ofNames (names : List String) : Path := ⟨"/" ++ "/".intercalate names⟩

end Path
end CallCheck
