import CallCheck.Yaml.Event

/-!
# Documents

`Document.ofText` puts the events of the first document of a text together to a tree. Where the
events end early the tree has a `cut`, and the document has the fault that belongs there: a reader
of the tree meets what stands before the cut first.

An anchor gets the number of the names known before it. The numbers are not renewed when a name is
used again, so of two anchors with one number the later stands for both.
-/

namespace CallCheck
namespace Yaml

/-- A node of a document. An alias refers to an anchor by number; `cut` stands where the events
ended. -/
inductive Node where
  | scalar (mark : Mark) (tag : Option String) (text : String) (style : ScalarStyle)
  | sequence (mark : Mark) (tag : Option String) (items : List Node)
  | mapping (mark : Mark) (tag : Option String) (entries : List (Node × Node))
  | alias (mark : Mark) (number : Nat)
  | absent (mark : Mark)
  | cut
  deriving Inhabited

/-- The fault of a document: one of the text, or an alias without an anchor. -/
inductive DocumentFault where
  | text (fault : TextFault)
  | unknownAnchor (mark : Mark)
  deriving DecidableEq, Inhabited

/-- A document: its root, its anchors by number, how many events it has, its fault, and whether
something follows it in the text. -/
structure Document where
  root : Node
  anchors : List (Nat × Node)
  size : Nat
  fault : Option DocumentFault
  followed : Bool
  deriving Inhabited

/-- A collection being put together, its parts last first, with the number of its anchor. -/
inductive Open where
  | sequence (mark : Mark) (tag : Option String) (anchor : Option Nat) (items : List Node)
  | mapping (mark : Mark) (tag : Option String) (anchor : Option Nat)
      (entries : List (Node × Node)) (key : Option Node)
  deriving Inhabited

structure Builder where
  frames : List Open
  names : List (String × Nat)
  anchors : List (Nat × Node)
  root : Option Node
  size : Nat
  deriving Inhabited

namespace Builder

def empty : Builder := ⟨[], [], [], none, 0⟩

/-- Puts a finished node into the innermost collection, or makes it the root. -/
def place (n : Node) (b : Builder) : Builder :=
  match b.frames with
  | [] => { b with root := some n }
  | .sequence m t a items :: rest => { b with frames := .sequence m t a (n :: items) :: rest }
  | .mapping m t a entries none :: rest =>
    { b with frames := .mapping m t a entries (some n) :: rest }
  | .mapping m t a entries (some k) :: rest =>
    { b with frames := .mapping m t a ((k, n) :: entries) none :: rest }

def remember (anchor : Option Nat) (n : Node) (b : Builder) : Builder :=
  match anchor with
  | some a => { b with anchors := b.anchors.filter (·.1 != a) ++ [(a, n)] }
  | none => b

def name (anchor : Option String) (b : Builder) : Option Nat × Builder :=
  match anchor with
  | none => (none, b)
  | some s =>
    let number := b.names.length
    (some number, { b with names := (s, number) :: b.names.filter (·.1 != s) })

def close (b : Builder) : Builder :=
  match b.frames with
  | [] => b
  | .sequence m t a items :: rest =>
    let n := Node.sequence m t items.reverse
    place n (remember a n { b with frames := rest })
  | .mapping m t a entries _ :: rest =>
    let n := Node.mapping m t entries.reverse
    place n (remember a n { b with frames := rest })

/-- Takes one event in; an alias needs an anchor before it. -/
def take (e : Event) (b : Builder) : Except DocumentFault Builder :=
  let b := match e.kind with
    | .documentStart | .documentEnd | .streamEnd => b
    | _ => { b with size := b.size + 1 }
  match e.kind with
  | .documentStart | .documentEnd | .streamEnd => .ok b
  | .alias s =>
    match b.names.find? (·.1 == s) with
    | some (_, number) => .ok (b.place (.alias e.mark number))
    | none => .error (.unknownAnchor e.mark)
  | .scalar anchor tag text style =>
    let (a, b) := b.name anchor
    let n := Node.scalar e.mark tag text style
    .ok (place n (remember a n b))
  | .sequenceStart anchor tag =>
    let (a, b) := b.name anchor
    .ok { b with frames := .sequence e.mark tag a [] :: b.frames }
  | .mappingStart anchor tag =>
    let (a, b) := b.name anchor
    .ok { b with frames := .mapping e.mark tag a [] none :: b.frames }
  | .sequenceEnd | .mappingEnd => .ok b.close

/-- Cuts and closes the collections that are still open. -/
def cutOff (b : Builder) : Nat → Builder
  | 0 => if b.root.isNone then b.place .cut else b
  | n + 1 =>
    let b := b.place .cut
    let b := match b.frames with
      | .mapping _ _ _ _ (some _) :: _ => b.place .cut
      | _ => b
    cutOff' b.close n
where
  /-- Closes the collections around one that was cut. -/
  cutOff' (b : Builder) : Nat → Builder
    | 0 => b
    | n + 1 =>
      let b := match b.frames with
        | .mapping _ _ _ _ (some _) :: _ => b.place .cut
        | _ => b
      cutOff' b.close n

/-- The document with what was put together, cut off where it is not complete. -/
def finish (b : Builder) (fault : Option DocumentFault) (followed : Bool) : Document :=
  let b := b.cutOff b.frames.length
  ⟨b.root.getD .cut, b.anchors, b.size, fault, followed⟩

end Builder

def Builder.run (fault : Option TextFault) : Builder → List Event → Document
  | b, [] => b.finish (fault.map .text) false
  | b, e :: rest =>
    match e.kind with
    | .documentEnd =>
      let ends := match rest with
        | ⟨.streamEnd, _⟩ :: _ => true
        | _ => false
      b.finish none (!ends)
    | .streamEnd => ⟨.absent e.mark, [], 1, none, false⟩
    | _ =>
      match b.take e with
      | .ok b => run fault b rest
      | .error f => b.finish (some f) false

def Document.ofText (text : String) : Document :=
  let events := Events.ofText text
  Builder.empty.run events.fault events.events

end Yaml
end CallCheck
