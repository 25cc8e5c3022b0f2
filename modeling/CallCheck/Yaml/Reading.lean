import CallCheck.Yaml.Plain

/-!
# Reading documents

Readers of nodes as texts, numbers, lists and fields. A reader that meets something else says what
it found and what it expected, with the path to the node and its place. Collections may be nested
128 deep, and aliases may be followed a hundred times for each event of the document.

A node where the document was cut has the fault of the document, so a fault of an earlier node comes
first.
-/

namespace CallCheck
namespace Yaml

inductive Fault where
  | message (text : String) (place : Option (String × Mark))
  | document (fault : DocumentFault)
  | endOfStream
  | followed
  | tooDeep (mark : Mark)
  | tooManyAliases
  deriving Inhabited

def Fault.words : Fault → String
  | .message text none => text
  | .message text (some (path, mark)) =>
    (if path = "." then "" else path ++ ": ") ++ text ++
      if mark.isOrigin then "" else " at " ++ mark.words
  | .document (.text fault) => fault.message
  | .document (.unknownAnchor mark) =>
    "unknown anchor" ++ if mark.isOrigin then "" else " at " ++ mark.words
  | .endOfStream => "EOF while parsing a value"
  | .followed => "deserializing from YAML containing more than one document is not supported"
  | .tooDeep mark =>
    "recursion limit exceeded" ++ if mark.isOrigin then "" else " at " ++ mark.words
  | .tooManyAliases => "repetition limit exceeded"

/-- A reader of nodes; the state counts the aliases followed. -/
abbrev Read := ReaderT Document (StateT Nat (Except Fault))

def depthLimit : Nat := 128

namespace Read

def itemPath (path : String) (i : Nat) : String := path ++ "[" ++ toString i ++ "]"

/-- The path of a value under a key, which is known if it is a scalar. -/
def valuePath (path : String) (key : Node) : String :=
  let front := if path = "." then "" else path ++ "."
  match key with
  | .scalar _ _ text _ => front ++ text
  | _ => front ++ "?"

/-- Refuses without a place, which the node being read adds. -/
def fail {α : Type} (text : String) : Read α := throw (.message text none)

/-- Adds a path and a mark to a fault that has no place yet. -/
def locate {α : Type} (path : String) (mark : Mark) (r : Read α) : Read α :=
  tryCatch r fun
    | .message text none => throw (.message text (some (path, mark)))
    | f => throw f

def cutFault {α : Type} : Read α := do
  match (← read).fault with
  | some f => throw (.document f)
  | none => throw .endOfStream

def wrongMeaning {α : Type} (m : Meaning) (expected : String) : Read α :=
  fail ("invalid type: " ++ m.words ++ ", expected " ++ expected)

/-- Refuses a scalar that is not what its tag says. -/
def wrongValue {α : Type} (value expected : String) : Read α :=
  fail ("invalid value: string " ++ Quoted.quote value ++ ", expected " ++ expected)

def wrongNode {α : Type} (n : Node) (expected : String) : Read α :=
  match n with
  | .scalar _ tag text style =>
    match scalarMeaning tag text style with
    | .ok m => wrongMeaning m expected
    | .error (value, kind) => wrongValue value kind
  | .sequence .. => fail ("invalid type: sequence, expected " ++ expected)
  | .mapping .. => fail ("invalid type: map, expected " ++ expected)
  | _ => throw .endOfStream

def markOf : Node → Mark
  | .scalar m _ _ _ | .sequence m _ _ | .mapping m _ _ | .alias m _ | .absent m => m
  | .cut => .start

/-- The node that an alias refers to; any other node is itself. -/
def follow (n : Node) : Read Node := do
  match n with
  | .cut => cutFault
  | .alias _ number =>
    let count := (← get) + 1
    set count
    let d ← read
    if d.size * 100 < count then throw .tooManyAliases
    match d.anchors.find? (·.1 == number) with
    | some (_, target) => return target
    | none => throw .endOfStream
  | n => return n

/-- Reads the node that is meant, with its place for faults. -/
def onNode {α : Type} (path : String) (n : Node) (r : Node → Read α) : Read α := do
  let target ← follow n
  locate path (markOf target) (r target)

/-! ### Single values -/

/-- Any scalar as its text. -/
def text (expected : String) (path : String) (n : Node) : Read String :=
  onNode path n fun n =>
    match n with
    | .scalar _ _ text _ => return text
    | n => wrongNode n expected

/-- Whether a scalar may be read as a value of a core type. -/
def isLiteralFor (kind : String) (tag : Option String) (style : ScalarStyle) : Bool :=
  style == .plain || (style == .literal && tag == some (coreTag kind))

def bool (path : String) (n : Node) : Read Bool :=
  onNode path n fun n =>
    match n with
    | .scalar _ tag text style =>
      match isLiteralFor "bool" tag style, spelledBool? text with
      | true, some b => return b
      | _, _ => wrongNode n "a boolean"
    | n => wrongNode n "a boolean"

/-- A natural number of 64 bits. -/
def nat (path : String) (n : Node) : Read Nat :=
  onNode path n fun n =>
    match n with
    | .scalar _ tag text style =>
      match isLiteralFor "int" tag style, spelledInt? text.toList with
      | true, some i =>
        if 0 ≤ i ∧ i < Int.pow 2 64 ∧ !text.startsWith "-" then return i.toNat else wrongNode n "u64"
      | _, _ => wrongNode n "u64"
    | n => wrongNode n "u64"

def optional {α : Type} (r : Node → Read α) (n : Node) : Read (Option α) := do
  let target ← follow n
  match target with
  | .absent _ => return none
  | .scalar _ tag text style =>
    if style ≠ .plain then some <$> r target
    else match tag with
      | some t =>
        if t = coreTag "null" then
          if spellsNothing text then return none else wrongValue text "null"
        else some <$> r target
      | none =>
        if text.isEmpty || spellsNothing text then return none else some <$> r target
  | _ => some <$> r target

/-- A value that nobody asked for; it still has to be complete. -/
def ignored (n : Node) : Read Unit := do
  if hasCut n then cutFault else pure ()
where
  /-- Whether the node was cut somewhere. -/
  hasCut : Node → Bool
    | .cut => true
    | .sequence _ _ items => anyCut items
    | .mapping _ _ entries => anyEntryCut entries
    | _ => false
  /-- Whether one of several nodes was cut. -/
  anyCut : List Node → Bool
    | [] => false
    | n :: rest => hasCut n || anyCut rest
  /-- Whether one of several entries was cut. -/
  anyEntryCut : List (Node × Node) → Bool
    | [] => false
    | (k, v) :: rest => hasCut k || hasCut v || anyEntryCut rest

/-! ### Collections -/

def deeper {α : Type} (depth : Nat) (mark : Mark) (r : Nat → Read α) : Read α :=
  match depth with
  | 0 => throw (.tooDeep mark)
  | d + 1 => r d

/-- Whether nothing is written where a collection could stand. -/
def isLeftOut : Node → Bool
  | .absent _ => true
  | .scalar _ _ text style => text.isEmpty && style == .plain
  | _ => false

/-- The items of a list, read one after another from number `i` on. -/
def items {α : Type} (path : String) (r : String → Node → Read α) :
    Nat → List Node → Read (List α)
  | _, [] => return []
  | i, n :: rest => do
    let a ← r (itemPath path i) n
    return a :: (← items path r (i + 1) rest)

/-- A list; left out, it is empty. -/
def list {α : Type} (r : Nat → String → Node → Read α) (depth : Nat) (path : String) (n : Node) :
    Read (List α) :=
  onNode path n fun n =>
    match n with
    | .sequence m _ ns => deeper depth m fun d => items path (r d) 0 ns
    | n => if isLeftOut n then return [] else wrongNode n "a sequence"

def fields {σ : Type} (path : String) (expectedKey : String)
    (r : σ → String → String → Node → Read σ) : σ → List (Node × Node) → Read σ
  | s, [] => return s
  | s, (k, v) :: rest => do
    let key ← text expectedKey path k
    let s ← r s key (valuePath path k) v
    fields path expectedKey r s rest

/-- A mapping with fields of its own; left out, it has none. -/
def record {σ α : Type} (expected : String) (empty : σ)
    (r : Nat → σ → String → String → Node → Read σ) (finish : σ → Read α)
    (depth : Nat) (path : String) (n : Node) : Read α :=
  onNode path n fun n =>
    match n with
    | .mapping m _ entries =>
      deeper depth m fun d => do finish (← fields path "field identifier" (r d) empty entries)
    | n => if isLeftOut n then finish empty else wrongNode n expected

def once {α : Type} (name : String) (old : Option α) (r : Read α) : Read (Option α) :=
  match old with
  | some _ => fail ("duplicate field `" ++ name ++ "`")
  | none => some <$> r

def required {α : Type} (name : String) : Option α → Read α
  | some a => return a
  | none => fail ("missing field `" ++ name ++ "`")

end Read

/-! ### Values of any kind -/

/-- A value of any kind, kept until it is known what it is read as. -/
inductive Content where
  | scalar (meaning : Meaning)
  | list (items : List Content)
  | map (entries : List (Content × Content))
  deriving Inhabited

namespace Read

/-- Whether a tag asks for a type of its own. -/
def isOwnTag (tag : Option String) : Bool := tag.any (·.startsWith "!")

def meaningOf (tag : Option String) (text : String) (style : ScalarStyle) : Read Meaning :=
  match scalarMeaning tag text style with
  | .ok m => return m
  | .error (value, kind) => wrongValue value kind

/-- A node of any kind, its parts read by `inner` if it may have any. -/
def contentWith (inner : Option (String → Node → Read Content)) (path : String) (n : Node) :
    Read Content :=
  let parts (m : Mark) (r : (String → Node → Read Content) → Read Content) : Read Content :=
    match inner with
    | some read => r read
    | none => throw (.tooDeep m)
  let ownTag : Read Content :=
    fail "untagged and internally tagged enums do not support enum input"
  onNode path n fun n =>
    match n with
    | .scalar _ tag text style =>
      if isOwnTag tag then ownTag
      else do
        match ← meaningOf tag text style with
        | .int i =>
          if -(Int.pow 2 63) ≤ i ∧ i < Int.pow 2 64 then return .scalar (.int i)
          else wrongMeaning (.int i) "any value"
        | m => return .scalar m
    | .sequence m tag ns =>
      if isOwnTag tag then ownTag else parts m fun read => .list <$> items path read 0 ns
    | .mapping m tag entries =>
      if isOwnTag tag then ownTag
      else parts m fun read => .map <$> entries.mapM fun (k, v) => do
        let key ← read path k
        let value ← read (valuePath path k) v
        return (key, value)
    | _ => return .scalar .nothing

def content : Nat → String → Node → Read Content
  | 0 => contentWith none
  | d + 1 => contentWith (some (content d))

/-- The JSON number of a whole number, which has to fit 64 bits. -/
def jsonInt? (i : Int) : Option Json :=
  if -(Int.pow 2 63) ≤ i ∧ i < Int.pow 2 64 then some (.ofInt i) else none

/-- The JSON value of a meaning; a number without a finite value is null. -/
def jsonOfMeaning : Meaning → Read Json
  | .nothing => return .null
  | .bool b => return .bool b
  | .int i =>
    match jsonInt? i with
    | some v => return v
    | none => fail "JSON number out of range"
  | .real b => return .number (.real b)
  | .nonfinite _ => return .null
  | .text s => return .text s

def jsonWith (inner : Option (String → Node → Read Json)) (path : String) (n : Node) : Read Json :=
  let parts (m : Mark) (r : (String → Node → Read Json) → Read Json) : Read Json :=
    match inner with
    | some read => r read
    | none => throw (.tooDeep m)
  let ownTag : Read Json := fail "invalid type: enum, expected any valid JSON value"
  onNode path n fun n =>
    match n with
    | .scalar _ tag text style =>
      if isOwnTag tag then ownTag else do jsonOfMeaning (← meaningOf tag text style)
    | .sequence m tag ns =>
      if isOwnTag tag then ownTag else parts m fun read => .list <$> items path read 0 ns
    | .mapping m tag entries =>
      if isOwnTag tag then ownTag
      else parts m fun read => do
        let pairs ← entries.zipIdx.mapM fun ((k, v), i) => do
          let key ← text (if i = 0 then "a string key" else "a string") path k
          let value ← read (valuePath path k) v
          return (key, value)
        return .ofFields pairs
    | _ => return .null

def json : Nat → String → Node → Read Json
  | 0 => jsonWith none
  | d + 1 => jsonWith (some (json d))

/-- A value that was kept as it is named where another kind is expected. -/
def Content.words : Content → String
  | .scalar m => m.words
  | .list _ => "sequence"
  | .map _ => "map"

mutual

/-- The JSON value of a value that was kept, or the reason why there is none. -/
def jsonOfContent : Content → Except String Json
  | .scalar m =>
    match m with
    | .nothing => .ok .null
    | .bool b => .ok (.bool b)
    | .int i => .ok (.ofInt i)
    | .real b => .ok (.number (.real b))
    | .nonfinite _ => .ok .null
    | .text s => .ok (.text s)
  | .list cs => do return .list (← jsonOfContents cs)
  | .map entries => do return .ofFields (← jsonOfEntries true entries)

def jsonOfContents : List Content → Except String (List Json)
  | [] => .ok []
  | c :: rest => do
    let v ← jsonOfContent c
    return v :: (← jsonOfContents rest)

/-- The fields of several entries, whose keys have to be texts. -/
def jsonOfEntries (first : Bool) : List (Content × Content) → Except String (List (String × Json))
  | [] => .ok []
  | (k, c) :: rest => do
    match k with
    | .scalar (.text key) =>
      let v ← jsonOfContent c
      return (key, v) :: (← jsonOfEntries false rest)
    | k =>
      throw ("invalid type: " ++ Content.words k ++ ", expected " ++
        if first then "a string key" else "a string")

end

end Read

/-- What the only document of a text is read as. -/
def ofText {α : Type} (r : Node → Read α) (text : String) : Except Fault α := do
  let d := Document.ofText text
  let a ← ((r d.root).run d).run' 0
  match d.fault with
  | some f => throw (.document f)
  | none => if d.followed then throw .followed else return a

end Yaml
end CallCheck
