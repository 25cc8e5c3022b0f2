import CallCheck.Regex.Tree
import CallCheck.Text.Blank
import CallCheck.Text.Category
import CallCheck.Text.Property

/-!
# Reading patterns

`Tree.ofText` reads a pattern from left to right and refuses it at its first fault; groups left open
are found at the end, the innermost first. While the flag for spacing is on, blanks and comments
between the parts are passed over.

Open groups and alternations wait on a stack of `Frame`s, open classes on a stack of `ClassFrame`s.
Every round of the two loops passes at least one character, so the length of the pattern bounds
them.
-/

namespace CallCheck
namespace Regex

/-- A place in a pattern: what is still to be read, how much was read, whether blanks and comments
are passed over, and whether groups may look around. -/
structure Cursor where
  rest : List Char
  offset : Nat
  spaced : Bool
  looksAround : Bool
  deriving Inhabited

namespace Cursor

/-- Passes blanks and comments; `comment` inside a comment. -/
def passBlanks : List Char → Nat → Bool → List Char × Nat
  | [], n, _ => ([], n)
  | c :: r, n, true => passBlanks r (n + 1) (c != '\n')
  | c :: r, n, false =>
    if isBlank c then passBlanks r (n + 1) false
    else if c = '#' then passBlanks r (n + 1) true
    else (c :: r, n)

def next (c : Cursor) : Cursor :=
  match c.rest with
  | [] => c
  | _ :: r => { c with rest := r, offset := c.offset + 1 }

def skip (c : Cursor) : Cursor :=
  if c.spaced then
    let (r, n) := passBlanks c.rest c.offset false
    { c with rest := r, offset := n }
  else c

def nextSkip (c : Cursor) : Cursor := c.next.skip

/-- The character after the current one, blanks passed over. -/
def afterCurrent (c : Cursor) : Option Char :=
  match c.rest with
  | [] => none
  | _ :: r =>
    if c.spaced then
      match r.dropWhile isBlank with
      | '#' :: r => (r.dropWhile isBlank).head?
      | r => r.head?
    else r.head?

end Cursor

abbrev Read := StateT Cursor (Except Fault)

namespace Read

def peek : Read (Option Char) := return (← get).rest.head?

def offset : Read Nat := return (← get).offset

def atEnd : Read Bool := return (← get).rest.isEmpty

def next : Read Unit := modify Cursor.next

def nextSkip : Read Unit := modify Cursor.nextSkip

def skip : Read Unit := modify Cursor.skip

/-- Refuses the stretch from `start` to here. -/
def failFrom {α : Type} (start : Nat) (cause : Cause) : Read α := do
  throw ⟨cause, ⟨start, ← offset⟩, none⟩

def failHere {α : Type} (cause : Cause) : Read α := do
  let n ← offset
  throw ⟨cause, ⟨n, n + 1⟩, none⟩

/-- Refuses the empty stretch at this place. -/
def failAt {α : Type} (cause : Cause) : Read α := do
  let n ← offset
  throw ⟨cause, ⟨n, n⟩, none⟩

/-- Passes a given text if it stands here. -/
def nextIf (text : List Char) : Read Bool := do
  let c ← get
  if text.isPrefixOf c.rest then
    set { c with rest := c.rest.drop text.length, offset := c.offset + text.length }
    return true
  else
    return false

/-- The characters from here on for which `p` holds, blanks passed over between them. -/
def gather (p : Char → Bool) : Nat → Read (List Char)
  | 0 => return []
  | fuel + 1 => do
    match ← peek with
    | some c =>
      if p c then
        nextSkip
        return c :: (← gather p fuel)
      else return []
    | none => return []

def gatherAll (p : Char → Bool) : Read (List Char) := do
  gather p (← get).rest.length

end Read

open Read

/-! ### Escapes -/

/-- The characters with a meaning of their own, which an escape takes from them. -/
def isMeta (c : Char) : Bool := "\\.+*?()|[]\x7b\x7d^$#&-~".toList.contains c

def isEscapable (c : Char) : Bool :=
  isMeta c || (c.toNat < 0x80 && !c.isAlphanum && c != '<' && c != '>')

def isHexDigit (c : Char) : Bool :=
  c.isDigit || ('a' ≤ c && c ≤ 'f') || ('A' ≤ c && c ≤ 'F')

def hexNumber (digits : List Char) : Nat :=
  digits.foldl (fun n c => n * 16 + CharSet.digitValue c.toLower) 0

def charOfCode? (n : Nat) : Option Char :=
  if n < 0xD800 ∨ (0xDFFF < n ∧ n < 0x110000) then some (Char.ofNat n) else none

/-- Hexadecimal digits of a fixed number; the cursor is at the first. -/
def readHexDigits : Nat → Read (List Char)
  | 0 => return []
  | n + 1 => do
    match ← peek with
    | none => failAt .escapeUnexpectedEnd
    | some c =>
      if !isHexDigit c then failHere .escapeHexInvalidDigit
      else
        nextSkip
        if n > 0 ∧ (← atEnd) then failAt .escapeUnexpectedEnd
        else return c :: (← readHexDigits n)

/-- A character by its code point; the cursor is at the letter of the escape. -/
def readHex (start : Nat) (letter : Char) : Read Literal := do
  nextSkip
  if ← atEnd then failAt .escapeUnexpectedEnd
  else if (← peek) = some '\x7b' then
    let brace ← offset
    nextSkip
    let digits ← gatherAll isHexDigit
    match ← peek with
    | none => failFrom brace .escapeUnexpectedEnd
    | some '\x7d' =>
      let stop ← offset
      nextSkip
      if digits.isEmpty then failFrom brace .escapeHexEmpty
      else match charOfCode? (hexNumber digits) with
        | some c => return ⟨⟨start, ← offset⟩, c, false⟩
        | none => throw ⟨.escapeHexInvalid, ⟨brace + 1, stop⟩, none⟩
    | some _ => failHere .escapeHexInvalidDigit
  else
    let from_ ← offset
    let width := if letter = 'x' then 2 else if letter = 'u' then 4 else 8
    let digits ← readHexDigits width
    match charOfCode? (hexNumber digits) with
    | some c => return ⟨⟨start, ← offset⟩, c, letter = 'x'⟩
    | none => failFrom from_ .escapeHexInvalid

def splitAtFirst? (sep : List Char) : List Char → Option (List Char × List Char)
  | [] => none
  | c :: r =>
    if sep.isPrefixOf (c :: r) then some ([], (c :: r).drop sep.length)
    else (splitAtFirst? sep r).map fun (before, after) => (c :: before, after)

/-- What a class in braces asks for. -/
def queryOf (inner : List Char) : ClassQuery :=
  match splitAtFirst? ['!', '='] inner with
  | some (name, value) => .valued (.ofList name) (.ofList value)
  | none =>
    match splitAtFirst? [':'] inner with
    | some (name, value) => .valued (.ofList name) (.ofList value)
    | none =>
      match splitAtFirst? ['='] inner with
      | some (name, value) => .valued (.ofList name) (.ofList value)
      | none => .named (.ofList inner)

/-- What a class by name asks for; the cursor is at the letter of the escape. -/
def readQuery : Read ClassQuery := do
  nextSkip
  match ← peek with
  | none => failAt .escapeUnexpectedEnd
  | some '\x7b' =>
    nextSkip
    let inner ← gatherAll (· != '\x7d')
    if ← atEnd then failAt .escapeUnexpectedEnd
    else
      next
      return queryOf inner
  | some '\\' => failHere .classNameInvalid
  | some c =>
    nextSkip
    return .named (String.singleton c)

/-- What a primitive part of a pattern is, in a class or outside. -/
inductive Primitive where
  | literal (lit : Literal)
  | dot (span : Span)
  | look (span : Span) (look : Look)
  | short (span : Span) (kind : ShortClass) (negated : Bool)
  | query (span : Span) (query : ClassQuery) (negated : Bool)
  deriving Inhabited

def Primitive.span : Primitive → Span
  | .literal lit => lit.span
  | .dot s | .look s _ | .short s _ _ | .query s _ _ => s

def Primitive.toTree : Primitive → Tree
  | .literal lit => .literal lit
  | .dot s => .dot s
  | .look s l => .look s l
  | .short s k n => .short s k n
  | .query s q n => .query s q n

/-- The kind of word boundary that the text between braces names, if any. -/
def boundaryNamed? (name : List Char) : Option Look :=
  if name = "start".toList then some .wordStart
  else if name = "end".toList then some .wordStop
  else if name = "start-half".toList then some .wordStartHalf
  else if name = "end-half".toList then some .wordStopHalf
  else none

/-- The kind of a word boundary; the cursor is after its letter. A brace that holds no name is left
for a counted repetition. -/
def readBoundary (start : Nat) : Read Look := do
  if (← peek) ≠ some '\x7b' then return .boundary
  else
    let before ← get
    let isNameChar (c : Char) : Bool := c.isAlpha || c == '-'
    let brace ← offset
    nextSkip
    let contents ← offset
    match ← peek with
    | none => failFrom start .boundaryUnexpectedEnd
    | some c =>
      if !isNameChar c then
        set before
        return .boundary
      else
        let name ← gatherAll isNameChar
        if (← peek) ≠ some '\x7d' then failFrom brace .boundaryUnclosed
        else
          let stop ← offset
          next
          match boundaryNamed? name with
          | some l => return l
          | none => throw ⟨.boundaryUnrecognized, ⟨contents, stop⟩, none⟩

def controlEscape? : Char → Option Char
  | 'a' => some '\x07'
  | 'f' => some '\x0c'
  | 't' => some '\t'
  | 'n' => some '\n'
  | 'r' => some '\r'
  | 'v' => some '\x0b'
  | _ => none

/-- The condition that the escape of a character states, boundaries of words in braces apart. -/
def lookEscape? : Char → Option Look
  | 'A' => some .start
  | 'z' => some .stop
  | 'B' => some .notBoundary
  | '<' => some .wordStart
  | '>' => some .wordStop
  | _ => none

/-- The class that the escape of a letter stands for, and whether it is negated. -/
def shortEscape? : Char → Option (ShortClass × Bool)
  | 'd' => some (.digit, false)
  | 'D' => some (.digit, true)
  | 's' => some (.space, false)
  | 'S' => some (.space, true)
  | 'w' => some (.word, false)
  | 'W' => some (.word, true)
  | _ => none

/-- An escape; the cursor is at the backslash. -/
def readEscape : Read Primitive := do
  let start ← offset
  next
  match ← peek with
  | none => failFrom start .escapeUnexpectedEnd
  | some c =>
    if c.isDigit then
      next
      failFrom start .backreference
    else if c = 'x' ∨ c = 'u' ∨ c = 'U' then
      return .literal (← readHex start c)
    else if c = 'p' ∨ c = 'P' then
      let q ← readQuery
      return .query ⟨start, ← offset⟩ q (c = 'P')
    else
      next
      let span : Span := ⟨start, ← offset⟩
      if isEscapable c then return .literal ⟨span, c, false⟩
      else match controlEscape? c, lookEscape? c, shortEscape? c with
        | some d, _, _ => return .literal ⟨span, d, false⟩
        | none, some l, _ => return .look span l
        | none, none, some (kind, negated) => return .short span kind negated
        | none, none, none =>
          if c = 'b' then
            let l ← readBoundary start
            return .look ⟨start, ← offset⟩ l
          else failFrom start .escapeUnrecognized

def readPrimitive (c : Char) : Read Primitive := do
  let start ← offset
  let span : Span := ⟨start, start + 1⟩
  match c with
  | '\\' => readEscape
  | '.' => next; return .dot span
  | '^' => next; return .look span .lineStart
  | '$' => next; return .look span .lineStop
  | c => next; return .literal ⟨span, c, false⟩

/-! ### Classes -/

/-- What waits while a class is read: an open bracket with what came before it, or the left side of
an operation. -/
inductive ClassFrame where
  | opened (start : Nat) (stop : Nat) (negated : Bool) (unionStart : Nat)
      (before : List ClassTree)
  | pending (op : ClassOp) (left : ClassTree)
  deriving Inhabited

/-- A class being read: the frames below and the items of the current union, last first. -/
structure ClassState where
  frames : List ClassFrame
  unionStart : Nat
  items : List ClassTree
  deriving Inhabited

def innermostOpen : List ClassFrame → Span
  | [] => ⟨0, 0⟩
  | .opened start stop _ _ _ :: _ => ⟨start, stop⟩
  | .pending _ _ :: rest => innermostOpen rest

def failOpen {α : Type} (st : ClassState) : Read α :=
  throw ⟨.classUnclosed, innermostOpen st.frames, none⟩

def asciiClassNames : List String :=
  ["alnum", "alpha", "ascii", "blank", "cntrl", "digit", "graph", "lower", "print", "punct",
    "space", "upper", "word", "xdigit"]

/-- A named class at the front of the text: its name, its negation and its length. -/
def asciiClassAt? (s : List Char) : Option (String × Bool × Nat) :=
  match s with
  | '[' :: ':' :: r =>
    let (negated, r) := match r with
      | '^' :: r => (true, r)
      | r => (false, r)
    let name := r.takeWhile (· != ':')
    match r.dropWhile (· != ':') with
    | ':' :: ']' :: _ =>
      if asciiClassNames.contains (String.ofList name) then
        some (String.ofList name, negated, name.length + (if negated then 5 else 4))
      else none
    | _ => none
  | _ => none

/-- Literal hyphens right after the opening of a class. -/
def readHyphens (start : Nat) : Nat → Read (List ClassTree)
  | 0 => return []
  | fuel + 1 => do
    if (← peek) = some '-' then
      let n ← offset
      nextSkip
      if ← atEnd then throw ⟨.classUnclosed, ⟨start, start⟩, none⟩
      else return .literal ⟨⟨n, n + 1⟩, '-', false⟩ :: (← readHyphens start fuel)
    else return []

/-- The opening of a class, with a negation, hyphens and a bracket that stand for themselves. -/
def readClassOpen (st : ClassState) : Read ClassState := do
  let start ← offset
  nextSkip
  if ← atEnd then failFrom start .classUnclosed
  let negated := (← peek) == some '^'
  if negated then
    nextSkip
    if ← atEnd then failFrom start .classUnclosed
  let unionStart ← offset
  let hyphens ← readHyphens start (← get).rest.length
  let items ←
    if hyphens.isEmpty ∧ (← peek) = some ']' then
      let n ← offset
      nextSkip
      if ← atEnd then failFrom start .classUnclosed
      else pure [ClassTree.literal ⟨⟨n, n + 1⟩, ']', false⟩]
    else pure hyphens
  let frame := ClassFrame.opened start (← offset) negated st.unionStart st.items
  return ⟨frame :: st.frames, unionStart, items.reverse⟩

def ClassState.unionHere (st : ClassState) (stop : Nat) : ClassTree :=
  .ofUnion ⟨st.unionStart, stop⟩ st.items.reverse

/-- The operation that waits, applied to its right side. -/
def applyPending (right : ClassTree) (start stop : Nat) :
    List ClassFrame → ClassTree × List ClassFrame
  | .pending op left :: rest => (.op ⟨start, stop⟩ op left right, rest)
  | frames => (right, frames)

def readClassItem (c : Char) : Read Primitive := do
  if c = '\\' then readEscape
  else
    let n ← offset
    next
    return .literal ⟨⟨n, n + 1⟩, c, false⟩

def Primitive.toClass (p : Primitive) : Read ClassTree :=
  match p with
  | .literal lit => return .literal lit
  | .short s k n => return .short s k n
  | .query s q n => return .query s q n
  | p => throw ⟨.classEscapeInvalid, p.span, none⟩

def Primitive.toLiteral (p : Primitive) : Read Literal :=
  match p with
  | .literal lit => return lit
  | p => throw ⟨.classRangeLiteral, p.span, none⟩

def readClassRange (st : ClassState) (c : Char) : Read ClassTree := do
  let first ← readClassItem c
  skip
  if ← atEnd then failOpen st
  else
    let after := (← get).afterCurrent
    if (← peek) ≠ some '-' ∨ after = some ']' ∨ after = some '-' then first.toClass
    else
      nextSkip
      match ← peek with
      | none => failOpen st
      | some c =>
        let second ← readClassItem c
        let span : Span := ⟨first.span.start, second.span.stop⟩
        let low ← first.toLiteral
        let high ← second.toLiteral
        if high.char < low.char then throw ⟨.classRangeInvalid, span, none⟩
        else return .range span low high

def readClassOp : Read (Option ClassOp) := do
  if ← nextIf ['&', '&'] then return some .intersection
  else if ← nextIf ['-', '-'] then return some .difference
  else if ← nextIf ['~', '~'] then return some .symmetricDifference
  else return none

/-- Closes the innermost bracket; the cursor is at its end. The outermost class is the answer. -/
def closeClass (st : ClassState) : Read (ClassState ⊕ Tree) := do
  let stop ← offset
  let (inner, frames) := applyPending (st.unionHere stop) st.unionStart stop st.frames
  next
  match frames with
  | .opened start _ negated unionStart before :: rest =>
    let span : Span := ⟨start, ← offset⟩
    if rest.isEmpty then return .inr (.bracket span negated inner)
    else return .inl ⟨rest, unionStart, .bracket span negated inner :: before⟩
  | _ => return .inr .empty

def readClassLoop : Nat → ClassState → Read Tree
  | 0, st => failOpen st
  | fuel + 1, st => do
    skip
    match ← peek with
    | none => failOpen st
    | some '[' =>
      let rest := (← get).rest
      match (if st.frames.isEmpty then none else asciiClassAt? rest) with
      | some (name, negated, length) =>
        modify fun c => { c with rest := c.rest.drop length, offset := c.offset + length }
        readClassLoop fuel { st with items := .ascii name negated :: st.items }
      | none => readClassLoop fuel (← readClassOpen st)
    | some ']' =>
      match ← closeClass st with
      | .inl st => readClassLoop fuel st
      | .inr tree => return tree
    | some c =>
      let here ← offset
      match ← readClassOp with
      | some op =>
        let (left, frames) :=
          applyPending (st.unionHere here) st.unionStart here st.frames
        readClassLoop fuel ⟨.pending op left :: frames, ← offset, []⟩
      | none =>
        let item ← readClassRange st c
        readClassLoop fuel { st with items := item :: st.items }

/-- A class in brackets; the cursor is at the first bracket. -/
def readClass : Read Tree := do
  readClassLoop ((← get).rest.length + 1) ⟨[], ← offset, []⟩

/-! ### Groups -/

def flagOf? : Char → Option Flag
  | 'i' => some .ignoreCase
  | 'm' => some .multiLine
  | 's' => some .dotMatchesNewLine
  | 'U' => some .swapGreed
  | 'u' => some .unicode
  | 'R' => some .carriageReturn
  | 'x' => some .ignoreSpace
  | _ => none

/-- A list of flags with their places, up to the colon or the parenthesis after it. -/
def readFlagItems : Nat → List (FlagItem × Nat) → Read (List (FlagItem × Nat))
  | 0, _ => failAt .flagUnexpectedEnd
  | fuel + 1, items => do
    match ← peek with
    | none => failAt .flagUnexpectedEnd
    | some c =>
      if c = ':' ∨ c = ')' then
        match items.getLast? with
        | some (.negation, n) => throw ⟨.flagDanglingNegation, ⟨n, n + 1⟩, none⟩
        | _ => return items
      else
        let n ← offset
        let item ←
          if c = '-' then pure FlagItem.negation
          else match flagOf? c with
            | some f => pure (.flag f)
            | none => failHere .flagUnrecognized
        match items.find? (·.1 == item) with
        | some (_, m) =>
          let cause := if item = .negation then Cause.flagRepeatedNegation else .flagDuplicate
          throw ⟨cause, ⟨n, n + 1⟩, some ⟨m, m + 1⟩⟩
        | none =>
          next
          readFlagItems fuel (items ++ [(item, n)])

def isLetter (c : Char) : Bool :=
  c.isAlpha || (0x80 ≤ c.toNat && ((Property.ofName? "alphabetic").getD .empty).contains c)

def isLetterOrNumber (c : Char) : Bool :=
  isLetter c || c.isDigit || (0x80 ≤ c.toNat && (Category.union ["nd", "nl", "no"]).contains c)

/-- A character that the name of a group may hold, `first` at its front. -/
def isGroupNameChar (c : Char) (first : Bool) : Bool :=
  if first then c == '_' || isLetter c
  else c == '_' || c == '.' || c == '[' || c == ']' || isLetterOrNumber c

def readGroupName : Nat → Bool → Read (List Char)
  | 0, _ => failAt .groupNameUnexpectedEnd
  | fuel + 1, first => do
    match ← peek with
    | none => failAt .groupNameUnexpectedEnd
    | some c =>
      if c = '>' then return []
      else if isGroupNameChar c first then
        next
        return c :: (← readGroupName fuel false)
      else failHere .groupNameInvalid

/-- The kinds of groups: with flags of their own, or looking around. -/
inductive GroupKind where
  | plain (flags : List FlagItem)
  | around (around : Around)
  deriving Inhabited

def GroupKind.flags : GroupKind → List FlagItem
  | .plain flags => flags
  | .around _ => []

def GroupKind.toTree (span : Span) (body : Tree) : GroupKind → Tree
  | .plain flags => .group span flags body
  | .around a => .around span a body

/-- What the opening of a group is: flags for what follows, or a group. -/
inductive Opening where
  | flags (items : List FlagItem)
  | group (kind : GroupKind)

/-- Passes the sign of a group that looks around, if one stands here. -/
def readAround : Read (Option Around) := do
  if ← nextIf ['?', '='] then return some ⟨true, false⟩
  else if ← nextIf ['?', '!'] then return some ⟨true, true⟩
  else if ← nextIf ['?', '<', '='] then return some ⟨false, false⟩
  else if ← nextIf ['?', '<', '!'] then return some ⟨false, true⟩
  else return none

/-- The opening of a group; the cursor is at the parenthesis. `names` are the names of the groups
before, with their places; the answer has the new name added. -/
def readOpening (names : List (List Char × Span)) :
    Read (Opening × List (List Char × Span)) := do
  let start ← offset
  next
  skip
  let inner ← offset
  if let some a ← readAround then
    if (← get).looksAround then return (.group (.around a), names)
    else failFrom start .lookAround
  let isNamed ← do
    if ← nextIf ['?', 'P', '<'] then pure true else nextIf ['?', '<']
  if isNamed then
    let nameStart ← offset
    let name ← readGroupName ((← get).rest.length + 1) true
    let span : Span := ⟨nameStart, ← offset⟩
    next
    if name.isEmpty then throw ⟨.groupNameEmpty, ⟨nameStart, nameStart⟩, none⟩
    match names.find? (·.1 == name) with
    | some (_, first) => throw ⟨.groupNameDuplicate, span, some first⟩
    | none => return (.group (.plain []), (name, span) :: names)
  else if ← nextIf ['?'] then
    if ← atEnd then throw ⟨.groupUnclosed, ⟨start, start + 1⟩, none⟩
    let items ← readFlagItems ((← get).rest.length + 1) []
    let closed := (← peek) == some ')'
    next
    if closed then
      if items.isEmpty then throw ⟨.repetitionMissing, ⟨inner, inner⟩, none⟩
      else return (.flags (items.map (·.1)), names)
    else return (.group (.plain (items.map (·.1))), names)
  else return (.group (.plain []), names)

/-! ### The pattern -/

/-- Parts one after another, the last first, from a place on. -/
structure Run where
  start : Nat
  items : List Tree
  deriving Inhabited

def Run.close (r : Run) (stop : Nat) : Tree := .ofSeq ⟨r.start, stop⟩ r.items.reverse

/-- What waits while a pattern is read: an open group with the run before it, or the alternatives
before the current one, the last first. -/
inductive Frame where
  | group (before : Run) (start : Nat) (kind : GroupKind) (spaced : Bool)
  | alternatives (start : Nat) (items : List Tree)
  deriving Inhabited

structure State where
  frames : List Frame
  run : Run
  names : List (List Char × Span)
  deriving Inhabited

def readCount : Read (Except Fault Nat) := do
  modify fun c =>
    let blanks := c.rest.takeWhile isBlank
    { c with rest := c.rest.drop blanks.length, offset := c.offset + blanks.length }
  let start ← offset
  let digits ← gatherAll Char.isDigit
  let span : Span := ⟨start, ← offset⟩
  let _ ← gatherAll isBlank
  if digits.isEmpty then return .error ⟨.countEmpty, span, none⟩
  else
    let n := digits.foldl (fun n c => n * 10 + (c.toNat - 48)) 0
    if n < Nat.pow 2 32 then return .ok n else return .error ⟨.countNotNumber, span, none⟩

/-- The last part of a run, which a repetition takes. -/
def takeRepeated (r : Run) : Read (Tree × Run) := do
  match r.items with
  | .empty :: _ => failAt .repetitionMissing
  | .flags _ :: _ => failAt .repetitionMissing
  | item :: rest => return (item, ⟨r.start, rest⟩)
  | [] => failAt .repetitionMissing

def Tree.start : Tree → Nat
  | .empty | .flags _ => 0
  | .literal lit => lit.span.start
  | .dot s | .look s _ | .short s _ _ | .query s _ _ | .bracket s _ _ => s.start
  | .repeated s _ _ _ | .group s _ _ | .around s _ _ | .alt s _ | .seq s _ => s.start

def pushRepeated (item : Tree) (r : Run) (least : Nat) (most : Option Nat) : Read Run := do
  return { r with items := .repeated ⟨item.start, ← offset⟩ least most item :: r.items }

/-- A repetition by `?`, `*` or `+`; the cursor is at the sign. -/
def readRepetition (r : Run) (least : Nat) (most : Option Nat) : Read Run := do
  let (item, r) ← takeRepeated r
  next
  let _ ← nextIf ['?']
  pushRepeated item r least most

/-- A repetition by counts in braces; the cursor is at the opening brace. -/
def readCounted (r : Run) : Read Run := do
  let start ← offset
  let (item, r) ← takeRepeated r
  nextSkip
  if ← atEnd then failFrom start .countUnclosed
  let first ← readCount
  if ← atEnd then failFrom start .countUnclosed
  let (least, most) ←
    if (← peek) = some ',' then do
      nextSkip
      if ← atEnd then failFrom start .countUnclosed
      let least ← liftM first
      if (← peek) = some '\x7d' then pure (least, none)
      else
        let most ← liftM (← readCount)
        pure (least, some most)
    else do
      let n ← liftM first
      pure (n, some n)
  if (← peek) ≠ some '\x7d' then failFrom start .countUnclosed
  nextSkip
  let _ ← nextIf ['?']
  if most.any (· < least) then failFrom start .countInvalid
  pushRepeated item r least most

/-- Opens a group or sets flags; the cursor is at the parenthesis. -/
def openGroup (st : State) : Read State := do
  let start ← offset
  let (opening, names) ← readOpening st.names
  match opening with
  | .flags items =>
    match flagState .ignoreSpace items false with
    | some on => modify fun c => { c with spaced := on }
    | none => pure ()
    return { st with names, run := { st.run with items := .flags items :: st.run.items } }
  | .group kind =>
    let spaced := (← get).spaced
    modify fun c => { c with spaced := (flagState .ignoreSpace kind.flags false).getD spaced }
    return ⟨.group st.run start kind spaced :: st.frames, ⟨← offset, []⟩, names⟩

/-- Ends one alternative and begins the next; the cursor is at the bar. -/
def nextAlternative (st : State) : Read State := do
  let here ← offset
  next
  let item := st.run.close here
  let run : Run := ⟨← offset, []⟩
  match st.frames with
  | .alternatives start items :: rest =>
    return { st with frames := .alternatives start (item :: items) :: rest, run }
  | frames => return { st with frames := .alternatives st.run.start [item] :: frames, run }

/-- The current run with the alternatives before it as one part, and the frames below. -/
def State.body (st : State) (stop : Nat) : Tree × List Frame :=
  match st.frames with
  | .alternatives start items :: rest =>
    (.alt ⟨start, stop⟩ (items.reverse ++ [st.run.close stop]), rest)
  | frames => (st.run.close stop, frames)

/-- Closes the innermost group; the cursor is at the parenthesis. -/
def closeGroup (st : State) : Read State := do
  let (body, frames) := st.body (← offset)
  match frames with
  | .group before start kind spaced :: rest =>
    next
    modify fun c => { c with spaced }
    let group := kind.toTree ⟨start, ← offset⟩ body
    return { st with frames := rest, run := { before with items := group :: before.items } }
  | _ => failHere .groupUnopened

def readLoop : Nat → State → Read Tree
  | 0, st => do return (st.body (← offset)).1
  | fuel + 1, st => do
    skip
    match ← peek with
    | none =>
      let (body, frames) := st.body (← offset)
      match frames with
      | .group _ start _ _ :: _ => throw ⟨.groupUnclosed, ⟨start, start + 1⟩, none⟩
      | _ => return body
    | some '(' => readLoop fuel (← openGroup st)
    | some ')' => readLoop fuel (← closeGroup st)
    | some '|' => readLoop fuel (← nextAlternative st)
    | some '?' => readLoop fuel { st with run := ← readRepetition st.run 0 (some 1) }
    | some '*' => readLoop fuel { st with run := ← readRepetition st.run 0 none }
    | some '+' => readLoop fuel { st with run := ← readRepetition st.run 1 none }
    | some '\x7b' => readLoop fuel { st with run := ← readCounted st.run }
    | some '[' =>
      let tree ← readClass
      readLoop fuel { st with run := { st.run with items := tree :: st.run.items } }
    | some c =>
      let item ← readPrimitive c
      readLoop fuel { st with run := { st.run with items := item.toTree :: st.run.items } }

def nestLimit : Nat := 250

/-- The parts of a pattern, whose groups may look around if `looksAround`. -/
def Tree.ofText (pattern : String) (looksAround : Bool) : Except Fault Tree := do
  let chars := pattern.toList
  let tree ← (readLoop (chars.length + 1) ⟨[], ⟨0, []⟩, []⟩).run' ⟨chars, 0, false, looksAround⟩
  match tree.tooDeep nestLimit with
  | some span => throw ⟨.nestLimitExceeded nestLimit, span, none⟩
  | none => return tree

end Regex
end CallCheck
