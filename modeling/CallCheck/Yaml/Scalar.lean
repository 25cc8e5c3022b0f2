import CallCheck.Yaml.Source
import CallCheck.Json.Reader

/-!
# Scalars

The four ways of writing a text: plain, between single or double quotes, and as a block. Within a
scalar of several lines, one line break between two lines is read as a space and of several the
first is dropped; a literal block keeps them all.
-/

namespace CallCheck
namespace Yaml

inductive ScalarStyle where
  | plain
  | singleQuoted
  | doubleQuoted
  | literal
  | folded
  deriving DecidableEq, Inhabited

def refuse {α : Type} (s : Source) (activity : Activity) (began : Mark) (problem : Problem) :
    Except TextFault α :=
  .error (.problem problem s.mark (some (activity, began)))

/-- The gap between two pieces of a scalar: the spaces on one line, or the first line break and the
breaks after it. -/
structure Gap where
  spaces : List Char := []
  first : List Char := []
  more : List Char := []
  broken : Bool := false
  deriving Inhabited

def Gap.text (g : Gap) : List Char :=
  if !g.broken then g.spaces
  else if g.first.head? == some '\n' then (if g.more.isEmpty then [' '] else g.more)
  else g.first ++ g.more

/-- Reads spaces and line breaks into a gap. `tab` is asked at every tab that stands at the
beginning of a line whether it is refused. -/
def readGap (tab : Source → Except TextFault Unit) :
    Nat → Gap → Source → Except TextFault (Gap × Source)
  | 0, g, s => .ok (g, s)
  | fuel + 1, g, s =>
    match s.head? with
    | some c =>
      if isSpace c then do
        if g.broken then
          if c = '\t' then tab s
          readGap tab fuel g s.next
        else readGap tab fuel { g with spaces := g.spaces ++ [c] } s.next
      else if isBreak c then
        if g.broken then readGap tab fuel { g with more := g.more ++ s.breakText } s.nextLine
        else readGap tab fuel { g with spaces := [], first := s.breakText, broken := true }
          s.nextLine
      else .ok (g, s)
    | none => .ok (g, s)

/-! ### Plain scalars -/

/-- The characters that end a plain scalar in a flow collection. -/
def isFlowIndicator (c : Char) : Bool :=
  c == ',' || c == '[' || c == ']' || c == '\x7b' || c == '\x7d'

/-- One piece of a plain scalar, up to a space, an end or an indicator. -/
def readPlainPiece (flow : Bool) (began : Mark) :
    Nat → Source → Except TextFault (List Char × Source)
  | 0, s => .ok ([], s)
  | fuel + 1, s =>
    match s.head? with
    | none => .ok ([], s)
    | some c =>
      if isSpace c || isBreak c then .ok ([], s)
      else if flow && c == ':' && (s.ahead 1).any (fun d => isFlowIndicator d || d == '?') then
        refuse s .plainScalar began .colonUnexpected
      else if (c == ':' && s.spaceOrEndAt 1) || (flow && isFlowIndicator c) then .ok ([], s)
      else do
        let (piece, s) ← readPlainPiece flow began fuel s.next
        return (c :: piece, s)

/-- The pieces of a plain scalar with the gaps between them, its last mark, and whether a line
break was read after it. `gap` is the gap before the next piece. -/
def readPlainPieces (flow : Bool) (indent : Nat) (began : Mark) :
    Nat → Gap → Source → Except TextFault (List Char × Source × Bool)
  | 0, g, s => .ok ([], s, g.broken)
  | fuel + 1, g, s => do
    if s.atDocumentIndicator || s.startsWith '#' then return ([], s, g.broken)
    let (piece, s) ← readPlainPiece flow began (s.rest.length + 1) s
    let broken := g.broken && piece.isEmpty
    let text := if piece.isEmpty then [] else g.text ++ piece
    if !(s.atSpace || s.atBreak) then return (text, s, broken)
    let g := if piece.isEmpty then g else {}
    let tab (s : Source) : Except TextFault Unit :=
      if s.mark.column < indent then refuse s .plainScalar began .tabInIndentation else .ok ()
    let (g, s) ← readGap tab (s.rest.length + 1) g s
    if !flow && s.mark.column < indent then return (text, s, g.broken)
    let (more, s, broken) ← readPlainPieces flow indent began fuel g s
    return (text ++ more, s, broken)

/-- A plain scalar: its text, what follows, and whether a line break was read after it. -/
def readPlain (flow : Bool) (indent : Nat) (s : Source) :
    Except TextFault (List Char × Source × Bool) :=
  readPlainPieces flow indent s.mark (s.rest.length + 1) {} s

/-! ### Quoted scalars -/

def escapedChar? : Char → Option Char
  | '0' => some '\x00'
  | 'a' => some '\x07'
  | 'b' => some '\x08'
  | 't' => some '\t'
  | '\t' => some '\t'
  | 'n' => some '\n'
  | 'v' => some '\x0b'
  | 'f' => some '\x0c'
  | 'r' => some '\r'
  | 'e' => some '\x1b'
  | ' ' => some ' '
  | '"' => some '"'
  | '/' => some '/'
  | '\\' => some '\\'
  | 'N' => some '\x85'
  | '_' => some '\xa0'
  | 'L' => some '\u2028'
  | 'P' => some '\u2029'
  | _ => none

/-- How many hexadecimal digits follow a letter of an escape. -/
def escapeWidth? : Char → Option Nat
  | 'x' => some 2
  | 'u' => some 4
  | 'U' => some 8
  | _ => none

def hexAhead? (s : Source) (n : Nat) : Option Nat :=
  let digits := s.rest.take n
  if digits.length < n then none
  else digits.foldlM (fun v c => (Json.hexValue? c).map (v * 16 + ·)) 0

/-- An escape; the source is at the backslash. -/
def readEscape (began : Mark) (s : Source) : Except TextFault (Char × Source) :=
  match s.ahead 1 with
  | none => refuse s .quotedEscape began .escapeUnknown
  | some c =>
    match escapedChar? c, escapeWidth? c with
    | some d, _ => .ok (d, s.skip 2)
    | none, some width =>
      let s := s.skip 2
      match hexAhead? s width with
      | none => refuse s .quotedEscape began .escapeDigitsExpected
      | some n =>
        if n < 0xD800 ∨ (0xDFFF < n ∧ n < 0x110000) then .ok (Char.ofNat n, s.skip width)
        else refuse s .quotedEscape began .escapeCodeInvalid
    | none, none => refuse s .quotedEscape began .escapeUnknown

/-- One piece of a quoted scalar, up to a space, an end or the closing quote, and whether it ends
with an escaped line break. -/
def readQuotedPiece (single : Bool) (began : Mark) :
    Nat → Source → Except TextFault (List Char × Source × Bool)
  | 0, s => .ok ([], s, false)
  | fuel + 1, s =>
    match s.head? with
    | none => .ok ([], s, false)
    | some c =>
      if isSpace c || isBreak c then .ok ([], s, false)
      else if single && c == '\'' && s.ahead 1 == some '\'' then do
        let (piece, s, joined) ← readQuotedPiece single began fuel (s.skip 2)
        return ('\'' :: piece, s, joined)
      else if c == (if single then '\'' else '"') then .ok ([], s, false)
      else if !single && c == '\\' && (s.ahead 1).any isBreak then
        .ok ([], s.next.nextLine, true)
      else if !single && c == '\\' then do
        let (d, s) ← readEscape began s
        let (piece, s, joined) ← readQuotedPiece single began fuel s
        return (d :: piece, s, joined)
      else do
        let (piece, s, joined) ← readQuotedPiece single began fuel s.next
        return (c :: piece, s, joined)

/-- The pieces of a quoted scalar with the gaps between them; the source is inside the quotes. -/
def readQuotedPieces (single : Bool) (began : Mark) :
    Nat → Source → Except TextFault (List Char × Source)
  | 0, s => refuse s .quotedScalar began .endUnexpected
  | fuel + 1, s => do
    if s.atDocumentIndicator then
      refuse s .quotedScalar began .documentIndicatorUnexpected
    if s.rest.isEmpty then refuse s .quotedScalar began .endUnexpected
    let (piece, s, joined) ← readQuotedPiece single began (s.rest.length + 1) s
    if s.startsWith (if single then '\'' else '"') then return (piece, s.next)
    let (g, s) ← readGap (fun _ => .ok ()) (s.rest.length + 1) { broken := joined } s
    let (more, s) ← readQuotedPieces single began fuel s
    return (piece ++ g.text ++ more, s)

def readQuoted (single : Bool) (s : Source) : Except TextFault (List Char × Source) :=
  readQuotedPieces single s.mark (s.rest.length + 1) s.next

/-! ### Block scalars -/

/-- What happens to the line breaks at the end of a block. -/
inductive Chomping where
  | clip
  | strip
  | keep
  deriving DecidableEq, Inhabited

/-- Spaces of indentation and empty lines before the next line of a block. `indent` is zero while
the indentation is still to be found; `widest` is the widest one seen. -/
def readBlockBreaks (indent : Nat) (began : Mark) :
    Nat → Nat → Source → Except TextFault (List Char × Nat × Source)
  | 0, widest, s => .ok ([], widest, s)
  | fuel + 1, widest, s => do
    let room := if indent = 0 then s.rest.length else indent - s.mark.column
    let spaces := ((s.rest.take room).takeWhile (· == ' ')).length
    let s := s.skip spaces
    let widest := max widest s.mark.column
    if (indent = 0 ∨ s.mark.column < indent) ∧ s.startsWith '\t' then
      refuse s .blockScalar began .tabInBlockScalar
    if s.atBreak then
      let (more, widest, after) ← readBlockBreaks indent began fuel widest s.nextLine
      return (s.breakText ++ more, widest, after)
    return ([], widest, s)

/-- The lines of a block from a first one at the indentation. `first` and `more` are the line break
before it and the breaks after that one; `blank` when the line before began with a space. The answer
holds the text, the breaks that are left over, and what follows. -/
def readBlockLines (literal : Bool) (indent : Nat) (began : Mark) :
    Nat → List Char → List Char → Bool → Source →
      Except TextFault (List Char × List Char × List Char × Source)
  | 0, first, more, _, s => .ok ([], first, more, s)
  | fuel + 1, first, more, blank, s => do
    if s.mark.column ≠ indent ∨ s.rest.isEmpty then return ([], first, more, s)
    let startsBlank := s.atSpace
    let gap :=
      if !literal && first.head? == some '\n' && !blank && !startsBlank then
        (if more.isEmpty then [' '] else []) ++ more
      else first ++ more
    let (line, s) := s.span (!isBreak ·)
    let ending := s.breakText
    let (breaks, _, s) ← readBlockBreaks indent began (s.rest.length + 1) 0 s.nextLine
    let (text, first, more, s) ←
      readBlockLines literal indent began fuel ending breaks startsBlank s
    return (gap ++ line ++ text, first, more, s)

/-- The signs after the sign of a block: how its end is chomped, and the indentation if it is
given. -/
def readBlockHeader (began : Mark) (s : Source) :
    Except TextFault (Chomping × Nat × Source) := do
  let chomping? (s : Source) : Option Chomping :=
    if s.startsWith '+' then some .keep else if s.startsWith '-' then some .strip else none
  let increment (s : Source) : Except TextFault (Nat × Source) :=
    match s.head? with
    | some c =>
      if c = '0' then refuse s .blockScalar began .indentationZero
      else if c.isDigit then .ok (c.toNat - 48, s.next) else .ok (0, s)
    | none => .ok (0, s)
  match chomping? s with
  | some chomping =>
    let (n, s) ← increment s.next
    return (chomping, n, s)
  | none =>
    let (n, s) ← increment s
    match (if n = 0 then none else chomping? s) with
    | some chomping => return (chomping, n, s.next)
    | none => return (.clip, n, s)

/-- A block scalar; the source is at its sign. `parent` is the indentation around it, if any. -/
def readBlock (literal : Bool) (parent : Option Nat) (s : Source) :
    Except TextFault (List Char × Source) := do
  let began := s.mark
  let (chomping, increment, s) ← readBlockHeader began s.next
  let s := s.skipSpaces.skipComment
  if !s.breaksAt 0 then refuse s .blockScalar began .commentOrBreakExpected
  let s := s.nextLine
  let given := if increment = 0 then 0 else parent.getD 0 + increment
  let (breaks, widest, s) ← readBlockBreaks given began (s.rest.length + 1) 0 s
  let least := match parent with
    | some n => n + 1
    | none => 0
  let indent := if given = 0 then max (max widest least) 1 else given
  let (text, first, more, s) ←
    readBlockLines literal indent began (s.rest.length + 1) [] breaks false s
  let tail := match chomping with
    | .strip => []
    | .clip => first
    | .keep => first ++ more
  return (text ++ tail, s)

end Yaml
end CallCheck
