import CallCheck.Yaml.Fault
import CallCheck.Json.Writer

/-!
# A text being read

`Source` is what is left of a text with the place it begins at. A line break is one character or a
carriage return with a line feed; reading one gives a line feed, except for the separators of lines
and paragraphs, which stay what they are.
-/

namespace CallCheck
namespace Yaml

def isBreak (c : Char) : Bool :=
  c == '\r' || c == '\n' || c == '\x85' || c == '\u2028' || c == '\u2029'

/-- A space or a tab. -/
def isSpace (c : Char) : Bool := c == ' ' || c == '\t'

/-- A character of a name: an ASCII letter or digit, an underscore or a hyphen. -/
def isNameChar (c : Char) : Bool := c.isAlphanum || c == '_' || c == '-'

structure Source where
  rest : List Char
  mark : Mark
  deriving Inhabited

namespace Source

def ahead (s : Source) (n : Nat) : Option Char := (s.rest.drop n).head?

def head? (s : Source) : Option Char := s.rest.head?

def startsWith (s : Source) (c : Char) : Bool := s.head? == some c

/-- Whether a line or the text ends `n` places ahead. -/
def breaksAt (s : Source) (n : Nat) : Bool :=
  match s.ahead n with
  | none => true
  | some c => isBreak c

def spaceOrEndAt (s : Source) (n : Nat) : Bool :=
  match s.ahead n with
  | none => true
  | some c => isSpace c || isBreak c

def atBreak (s : Source) : Bool := s.head?.any isBreak

def atSpace (s : Source) : Bool := s.head?.any isSpace

/-- Whether three of a character at the first column stand alone. -/
def atIndicator (s : Source) (c : Char) : Bool :=
  s.mark.column == 0 && [c, c, c].isPrefixOf s.rest && s.spaceOrEndAt 3

def atDocumentIndicator (s : Source) : Bool := s.atIndicator '-' || s.atIndicator '.'

/-- One character further on the same line. -/
def next (s : Source) : Source :=
  match s.rest with
  | [] => s
  | _ :: r => ⟨r, ⟨s.mark.index + 1, s.mark.line, s.mark.column + 1⟩⟩

def skip : Nat → Source → Source
  | 0, s => s
  | n + 1, s => skip n s.next

def nextLine (s : Source) : Source :=
  match s.rest with
  | '\r' :: '\n' :: r => ⟨r, ⟨s.mark.index + 2, s.mark.line + 1, 0⟩⟩
  | c :: r => if isBreak c then ⟨r, ⟨s.mark.index + 1, s.mark.line + 1, 0⟩⟩ else s
  | [] => s

/-- What a line break at this place is read as. -/
def breakText (s : Source) : List Char :=
  match s.rest with
  | [] => []
  | c :: _ =>
    if c == '\u2028' || c == '\u2029' then [c] else if isBreak c then ['\n'] else []

/-- The characters of the line from here on for which `p` holds, and what follows them. -/
def span (p : Char → Bool) (s : Source) : List Char × Source :=
  let word := s.rest.takeWhile p
  let n := word.length
  (word, ⟨s.rest.drop n, ⟨s.mark.index + n, s.mark.line, s.mark.column + n⟩⟩)

def skipWhile (p : Char → Bool) (s : Source) : Source := (s.span p).2

def skipSpaces (s : Source) : Source := s.skipWhile isSpace

def skipComment (s : Source) : Source :=
  if s.startsWith '#' then s.skipWhile (!isBreak ·) else s

end Source

/-! ### Characters that a text may hold -/

def isAllowed (c : Char) : Bool :=
  let n := c.toNat
  n == 0x09 || n == 0x0A || n == 0x0D || (0x20 ≤ n && n ≤ 0x7E) || n == 0x85
    || (0xA0 ≤ n && n ≤ 0xD7FF) || (0xE000 ≤ n && n ≤ 0xFFFD) || 0x10000 ≤ n

/-- The bytes before the first character that a text may not hold, of which `n` are passed. -/
def controlPosition? (n : Nat) : List Char → Option Nat
  | [] => none
  | c :: rest => if isAllowed c then controlPosition? (n + c.utf8Size) rest else some n

/-- A text as a source, without a byte order mark at its beginning. -/
def Source.ofText (text : String) : Except TextFault Source :=
  let (chars, n) := match text.toList with
    | '\ufeff' :: r => (r, 3)
    | r => (r, 0)
  match controlPosition? n chars with
  | some position => .error (.control position)
  | none => .ok ⟨chars, .start⟩

end Yaml
end CallCheck
