/-!
# Faults of patterns

Why the text of a pattern is no pattern, where, and how that is shown: the pattern with the place
marked below it, then the reason. A pattern of several lines is shown between rules with its lines
numbered.
-/

namespace CallCheck
namespace Regex

/-- A stretch of a pattern, by the number of characters before its ends. -/
structure Span where
  start : Nat
  stop : Nat
  deriving DecidableEq, Inhabited

inductive Cause where
  | classEscapeInvalid
  | classRangeInvalid
  | classRangeLiteral
  | classUnclosed
  | countEmpty
  | countInvalid
  | countNotNumber
  | countUnclosed
  | escapeHexEmpty
  | escapeHexInvalid
  | escapeHexInvalidDigit
  | escapeUnexpectedEnd
  | escapeUnrecognized
  | flagDanglingNegation
  | flagDuplicate
  | flagRepeatedNegation
  | flagUnexpectedEnd
  | flagUnrecognized
  | groupNameDuplicate
  | groupNameEmpty
  | groupNameInvalid
  | groupNameUnexpectedEnd
  | groupUnclosed
  | groupUnopened
  | nestLimitExceeded (limit : Nat)
  | repetitionMissing
  | boundaryUnclosed
  | boundaryUnrecognized
  | boundaryUnexpectedEnd
  | classNameInvalid
  | backreference
  | lookAround
  | unicodeNotAllowed
  | invalidUtf8
  | propertyNotFound
  | propertyValueNotFound
  | tooLarge (limit : Nat)
  deriving DecidableEq, Inhabited

def Cause.message : Cause → String
  | .classEscapeInvalid => "invalid escape sequence found in character class"
  | .classRangeInvalid => "invalid character class range, the start must be <= the end"
  | .classRangeLiteral => "invalid range boundary, must be a literal"
  | .classUnclosed => "unclosed character class"
  | .countEmpty => "repetition quantifier expects a valid decimal"
  | .countInvalid => "invalid repetition count range, the start must be <= the end"
  | .countNotNumber => "decimal literal invalid"
  | .countUnclosed => "unclosed counted repetition"
  | .escapeHexEmpty => "hexadecimal literal empty"
  | .escapeHexInvalid => "hexadecimal literal is not a Unicode scalar value"
  | .escapeHexInvalidDigit => "invalid hexadecimal digit"
  | .escapeUnexpectedEnd => "incomplete escape sequence, reached end of pattern prematurely"
  | .escapeUnrecognized => "unrecognized escape sequence"
  | .flagDanglingNegation => "dangling flag negation operator"
  | .flagDuplicate => "duplicate flag"
  | .flagRepeatedNegation => "flag negation operator repeated"
  | .flagUnexpectedEnd => "expected flag but got end of regex"
  | .flagUnrecognized => "unrecognized flag"
  | .groupNameDuplicate => "duplicate capture group name"
  | .groupNameEmpty => "empty capture group name"
  | .groupNameInvalid => "invalid capture group character"
  | .groupNameUnexpectedEnd => "unclosed capture group name"
  | .groupUnclosed => "unclosed group"
  | .groupUnopened => "unopened group"
  | .nestLimitExceeded limit =>
    "exceed the maximum number of nested parentheses/brackets (" ++ toString limit ++ ")"
  | .repetitionMissing => "repetition operator missing expression"
  | .boundaryUnclosed =>
    "special word boundary assertion is either unclosed or contains an invalid character"
  | .boundaryUnrecognized =>
    "unrecognized special word boundary assertion, valid choices are: start, end, start-half " ++
      "or end-half"
  | .boundaryUnexpectedEnd =>
    "found either the beginning of a special word boundary or a bounded repetition on a \\b with " ++
      "an opening brace, but no closing brace"
  | .classNameInvalid => "invalid Unicode character class"
  | .backreference => "backreferences are not supported"
  | .lookAround => "look-around, including look-ahead and look-behind, is not supported"
  | .unicodeNotAllowed => "Unicode not allowed here"
  | .invalidUtf8 => "pattern can match invalid UTF-8"
  | .propertyNotFound => "Unicode property not found"
  | .propertyValueNotFound => "Unicode property value not found"
  | .tooLarge limit => "Compiled regex exceeds size limit of " ++ toString limit ++ " bytes."

/-- A fault: the reason, the stretch it concerns, and for a repetition of something the stretch
where it stood first. -/
structure Fault where
  cause : Cause
  span : Span
  first : Option Span := none
  deriving DecidableEq, Inhabited

/-- A place in a pattern: its line and its column, both counted from one. -/
structure Place where
  line : Nat
  column : Nat
  deriving DecidableEq, Inhabited

def Place.after (before : List Char) : Place :=
  ⟨before.count '\n' + 1, (before.reverse.takeWhile (· != '\n')).length + 1⟩

structure Stretch where
  start : Place
  stop : Place

namespace Stretch

def ofSpan (pattern : List Char) (span : Span) : Stretch :=
  ⟨.after (pattern.take span.start), .after (pattern.take span.stop)⟩

def isOneLine (s : Stretch) : Bool := s.start.line == s.stop.line

def note (s : Stretch) : String :=
  "on line " ++ toString s.start.line ++ " (column " ++ toString s.start.column ++
    ") through line " ++ toString s.stop.line ++ " (column " ++ toString (s.stop.column - 1) ++ ")"

end Stretch

def linesOf (s : List Char) : List (List Char) :=
  let pieces := s.splitOn '\n'
  let kept := if pieces.getLast? == some [] then pieces.dropLast else pieces
  kept.map fun line => if line.getLast? == some '\r' then line.dropLast else line

/-- Carets below the stretches of one line, which start in order; `column` characters of the line
are already passed. -/
def carets (column : Nat) : List Stretch → List Char
  | [] => []
  | s :: rest =>
    let width := max 1 (s.stop.column - s.start.column)
    let gap := s.start.column - 1 - column
    List.replicate gap ' ' ++ List.replicate width '^' ++ carets (column + gap + width) rest

/-- Each line of the pattern after its label, with the carets below it where it has a fault. -/
def annotated (lines : List (List Char)) (label : Nat → String) (indent : Nat)
    (marked : List Stretch) : String :=
  String.join <| lines.zipIdx.map fun (line, i) =>
    let here := marked.filter (·.start.line == i + 1)
    label (i + 1) ++ String.ofList line ++ "\n" ++
      if here.isEmpty then ""
      else String.ofList (List.replicate indent ' ' ++ carets 0 here) ++ "\n"

/-- The fault of a pattern, with its place in the pattern. -/
def Fault.pointedOut (pattern : String) (fault : Fault) : String :=
  let chars := pattern.toList
  let spans := match fault.first with
    | none => [fault.span]
    | some first =>
      if first.start ≤ fault.span.start then [first, fault.span] else [fault.span, first]
  let stretches := spans.map (Stretch.ofSpan chars)
  let marked := stretches.filter (·.isOneLine)
  let lines := linesOf chars
  if chars.contains '\n' then
    let count := lines.length + if chars.getLast? == some '\n' then 1 else 0
    let width := (toString count).length
    let divider := String.ofList (List.replicate 79 '~') ++ "\n"
    let label (n : Nat) : String :=
      String.ofList (List.replicate (width - (toString n).length) ' ') ++ toString n ++ ": "
    let notes := (stretches.filter (!·.isOneLine)).map (·.note)
    "regex parse error:\n" ++ divider ++
      (if 1 < count then annotated lines label (2 + width) marked
        else annotated lines (fun _ => "    ") 4 marked) ++
      divider ++ (if notes.isEmpty then "" else "\n".intercalate notes ++ "\n") ++
      "error: " ++ fault.cause.message
  else
    "regex parse error:\n" ++ annotated lines (fun _ => "    ") 4 marked ++
      "error: " ++ fault.cause.message

/-- The fault of a pattern, shown in full; a pattern that is too large has no place to point at. -/
def Fault.message (pattern : String) (fault : Fault) : String :=
  match fault.cause with
  | .tooLarge limit => (Cause.tooLarge limit).message
  | _ => fault.pointedOut pattern

end Regex
end CallCheck
