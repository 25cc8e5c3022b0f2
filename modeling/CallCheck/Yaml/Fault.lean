/-!
# Faults of YAML texts

Places in a text, and the faults that stop it from being read: what is wrong where, and what was
being read since where.
-/

namespace CallCheck
namespace Yaml

/-- A place in a text: the characters before it, its line and its column, all counted from zero. -/
structure Mark where
  index : Nat
  line : Nat
  column : Nat
  deriving DecidableEq, Inhabited

namespace Mark

def start : Mark := ⟨0, 0, 0⟩

/-- Whether the mark is at the first column of the first line, where no place is reported. -/
def isOrigin (m : Mark) : Bool := m.line == 0 && m.column == 0

/-- The place in words, lines and columns counted from one. -/
def words (m : Mark) : String :=
  "line " ++ toString (m.line + 1) ++ " column " ++ toString (m.column + 1)

end Mark

/-- What was being read when a fault was met. -/
inductive Activity where
  | nextToken
  | simpleKey
  | directive
  | directiveHandle
  | versionDirective
  | tagDirective
  | tagDirectiveUri
  | anchor
  | alias
  | tag
  | tagUri
  | blockScalar
  | quotedScalar
  | quotedEscape
  | plainScalar
  | node
  | blockNode
  | flowNode
  | blockCollection
  | blockMapping
  | flowSequence
  | flowMapping
  deriving DecidableEq, Inhabited

def Activity.words : Activity → String
  | .nextToken => "while scanning for the next token"
  | .simpleKey => "while scanning a simple key"
  | .directive => "while scanning a directive"
  | .directiveHandle => "while parsing a directive"
  | .versionDirective => "while scanning a %YAML directive"
  | .tagDirective => "while scanning a %TAG directive"
  | .tagDirectiveUri => "while parsing a %TAG directive"
  | .anchor => "while scanning an anchor"
  | .alias => "while scanning an alias"
  | .tag => "while scanning a tag"
  | .tagUri => "while parsing a tag"
  | .blockScalar => "while scanning a block scalar"
  | .quotedScalar => "while scanning a quoted scalar"
  | .quotedEscape => "while parsing a quoted scalar"
  | .plainScalar => "while scanning a plain scalar"
  | .node => "while parsing a node"
  | .blockNode => "while parsing a block node"
  | .flowNode => "while parsing a flow node"
  | .blockCollection => "while parsing a block collection"
  | .blockMapping => "while parsing a block mapping"
  | .flowSequence => "while parsing a flow sequence"
  | .flowMapping => "while parsing a flow mapping"

inductive Problem where
  | blockEntryNotAllowed
  | colonExpected
  | colonUnexpected
  | commaOrBraceExpected
  | commaOrBracketExpected
  | commentOrBreakExpected
  | contentExpected
  | dashExpected
  | directiveDuplicateTag
  | directiveDuplicateVersion
  | directiveNameExpected
  | directiveNameMalformed
  | directiveUnknown
  | documentIndicatorUnexpected
  | documentStartExpected
  | endUnexpected
  | escapeCodeInvalid
  | escapeDigitsExpected
  | escapeUnknown
  | exclamationExpected
  | indentationZero
  | keyExpected
  | keyNotAllowed
  | nameExpected
  | streamStartExpected
  | tabInBlockScalar
  | tabInIndentation
  | tagEndExpected
  | tagHandleUndefined
  | tagUriExpected
  | tokenUnexpected
  | uriLeadingOctet
  | uriOctetExpected
  | uriTrailingOctet
  | valueNotAllowed
  | versionExpected
  | versionIncompatible
  | versionPartExpected
  | versionTooLong
  | whitespaceExpected
  | whitespaceOrBreakExpected
  deriving DecidableEq, Inhabited

def Problem.words : Problem → String
  | .blockEntryNotAllowed => "block sequence entries are not allowed in this context"
  | .colonExpected => "could not find expected ':'"
  | .colonUnexpected => "found unexpected ':'"
  | .commaOrBraceExpected => "did not find expected ',' or '\x7d'"
  | .commaOrBracketExpected => "did not find expected ',' or ']'"
  | .commentOrBreakExpected => "did not find expected comment or line break"
  | .contentExpected => "did not find expected node content"
  | .dashExpected => "did not find expected '-' indicator"
  | .directiveDuplicateTag => "found duplicate %TAG directive"
  | .directiveDuplicateVersion => "found duplicate %YAML directive"
  | .directiveNameExpected => "could not find expected directive name"
  | .directiveNameMalformed => "found unexpected non-alphabetical character"
  | .directiveUnknown => "found unknown directive name"
  | .documentIndicatorUnexpected => "found unexpected document indicator"
  | .documentStartExpected => "did not find expected <document start>"
  | .endUnexpected => "found unexpected end of stream"
  | .escapeCodeInvalid => "found invalid Unicode character escape code"
  | .escapeDigitsExpected => "did not find expected hexdecimal number"
  | .escapeUnknown => "found unknown escape character"
  | .exclamationExpected => "did not find expected '!'"
  | .indentationZero => "found an indentation indicator equal to 0"
  | .keyExpected => "did not find expected key"
  | .keyNotAllowed => "mapping keys are not allowed in this context"
  | .nameExpected => "did not find expected alphabetic or numeric character"
  | .streamStartExpected => "did not find expected <stream-start>"
  | .tabInBlockScalar => "found a tab character where an indentation space is expected"
  | .tabInIndentation => "found a tab character that violates indentation"
  | .tagEndExpected => "did not find the expected '>'"
  | .tagHandleUndefined => "found undefined tag handle"
  | .tagUriExpected => "did not find expected tag URI"
  | .tokenUnexpected => "found character that cannot start any token"
  | .uriLeadingOctet => "found an incorrect leading UTF-8 octet"
  | .uriOctetExpected => "did not find URI escaped octet"
  | .uriTrailingOctet => "found an incorrect trailing UTF-8 octet"
  | .valueNotAllowed => "mapping values are not allowed in this context"
  | .versionExpected => "did not find expected version number"
  | .versionIncompatible => "found incompatible YAML document"
  | .versionPartExpected => "did not find expected digit or '.' character"
  | .versionTooLong => "found extremely long version number"
  | .whitespaceExpected => "did not find expected whitespace"
  | .whitespaceOrBreakExpected => "did not find expected whitespace or line break"

/-- A fault of a text: a control character after a number of bytes, or a problem at a place, met in
an activity that began at another. -/
inductive TextFault where
  | control (position : Nat)
  | problem (problem : Problem) (mark : Mark) (context : Option (Activity × Mark))
  deriving DecidableEq, Inhabited

/-- The fault in words. A place at the origin is not told, nor one told already. -/
def TextFault.message : TextFault → String
  | .control position =>
    "control characters are not allowed" ++
      if position = 0 then "" else " at position " ++ toString position
  | .problem p mark context =>
    let place (m : Mark) : String := if m.isOrigin then "" else " at " ++ m.words
    p.words ++ place mark ++
      match context with
      | none => ""
      | some (activity, began) =>
        ", " ++ activity.words ++
          if began.line = mark.line ∧ began.column = mark.column then "" else place began

end Yaml
end CallCheck
