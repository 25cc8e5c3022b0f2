import CallCheck.Yaml.Scalar

/-!
# Tokens

`Tokens.ofText` cuts a text into tokens. A token that may turn out to be a key of a mapping is
pending until the text tells: a colon after it puts a `key` token in front of it, and in block
context perhaps the beginning of a mapping. Tokens from a pending one on are not yet delivered, so a
fault hides them: `Tokens` holds those delivered before the fault, and the fault.
-/

namespace CallCheck
namespace Yaml

inductive TokenKind where
  | streamStart
  | streamEnd
  | version (major minor : Nat)
  | tagDirective (handle lead : String)
  | documentStart
  | documentEnd
  | blockSequenceStart
  | blockMappingStart
  | blockEnd
  | flowSequenceStart
  | flowSequenceEnd
  | flowMappingStart
  | flowMappingEnd
  | blockEntry
  | flowEntry
  | key
  | value
  | alias (name : String)
  | anchor (name : String)
  | tag (handle suffix : String)
  | scalar (text : String) (style : ScalarStyle)
  deriving DecidableEq, Inhabited

structure Token where
  kind : TokenKind
  start : Mark
  stop : Mark
  deriving DecidableEq, Inhabited

/-- A token that may turn out to be a key. It is required to be one where nothing else can stand at
the indentation. -/
structure PendingKey where
  required : Bool
  number : Nat
  mark : Mark
  deriving Inhabited

/-- A text being cut: the columns of the open block collections, innermost first; for each open flow
collection and the block around them the pending key; the tokens, last first, and their number. -/
structure Scanner where
  source : Source
  indents : List Nat
  keyAllowed : Bool
  keys : List (Option PendingKey)
  tokens : List Token
  count : Nat
  ended : Bool
  deriving Inhabited

abbrev Scan := StateT Scanner (Except TextFault)

namespace Scan

def mark : Scan Mark := return (← get).source.mark

def inFlow : Scan Bool := return (← get).keys.length > 1

def setSource (s : Source) : Scan Unit := modify ({ · with source := s })

def allowKey (allowed : Bool) : Scan Unit := modify ({ · with keyAllowed := allowed })

def emit (t : Token) : Scan Unit :=
  modify fun st => { st with tokens := t :: st.tokens, count := st.count + 1 }

/-- Puts a token in front of the last `n`. -/
def insertBehind (t : Token) : Nat → List Token → List Token
  | 0, ts => t :: ts
  | n + 1, u :: ts => u :: insertBehind t n ts
  | _ + 1, [] => [t]

def insertAt (number : Nat) (t : Token) : Scan Unit :=
  modify fun st => { st with
    tokens := insertBehind t (st.count - number) st.tokens
    count := st.count + 1 }

def refuseIn {α : Type} (activity : Activity) (began : Mark) (p : Problem) : Scan α := do
  throw (.problem p (← mark) (some (activity, began)))

def refuseHere {α : Type} (p : Problem) : Scan α := do
  throw (.problem p (← mark) none)

def liftRead {α : Type} (r : Except TextFault α) : Scan α := liftM r

/-! ### Pending keys -/

/-- Gives up pending keys on earlier lines or too far back; one that is required is a fault. -/
def dropStaleKeys : Scan Unit := do
  let here ← mark
  let stale (k : PendingKey) : Bool := k.mark.line < here.line || k.mark.index + 1024 < here.index
  match (← get).keys.findSome? fun k => k.filter fun k => stale k && k.required with
  | some k => refuseIn .simpleKey k.mark .colonExpected
  | none => modify fun st => { st with keys := st.keys.map (·.filter (!stale ·)) }

/-- Gives up the innermost pending key; one that is required is a fault. -/
def dropKey : Scan Unit := do
  match (← get).keys with
  | some k :: rest =>
    if k.required then refuseIn .simpleKey k.mark .colonExpected
    else modify ({ · with keys := none :: rest })
  | _ => pure ()

/-- Makes the next token a pending key where one may stand. -/
def saveKey : Scan Unit := do
  let st ← get
  if st.keyAllowed then
    dropKey
    let required := st.keys.length ≤ 1 && st.indents.head? == some st.source.mark.column
    modify fun st => { st with
      keys := some ⟨required, st.count, st.source.mark⟩ :: st.keys.drop 1 }

/-! ### Indentation -/

/-- Whether a column lies beyond the innermost block collection. -/
def deeper (indents : List Nat) (column : Nat) : Bool :=
  match indents with
  | [] => true
  | n :: _ => n < column

/-- Opens a block collection at a column deeper than the others, its token at the end or at a
number. -/
def openBlock (column : Nat) (number : Option Nat) (kind : TokenKind) (at_ : Mark) : Scan Unit := do
  if ← inFlow then return
  if deeper (← get).indents column then
    modify fun st => { st with indents := column :: st.indents }
    match number with
    | some n => insertAt n ⟨kind, at_, at_⟩
    | none => emit ⟨kind, at_, at_⟩

/-- Closes the given block collections as far as they lie beyond a column; all without one. -/
def closeBlocks (column : Option Nat) : List Nat → Scan Unit
  | [] => pure ()
  | n :: rest => do
    if column.all (· < n) then
      let here ← mark
      emit ⟨.blockEnd, here, here⟩
      modify ({ · with indents := rest })
      closeBlocks column rest

/-- Closes the block collections beyond a column, in block context. -/
def unroll (column : Option Nat) : Scan Unit := do
  if !(← inFlow) then closeBlocks column (← get).indents

/-! ### Tokens of signs -/

/-- Adds a token of `width` characters that begins here. -/
def emitSign (kind : TokenKind) (width : Nat) : Scan Unit := do
  let s := (← get).source
  let after := s.skip width
  setSource after
  emit ⟨kind, s.mark, after.mark⟩

def streamEnd : Scan Unit := do
  let m ← mark
  if m.column ≠ 0 then
    modify fun st => { st with source.mark := ⟨m.index, m.line + 1, 0⟩ }
  unroll none
  dropKey
  allowKey false
  emitSign .streamEnd 0
  modify ({ · with ended := true })

def documentIndicator (kind : TokenKind) : Scan Unit := do
  unroll none
  dropKey
  allowKey false
  emitSign kind 3

def flowOpen (kind : TokenKind) : Scan Unit := do
  saveKey
  modify fun st => { st with keys := none :: st.keys }
  allowKey true
  emitSign kind 1

def flowClose (kind : TokenKind) : Scan Unit := do
  dropKey
  modify fun st => { st with keys := if st.keys.length > 1 then st.keys.drop 1 else st.keys }
  allowKey false
  emitSign kind 1

def flowEntry : Scan Unit := do
  dropKey
  allowKey true
  emitSign .flowEntry 1

def blockEntry : Scan Unit := do
  if !(← inFlow) then
    if !(← get).keyAllowed then refuseHere .blockEntryNotAllowed
    let m ← mark
    openBlock m.column none .blockSequenceStart m
  dropKey
  allowKey true
  emitSign .blockEntry 1

def keySign : Scan Unit := do
  if !(← inFlow) then
    if !(← get).keyAllowed then refuseHere .keyNotAllowed
    let m ← mark
    openBlock m.column none .blockMappingStart m
  dropKey
  allowKey (!(← inFlow))
  emitSign .key 1

def valueSign : Scan Unit := do
  match (← get).keys with
  | some k :: rest =>
    insertAt k.number ⟨.key, k.mark, k.mark⟩
    openBlock k.mark.column (some k.number) .blockMappingStart k.mark
    modify ({ · with keys := none :: rest })
    allowKey false
  | _ =>
    if !(← inFlow) then
      if !(← get).keyAllowed then refuseHere .valueNotAllowed
      let m ← mark
      openBlock m.column none .blockMappingStart m
    allowKey (!(← inFlow))
  emitSign .value 1

/-! ### Names, tags and directives -/

def word (p : Char → Bool) : Scan (List Char) := do
  let (w, s) := (← get).source.span p
  setSource s
  return w

def anchor (activity : Activity) (kind : String → TokenKind) : Scan Unit := do
  saveKey
  allowKey false
  let began ← mark
  setSource (← get).source.next
  let name ← word isNameChar
  let s := (← get).source
  let ends := s.spaceOrEndAt 0 || s.head?.any "?:,]\x7d%@`".toList.contains
  if name.isEmpty || !ends then refuseIn activity began .nameExpected
  emit ⟨kind (String.ofList name), began, s.mark⟩

/-- The bytes of an escaped character of a tag: `n` more of them, each with the leading bits of a
continuation. -/
def uriTrailing (activity : Activity) (began : Mark) : Nat → Nat → Scan Nat
  | 0, v => return v
  | n + 1, v => do
    let octet ← uriOctet
    if octet / 64 ≠ 2 then refuseIn activity began .uriTrailingOctet
    uriTrailing activity began n (v * 64 + octet % 64)
where
  /-- One byte, as a percent sign and two hexadecimal digits. -/
  uriOctet : Scan Nat := do
    let s := (← get).source
    match s.startsWith '%', hexAhead? s.next 2 with
    | true, some octet => setSource (s.skip 3); return octet
    | _, _ => refuseIn activity began .uriOctetExpected

def uriEscape (activity : Activity) (began : Mark) : Scan Char := do
  let s := (← get).source
  match hexAhead? s.next 2 with
  | none => refuseIn activity began .uriOctetExpected
  | some octet =>
    let lead ←
      if octet < 0x80 then pure (0, octet)
      else if octet / 32 = 6 then pure (1, octet % 32)
      else if octet / 16 = 14 then pure (2, octet % 16)
      else if octet / 8 = 30 then pure (3, octet % 8)
      else refuseIn activity began .uriLeadingOctet
    setSource (s.skip 3)
    return Char.ofNat (← uriTrailing activity began lead.1 lead.2)

/-- The characters of a tag; `verbatim` between angle brackets. -/
def uriChars (verbatim : Bool) (activity : Activity) (began : Mark) : Nat → Scan (List Char)
  | 0 => return []
  | fuel + 1 => do
    match (← get).source.head? with
    | none => return []
    | some c =>
      if c = '%' then
        let d ← uriEscape activity began
        return d :: (← uriChars verbatim activity began fuel)
      else if isNameChar c || ";/?:@&=+$.!~*'()".toList.contains c
          || (verbatim && ",[]".toList.contains c) then
        setSource (← get).source.next
        return c :: (← uriChars verbatim activity began fuel)
      else return []

/-- A tag without its handle; `head` was read before it. -/
def uri (verbatim : Bool) (activity : Activity) (head : List Char) (began : Mark) :
    Scan (List Char) := do
  let chars ← uriChars verbatim activity began ((← get).source.rest.length + 1)
  if head.isEmpty ∧ chars.isEmpty then refuseIn activity began .tagUriExpected
  return head.drop 1 ++ chars

/-- A handle: an exclamation mark, and a name with another one if it is a named handle. -/
def tagHandle (directive : Bool) (began : Mark) : Scan (List Char) := do
  let s := (← get).source
  if !s.startsWith '!' then
    refuseIn (if directive then .directive else .tag) began .exclamationExpected
  setSource s.next
  let name ← word isNameChar
  if (← get).source.startsWith '!' then
    setSource (← get).source.next
    return '!' :: name ++ ['!']
  if directive && !name.isEmpty then refuseIn .directiveHandle began .exclamationExpected
  return '!' :: name

def tagParts (began : Mark) : Scan (List Char × List Char) := do
  let s := (← get).source
  if s.ahead 1 = some '<' then
    setSource (s.skip 2)
    let suffix ← uri true .tagUri [] began
    let s := (← get).source
    if !s.startsWith '>' then refuseIn .tag began .tagEndExpected
    setSource s.next
    return ([], suffix)
  let handle ← tagHandle false began
  if handle.length > 1 && handle.getLast? == some '!' then
    return (handle, ← uri false .tagUri [] began)
  let suffix ← uri false .tagUri handle began
  if suffix.isEmpty then return ([], ['!'])
  return (['!'], suffix)

def tag : Scan Unit := do
  saveKey
  allowKey false
  let began ← mark
  let (handle, suffix) ← tagParts began
  let s := (← get).source
  if !((← inFlow) && s.startsWith ',') && !s.spaceOrEndAt 0 then
    refuseIn .tag began .whitespaceOrBreakExpected
  emit ⟨.tag (String.ofList handle) (String.ofList suffix), began, s.mark⟩

def versionNumber (began : Mark) : Scan Nat := do
  let s := (← get).source
  let (digits, after) := s.span Char.isDigit
  if digits.length > 9 then
    setSource (s.skip 9)
    refuseIn .versionDirective began .versionTooLong
  if digits.isEmpty then refuseIn .versionDirective began .versionExpected
  setSource after
  return Json.digitsValue digits

def directiveValue (name : String) (began : Mark) : Scan TokenKind := do
  if name = "YAML" then
    setSource (← get).source.skipSpaces
    let major ← versionNumber began
    let s := (← get).source
    if !s.startsWith '.' then refuseIn .versionDirective began .versionPartExpected
    setSource s.next
    return .version major (← versionNumber began)
  else if name = "TAG" then
    setSource (← get).source.skipSpaces
    let handle ← tagHandle true began
    if !(← get).source.atSpace then refuseIn .tagDirective began .whitespaceExpected
    setSource (← get).source.skipSpaces
    let lead ← uri true .tagDirectiveUri [] began
    if !(← get).source.spaceOrEndAt 0 then
      refuseIn .tagDirective began .whitespaceOrBreakExpected
    return .tagDirective (String.ofList handle) (String.ofList lead)
  else refuseIn .directive began .directiveUnknown

def directive : Scan Unit := do
  unroll none
  dropKey
  allowKey false
  let began ← mark
  setSource (← get).source.next
  let name ← word isNameChar
  if name.isEmpty then refuseIn .directive began .directiveNameExpected
  if !(← get).source.spaceOrEndAt 0 then refuseIn .directive began .directiveNameMalformed
  let kind ← directiveValue (String.ofList name) began
  emit ⟨kind, began, ← mark⟩
  let s := (← get).source.skipSpaces.skipComment
  setSource s
  if !s.breaksAt 0 then refuseIn .directive began .commentOrBreakExpected
  setSource s.nextLine

/-! ### Tokens of scalars -/

def blockScalar (literal : Bool) : Scan Unit := do
  dropKey
  allowKey true
  let st ← get
  let (text, s) ← liftRead (readBlock literal st.indents.head? st.source)
  setSource s
  emit ⟨.scalar (String.ofList text) (if literal then .literal else .folded), st.source.mark, s.mark⟩

def quotedScalar (single : Bool) : Scan Unit := do
  saveKey
  allowKey false
  let st ← get
  let (text, s) ← liftRead (readQuoted single st.source)
  setSource s
  emit ⟨.scalar (String.ofList text) (if single then .singleQuoted else .doubleQuoted),
    st.source.mark, s.mark⟩

/-- A plain scalar. After a line break a key may stand again. -/
def plainScalar : Scan Unit := do
  saveKey
  allowKey false
  let st ← get
  let indent := match st.indents with
    | n :: _ => n + 1
    | [] => 0
  let (text, s, broken) ← liftRead (readPlain (st.keys.length > 1) indent st.source)
  setSource s
  emit ⟨.scalar (String.ofList text) .plain, st.source.mark, s.mark⟩
  if broken then allowKey true

/-! ### The next token -/

/-- Passes spaces, comments and line breaks. A tab counts as a space where no key may stand. -/
def toNextToken : Nat → Scan Unit
  | 0 => pure ()
  | fuel + 1 => do
    let st ← get
    let tabs := st.keys.length > 1 || !st.keyAllowed
    let s := (st.source.skipWhile fun c => c == ' ' || (tabs && c == '\t')).skipComment
    if s.atBreak then
      setSource s.nextLine
      if st.keys.length ≤ 1 then allowKey true
      toNextToken fuel
    else setSource s

/-- The characters that no plain scalar begins with. -/
def isIndicator (c : Char) : Bool := "-?:,[]\x7b\x7d#&*!|>'\"%@`".toList.contains c

def startsPlain (s : Source) (flow : Bool) : Bool :=
  match s.head? with
  | none => false
  | some c =>
    !(isSpace c || isBreak c || isIndicator c)
      || (c == '-' && !(s.ahead 1).any isSpace)
      || (!flow && (c == '?' || c == ':') && !s.spaceOrEndAt 1)

def tokenHere : Scan Unit := do
  let s := (← get).source
  let flow ← inFlow
  match s.head? with
  | none => streamEnd
  | some c =>
    if s.mark.column = 0 ∧ c = '%' then directive
    else if s.atIndicator '-' then documentIndicator .documentStart
    else if s.atIndicator '.' then documentIndicator .documentEnd
    else if c = '[' then flowOpen .flowSequenceStart
    else if c = '\x7b' then flowOpen .flowMappingStart
    else if c = ']' then flowClose .flowSequenceEnd
    else if c = '\x7d' then flowClose .flowMappingEnd
    else if c = ',' then flowEntry
    else if c = '-' ∧ s.spaceOrEndAt 1 then blockEntry
    else if c = '?' ∧ (flow ∨ s.spaceOrEndAt 1) then keySign
    else if c = ':' ∧ (flow ∨ s.spaceOrEndAt 1) then valueSign
    else if c = '*' then anchor .alias .alias
    else if c = '&' then anchor .anchor .anchor
    else if c = '!' then tag
    else if c = '|' ∧ !flow then blockScalar true
    else if c = '>' ∧ !flow then blockScalar false
    else if c = '\'' then quotedScalar true
    else if c = '"' then quotedScalar false
    else if startsPlain s flow then plainScalar
    else refuseIn .nextToken s.mark .tokenUnexpected

/-- One step: the next token with what it closes and opens, and the pending keys it makes stale. -/
def step : Scan Unit := do
  toNextToken ((← get).source.rest.length + 1)
  dropStaleKeys
  unroll (some (← mark).column)
  tokenHere
  dropStaleKeys

end Scan

/-! ### All tokens -/

/-- The tokens delivered from a text, and the fault that hides the others. -/
structure Tokens where
  tokens : List Token
  fault : Option TextFault
  deriving Inhabited

/-- The tokens in front of every pending key. -/
def Scanner.delivered (st : Scanner) : List Token :=
  let pending := st.keys.filterMap (·.map (·.number))
  st.tokens.reverse.take (pending.foldl min st.count)

def Scanner.run : Nat → Scanner → Tokens
  | 0, st => ⟨st.delivered, none⟩
  | fuel + 1, st =>
    if st.ended then ⟨st.tokens.reverse, none⟩
    else match Scan.step.run st with
      | .ok ((), st) => run fuel st
      | .error fault => ⟨st.delivered, some fault⟩

/-- The tokens of a text. Every step but the last passes a character. -/
def Tokens.ofText (text : String) : Tokens :=
  match Source.ofText text with
  | .error fault => ⟨[], some fault⟩
  | .ok s =>
    Scanner.run (s.rest.length + 2)
      { source := s, indents := [], keyAllowed := true, keys := [none],
        tokens := [⟨.streamStart, s.mark, s.mark⟩], count := 1, ended := false }

end Yaml
end CallCheck
