import CallCheck.Yaml.Token

/-!
# Events

`Events.ofTokens` follows the nesting of the tokens: documents, sequences and mappings begin and
end, and scalars and aliases stand between. An entry, key or value that is left out gives an empty
scalar. The events end at the first fault, which may be one of the tokens.
-/

namespace CallCheck
namespace Yaml

inductive EventKind where
  | documentStart
  | documentEnd
  | streamEnd
  | alias (name : String)
  | scalar (anchor tag : Option String) (text : String) (style : ScalarStyle)
  | sequenceStart (anchor tag : Option String)
  | sequenceEnd
  | mappingStart (anchor tag : Option String)
  | mappingEnd
  deriving DecidableEq, Inhabited

structure Event where
  kind : EventKind
  mark : Mark
  deriving DecidableEq, Inhabited

/-- What is expected next. Collections remember where they began, and whether an entry was read. -/
inductive Expected where
  | document (first : Bool)
  | content
  | documentEnd
  | node
  | blockEntry (began : Mark)
  | indentlessEntry
  | blockKey (began : Mark)
  | blockValue (began : Mark)
  | flowEntry (first : Bool) (began : Mark)
  | pairKey (began : Mark)
  | pairValue (began : Mark)
  | pairEnd (began : Mark)
  | flowKey (first : Bool) (began : Mark)
  | flowValue (began : Mark)
  | flowNoValue (began : Mark)
  deriving Inhabited

/-- Why no further event comes: the tokens are used up, or they do not fit. -/
inductive Stop where
  | starved
  | fault (fault : TextFault)
  deriving Inhabited

/-- The tokens left, what is expected after the current part, outermost last, and the handles of
tags. -/
structure Parser where
  tokens : List Token
  pending : List Expected
  handles : List (String × String)
  deriving Inhabited

abbrev Parse := StateT Parser (Except Stop)

namespace Parse

def peek : Parse Token := do
  match (← get).tokens with
  | t :: _ => return t
  | [] => throw .starved

def skip : Parse Unit := modify fun p => { p with tokens := p.tokens.drop 1 }

def push (e : Expected) : Parse Unit := modify fun p => { p with pending := e :: p.pending }

def refuseIn {α : Type} (activity : Activity) (began : Mark) (p : Problem) (m : Mark) : Parse α :=
  throw (.fault (.problem p m (some (activity, began))))

def refuseAt {α : Type} (p : Problem) (m : Mark) : Parse α :=
  throw (.fault (.problem p m none))

/-- The scalar of something left out. -/
def emptyScalar (m : Mark) : Event := ⟨.scalar none none "" .plain, m⟩

/-! ### Nodes -/

/-- The anchor and the tag in front of a node, in either order, with the place of the tag. -/
structure Properties where
  anchor : Option String := none
  tag : Option (String × String × Mark) := none

def properties : Parse Properties := do
  let t ← peek
  match t.kind with
  | .anchor name =>
    skip
    let u ← peek
    match u.kind with
    | .tag handle suffix => skip; return ⟨some name, some (handle, suffix, u.start)⟩
    | _ => return { anchor := some name }
  | .tag handle suffix =>
    skip
    let u ← peek
    match u.kind with
    | .anchor name => skip; return ⟨some name, some (handle, suffix, t.start)⟩
    | _ => return { tag := some (handle, suffix, t.start) }
  | _ => return {}

def resolveTag (began : Mark) : Option (String × String × Mark) → Parse (Option String)
  | none => return none
  | some (handle, suffix, m) => do
    if handle.isEmpty then return some suffix
    match (← get).handles.find? (·.1 == handle) with
    | some (_, lead) => return some (lead ++ suffix)
    | none => refuseIn .node began .tagHandleUndefined m

/-- The beginning of a node. `block` where block collections may stand, `indentless` where a
sequence may stand at the indentation of its key. -/
def node (block indentless : Bool) : Parse Event := do
  let t ← peek
  match t.kind with
  | .alias name => skip; return ⟨.alias name, t.start⟩
  | _ =>
    let began := t.start
    let props ← properties
    let tag ← resolveTag began props.tag
    let t ← peek
    match t.kind with
    | .blockEntry =>
      if indentless then
        push .indentlessEntry
        return ⟨.sequenceStart props.anchor tag, began⟩
      else bare began props tag t
    | .scalar text style =>
      skip
      let tag := if tag = some "!" then none else tag
      return ⟨.scalar props.anchor tag text style, began⟩
    | .flowSequenceStart =>
      skip
      push (.flowEntry true t.start)
      return ⟨.sequenceStart props.anchor tag, began⟩
    | .flowMappingStart =>
      skip
      push (.flowKey true t.start)
      return ⟨.mappingStart props.anchor tag, began⟩
    | .blockSequenceStart =>
      if block then
        skip
        push (.blockEntry t.start)
        return ⟨.sequenceStart props.anchor tag, began⟩
      else bare began props tag t
    | .blockMappingStart =>
      if block then
        skip
        push (.blockKey t.start)
        return ⟨.mappingStart props.anchor tag, began⟩
      else bare began props tag t
    | _ => bare began props tag t
where
  /-- A node of which only the properties are there. -/
  bare (began : Mark) (props : Properties) (tag : Option String) (t : Token) : Parse Event := do
    if props.anchor.isSome || tag.isSome then
      return ⟨.scalar props.anchor tag "" .plain, began⟩
    else refuseIn (if block then .blockNode else .flowNode) began .contentExpected t.start

/-! ### Documents -/

def defaultHandles : List (String × String) := [("!", "!"), ("!!", "tag:yaml.org,2002:")]

def directives : Nat → Bool → List (String × String) → Parse (List (String × String))
  | 0, _, handles => return handles
  | fuel + 1, versioned, handles => do
    let t ← peek
    match t.kind with
    | .version major minor =>
      if versioned then refuseAt .directiveDuplicateVersion t.start
      if major ≠ 1 ∨ (minor ≠ 1 ∧ minor ≠ 2) then refuseAt .versionIncompatible t.start
      skip
      directives fuel true handles
    | .tagDirective handle lead =>
      if handles.any (·.1 == handle) then refuseAt .directiveDuplicateTag t.start
      skip
      directives fuel versioned (handles ++ [(handle, lead)])
    | _ => return handles

/-- The handles of the directives, and the default ones for the others. -/
def readHandles : Parse Unit := do
  let own ← directives ((← get).tokens.length + 1) false []
  modify ({ · with handles := own ++ defaultHandles })

def skipDocumentEnds : Parse Unit :=
  modify fun p => { p with tokens := p.tokens.dropWhile (·.kind = .documentEnd) }

/-- The beginning of a document, or the end of the stream. -/
def documentStart (first : Bool) : Parse Event := do
  if !first then skipDocumentEnds
  let t ← peek
  let explicit := match t.kind with
    | .version _ _ | .tagDirective _ _ | .documentStart => true
    | _ => !first
  if t.kind = .streamEnd then
    skip
    return ⟨.streamEnd, t.start⟩
  else if explicit then
    readHandles
    let u ← peek
    if u.kind ≠ .documentStart then refuseAt .documentStartExpected u.start
    skip
    push .documentEnd
    push .content
    return ⟨.documentStart, t.start⟩
  else
    readHandles
    push .documentEnd
    push .node
    return ⟨.documentStart, t.start⟩

/-! ### Steps -/

/-- Whether a token ends what stands before it in a block collection. -/
def endsBlock (indentless : Bool) : TokenKind → Bool
  | .blockEnd => true
  | .blockEntry => indentless
  | .key | .value => true
  | _ => false

def next (e : Expected) : Parse Event := do
  let t ← peek
  match e with
  | .document first => documentStart first
  | .content =>
    match t.kind with
    | .version _ _ | .tagDirective _ _ | .documentStart | .documentEnd | .streamEnd =>
      return emptyScalar t.start
    | _ => node true false
  | .documentEnd =>
    if t.kind = .documentEnd then skip
    push (.document false)
    return ⟨.documentEnd, t.start⟩
  | .node => node true false
  | .blockEntry began =>
    match t.kind with
    | .blockEntry =>
      skip
      push (.blockEntry began)
      let u ← peek
      if u.kind = .blockEntry ∨ u.kind = .blockEnd then return emptyScalar t.stop
      else node true false
    | .blockEnd => skip; return ⟨.sequenceEnd, t.start⟩
    | _ => refuseIn .blockCollection began .dashExpected t.start
  | .indentlessEntry =>
    match t.kind with
    | .blockEntry =>
      skip
      push .indentlessEntry
      let u ← peek
      if endsBlock true u.kind then return emptyScalar t.stop else node true false
    | _ => return ⟨.sequenceEnd, t.start⟩
  | .blockKey began =>
    match t.kind with
    | .key =>
      skip
      push (.blockValue began)
      let u ← peek
      if endsBlock false u.kind then return emptyScalar t.stop else node true true
    | .blockEnd => skip; return ⟨.mappingEnd, t.start⟩
    | _ => refuseIn .blockMapping began .keyExpected t.start
  | .blockValue began =>
    push (.blockKey began)
    match t.kind with
    | .value =>
      skip
      let u ← peek
      if endsBlock false u.kind then return emptyScalar t.stop else node true true
    | _ => return emptyScalar t.start
  | .flowEntry first began =>
    if t.kind = .flowSequenceEnd then
      skip
      return ⟨.sequenceEnd, t.start⟩
    if !first then
      if t.kind ≠ .flowEntry then
        refuseIn .flowSequence began .commaOrBracketExpected t.start
      skip
    let t ← peek
    match t.kind with
    | .key =>
      skip
      push (.pairKey began)
      return ⟨.mappingStart none none, t.start⟩
    | .flowSequenceEnd => skip; return ⟨.sequenceEnd, t.start⟩
    | _ =>
      push (.flowEntry false began)
      node false false
  | .pairKey began =>
    push (.pairValue began)
    match t.kind with
    | .value | .flowEntry | .flowSequenceEnd => skip; return emptyScalar t.stop
    | _ => node false false
  | .pairValue began =>
    push (.pairEnd began)
    match t.kind with
    | .value =>
      skip
      let u ← peek
      match u.kind with
      | .flowEntry | .flowSequenceEnd => return emptyScalar u.start
      | _ => node false false
    | _ => return emptyScalar t.start
  | .pairEnd began =>
    push (.flowEntry false began)
    return ⟨.mappingEnd, t.start⟩
  | .flowKey first began =>
    if t.kind = .flowMappingEnd then
      skip
      return ⟨.mappingEnd, t.start⟩
    if !first then
      if t.kind ≠ .flowEntry then
        refuseIn .flowMapping began .commaOrBraceExpected t.start
      skip
    let t ← peek
    match t.kind with
    | .key =>
      skip
      push (.flowValue began)
      let u ← peek
      match u.kind with
      | .value | .flowEntry | .flowMappingEnd => return emptyScalar u.start
      | _ => node false false
    | .flowMappingEnd => skip; return ⟨.mappingEnd, t.start⟩
    | _ =>
      push (.flowNoValue began)
      node false false
  | .flowValue began =>
    push (.flowKey false began)
    match t.kind with
    | .value =>
      skip
      let u ← peek
      match u.kind with
      | .flowEntry | .flowMappingEnd => return emptyScalar u.start
      | _ => node false false
    | _ => return emptyScalar t.start
  | .flowNoValue began =>
    push (.flowKey false began)
    return emptyScalar t.start

def step : Parse Event := do
  match (← get).pending with
  | e :: rest =>
    modify ({ · with pending := rest })
    next e
  | [] => throw .starved

end Parse

/-- The events of a text, and the fault that ends them early. -/
structure Events where
  events : List Event
  fault : Option TextFault
  deriving Inhabited

/-- Events one after another until the stream ends or has a fault. -/
def Parser.run (fault : Option TextFault) : Nat → Parser → Events
  | 0, _ => ⟨[], fault⟩
  | fuel + 1, p =>
    match Parse.step.run p with
    | .ok (e, p) =>
      if e.kind = .streamEnd then ⟨[e], none⟩
      else
        let rest := run fault fuel p
        ⟨e :: rest.events, rest.fault⟩
    | .error .starved => ⟨[], fault⟩
    | .error (.fault f) => ⟨[], some f⟩

/-- The events of tokens. There are at most a few events for each token. -/
def Events.ofTokens (t : Tokens) : Events :=
  match t.tokens with
  | ⟨.streamStart, _, _⟩ :: rest =>
    Parser.run t.fault (8 * rest.length + 16)
      { tokens := rest, pending := [.document true], handles := Parse.defaultHandles }
  | _ => ⟨[], t.fault⟩

def Events.ofText (text : String) : Events := .ofTokens (.ofText text)

end Yaml
end CallCheck
