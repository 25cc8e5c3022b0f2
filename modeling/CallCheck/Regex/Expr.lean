import CallCheck.Regex.Class
import CallCheck.Regex.Reader

/-!
# Patterns and what they match

`Regex` is a pattern that was read and whose flags were applied. `Regex.isMatch` tells whether it
matches some stretch of a text.

The search works with sets of places in the text, held as the bits of a number: bit `i` stands for
the place before the character `i`. Each part of a pattern maps the places where a match of it may
begin to the places where one may end, so that the pattern matches when the places it reaches from
all places together are not none. Repetitions end because a text has finitely many places.
-/

namespace CallCheck
namespace Regex

inductive Condition where
  | start
  | stop
  | lineStart (carriageReturn : Bool)
  | lineStop (carriageReturn : Bool)
  | word (look : Look) (letters : CharSet)
  deriving DecidableEq, Inhabited

/-- Whether the condition holds between two characters; at an end of the text one is missing. -/
def Condition.holds (c : Condition) (before after : Option Char) : Bool :=
  match c with
  | .start => before.isNone
  | .stop => after.isNone
  | .lineStart false => before.isNone || before == some '\n'
  | .lineStart true =>
    before.isNone || before == some '\n' || (before == some '\r' && after != some '\n')
  | .lineStop false => after.isNone || after == some '\n'
  | .lineStop true =>
    after.isNone || after == some '\r' || (after == some '\n' && before != some '\r')
  | .word look letters =>
    let b := before.any letters.contains
    let a := after.any letters.contains
    match look with
    | .boundary => b != a
    | .notBoundary => b == a
    | .wordStart => !b && a
    | .wordStop => b && !a
    | .wordStartHalf => !b
    | .wordStopHalf => !a
    | _ => false

/-- A pattern over tests of one place: `step` passes a character, `look` stays where it is. -/
inductive Expr (α : Type) where
  | nothing
  | step (test : α)
  | look (test : α)
  | seq (first second : Expr α)
  | alt (first second : Expr α)
  | repeated (least : Nat) (most : Option Nat) (body : Expr α)
  | around (around : Around) (body : Expr α)
  deriving Inhabited

inductive Test where
  | char (set : CharSet)
  | place (condition : Condition)
  deriving DecidableEq, Inhabited

def Test.holds (t : Test) (before after : Option Char) : Bool :=
  match t with
  | .char set => after.any set.contains
  | .place c => c.holds before after

/-! ### From the parts as written -/

def conditionOf (mode : Mode) (l : Look) : Condition :=
  match l with
  | .start => .start
  | .stop => .stop
  | .lineStart => if mode.multiLine then .lineStart mode.carriageReturn else .start
  | .lineStop => if mode.multiLine then .lineStop mode.carriageReturn else .stop
  | l => .word l (if mode.unicode then wordSet else asciiWordSet)

def literalSet (mode : Mode) (lit : Literal) : Except Fault CharSet :=
  let n := lit.char.toNat
  if !mode.unicode && lit.byte && 0x7F < n then .error ⟨.invalidUtf8, lit.span, none⟩
  else
    let set := CharSet.range n n
    .ok (if !mode.ignoreCase then set
      else if mode.unicode then
        ⟨(Folding.variants lit.char).map fun c => (c.toNat, c.toNat)⟩
      else set.foldedAscii)

def dotSet (mode : Mode) (span : Span) : Except Fault CharSet :=
  if !mode.unicode then .error ⟨.invalidUtf8, span, none⟩
  else .ok <|
    if mode.dotMatchesNewLine then .all
    else if mode.carriageReturn then (CharSet.ofTable "a d").complement
    else (CharSet.ofTable "a").complement

def stepOf (set : CharSet) : Expr Test := .step (.char set)

mutual

/-- The meaning of a part in a mode, and the mode after it. -/
def Tree.meaning (mode : Mode) : Tree → Except Fault (Expr Test × Mode)
  | .empty => .ok (.nothing, mode)
  | .flags items => .ok (.nothing, mode.apply items)
  | .literal lit => do return (stepOf (← literalSet mode lit), mode)
  | .dot span => do return (stepOf (← dotSet mode span), mode)
  | .look _ l => .ok (.look (.place (conditionOf mode l)), mode)
  | .short span kind negated => do return (stepOf (← shortSet mode span kind negated), mode)
  | .query span q negated => do return (stepOf (← querySet mode span q negated), mode)
  | .bracket span negated inner => do
    return (stepOf (← finish mode span negated (← inner.set mode)), mode)
  | .repeated _ least most body => do
    let (e, mode) ← body.meaning mode
    return (.repeated least most e, mode)
  | .group _ own body => do
    let (e, _) ← body.meaning (mode.apply own)
    return (e, mode)
  | .around _ a body => do
    let (e, _) ← body.meaning mode
    return (.around a e, mode)
  | .alt _ items => Tree.anyMeaning mode items
  | .seq _ items => Tree.allMeaning mode items

def Tree.anyMeaning (mode : Mode) : List Tree → Except Fault (Expr Test × Mode)
  | [] => .ok (.nothing, mode)
  | [item] => item.meaning mode
  | item :: rest => do
    let (e, mode) ← item.meaning mode
    let (f, mode) ← Tree.anyMeaning mode rest
    return (.alt e f, mode)

def Tree.allMeaning (mode : Mode) : List Tree → Except Fault (Expr Test × Mode)
  | [] => .ok (.nothing, mode)
  | item :: rest => do
    let (e, mode) ← item.meaning mode
    let (f, mode) ← Tree.allMeaning mode rest
    return (.seq e f, mode)

end

/-! ### Size -/

/-- The size of a test when compiled: a state of 32 bytes, and for a set its ranges, which take more
where characters take several bytes. -/
def Test.size : Test → Nat
  | .place _ => 32
  | .char set =>
    match set.ranges with
    | [(low, high)] => if low = high && high < 0x80 then 32 else 64 + rangesSize set
    | _ => 64 + rangesSize set
where
  /-- The size of the ranges of a set. -/
  rangesSize (set : CharSet) : Nat :=
    if set.isAscii then 8 * set.ranges.length
    else 62 * set.complement.complement.ranges.length

/-- The size of a pattern when compiled; a repetition is compiled as often as it may have to
match. -/
def Expr.size : Expr Test → Nat
  | .nothing => 32
  | .step t | .look t => t.size
  | .seq a b => a.size + b.size
  | .alt a b => a.size + b.size + 40
  | .repeated least most body =>
    match most with
    | some most => least * body.size + (most - least) * (body.size + 40)
    | none => max least 1 * body.size + 40
  | .around _ body => body.size

def sizeLimit : Nat := 10485760

/-! ### Search -/

/-- The places of a text where a test holds; `before` is the character in front of it. -/
def placesWhere (t : Test) (before : Option Char) : List Char → Nat
  | [] => if t.holds before none then 1 else 0
  | c :: rest =>
    (if t.holds before (some c) then 1 else 0) + 2 * placesWhere t (some c) rest

/-- A pattern with each test replaced by the places of a text where it holds. -/
def Expr.located (text : List Char) : Expr Test → Expr Nat
  | .nothing => .nothing
  | .step t => .step (placesWhere t none text)
  | .look t => .look (placesWhere t none text)
  | .seq a b => .seq (a.located text) (b.located text)
  | .alt a b => .alt (a.located text) (b.located text)
  | .repeated least most body => .repeated least most (body.located text)
  | .around a body => .around a (body.located text)

/-- A function applied `n` times to a set of places, fewer when nothing changes any more. -/
def iterate (f : Nat → Nat) : Nat → Nat → Nat
  | 0, s => s
  | n + 1, s =>
    let t := f s
    if t = s then s else iterate f n t

/-- The places reached from a set by at most `n` applications of a function that maps unions to
unions; `fresh` are those not yet continued from. -/
def reach (f : Nat → Nat) : Nat → Nat → Nat → Nat
  | 0, s, _ => s
  | n + 1, s, fresh =>
    let t := s ||| f fresh
    if t = s then s else reach f n t (t ^^^ s)

def everywhere (size : Nat) : Nat := Nat.pow 2 (size + 1) - 1

def placesOf (test : Nat → Bool) : Nat → Nat
  | 0 => 0
  | n + 1 => (if test n then Nat.pow 2 n else 0) + placesOf test n

/-- The places where a group that looks around holds, given where matches of it end. -/
def Around.places (size : Nat) (a : Around) (ends : Nat → Nat) : Nat :=
  let found :=
    if a.ahead then placesOf (fun place => ends (Nat.pow 2 place) != 0) (size + 1)
    else ends (everywhere size)
  if a.negated then everywhere size ^^^ found else found

/-- The places where a match may end that begins at one of the given places, in a text of `size`
characters. A repetition changes nothing any more after as many rounds as there are places. -/
def Expr.ends (size : Nat) : Expr Nat → Nat → Nat
  | .nothing, s => s
  | .step m, s => (s &&& m) <<< 1
  | .look m, s => s &&& m
  | .seq a b, s => b.ends size (a.ends size s)
  | .alt a b, s => a.ends size s ||| b.ends size s
  | .repeated least most body, s =>
    let t := iterate (body.ends size) (min least (size + 2)) s
    let more := match most with
      | some most => min (most - least) (size + 2)
      | none => size + 2
    reach (body.ends size) more t t
  | .around a body, s => s &&& a.places size (body.ends size)

end Regex

structure Regex where
  expr : Regex.Expr Regex.Test
  deriving Inhabited

namespace Regex

/-- Reads a pattern, whose groups may look around if `looksAround`. -/
def ofText (pattern : String) (looksAround : Bool := false) : Except Fault Regex := do
  let tree ← Tree.ofText pattern looksAround
  let (expr, _) ← tree.meaning {}
  if sizeLimit < expr.size then throw ⟨.tooLarge sizeLimit, ⟨0, pattern.length⟩, none⟩
  return ⟨expr⟩

def isMatch (r : Regex) (text : String) : Bool :=
  let chars := text.toList
  (r.expr.located chars).ends chars.length (everywhere chars.length) != 0

end Regex
end CallCheck
