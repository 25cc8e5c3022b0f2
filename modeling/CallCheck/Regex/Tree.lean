import CallCheck.Regex.Fault

/-!
# Patterns as written

The parts of a pattern with the stretches they were read from. Flags are kept where they stand;
what a part means under them is decided by `Regex.Expr`.
-/

namespace CallCheck
namespace Regex

inductive Flag where
  | ignoreCase
  | multiLine
  | dotMatchesNewLine
  | swapGreed
  | unicode
  | carriageReturn
  | ignoreSpace
  deriving DecidableEq, Inhabited

inductive FlagItem where
  | flag (f : Flag)
  | negation
  deriving DecidableEq, Inhabited

/-- What a list of flags says about one of them, if anything. -/
def flagState (f : Flag) : List FlagItem → Bool → Option Bool
  | [], _ => none
  | .negation :: rest, _ => flagState f rest true
  | .flag g :: rest, negated =>
    if f = g then some (!negated) else flagState f rest negated

inductive Look where
  | start
  | stop
  | lineStart
  | lineStop
  | boundary
  | notBoundary
  | wordStart
  | wordStop
  | wordStartHalf
  | wordStopHalf
  deriving DecidableEq, Inhabited

inductive ShortClass where
  | digit
  | space
  | word
  deriving DecidableEq, Inhabited

inductive ClassQuery where
  | named (name : String)
  | valued (property value : String)
  deriving DecidableEq, Inhabited

/-- A character that stands for itself; `byte` when it was written as two hexadecimal digits. -/
structure Literal where
  span : Span
  char : Char
  byte : Bool
  deriving DecidableEq, Inhabited

inductive ClassOp where
  | intersection
  | difference
  | symmetricDifference
  deriving DecidableEq, Inhabited

/-- What stands between the brackets of a class. -/
inductive ClassTree where
  | empty
  | literal (lit : Literal)
  | range (span : Span) (low high : Literal)
  | ascii (name : String) (negated : Bool)
  | short (span : Span) (kind : ShortClass) (negated : Bool)
  | query (span : Span) (query : ClassQuery) (negated : Bool)
  | bracket (span : Span) (negated : Bool) (inner : ClassTree)
  | union (span : Span) (items : List ClassTree)
  | op (span : Span) (op : ClassOp) (left right : ClassTree)
  deriving Inhabited

/-- A group that only looks at what follows a place, or at what comes before it. -/
structure Around where
  ahead : Bool
  negated : Bool
  deriving DecidableEq, Inhabited

inductive Tree where
  | empty
  | flags (items : List FlagItem)
  | literal (lit : Literal)
  | dot (span : Span)
  | look (span : Span) (look : Look)
  | short (span : Span) (kind : ShortClass) (negated : Bool)
  | query (span : Span) (query : ClassQuery) (negated : Bool)
  | bracket (span : Span) (negated : Bool) (inner : ClassTree)
  | repeated (span : Span) (least : Nat) (most : Option Nat) (body : Tree)
  | group (span : Span) (flags : List FlagItem) (body : Tree)
  | around (span : Span) (around : Around) (body : Tree)
  | alt (span : Span) (items : List Tree)
  | seq (span : Span) (items : List Tree)
  deriving Inhabited

/-- Several parts one after another; a single one stands for itself. -/
def Tree.ofSeq (span : Span) : List Tree → Tree
  | [] => .empty
  | [item] => item
  | items => .seq span items

def ClassTree.ofUnion (span : Span) : List ClassTree → ClassTree
  | [] => .empty
  | [item] => item
  | items => .union span items

/-! ### Nesting -/

mutual

/-- The first part of a class that lies deeper than `room` allows. -/
def ClassTree.tooDeep (room : Nat) : ClassTree → Option Span
  | .bracket span _ inner =>
    match room with
    | 0 => some span
    | room + 1 => ClassTree.tooDeep room inner
  | .union span items =>
    match room with
    | 0 => some span
    | room + 1 => ClassTree.anyTooDeep room items
  | .op span _ left right =>
    match room with
    | 0 => some span
    | room + 1 =>
      match ClassTree.tooDeep room left with
      | some s => some s
      | none => ClassTree.tooDeep room right
  | _ => none

def ClassTree.anyTooDeep (room : Nat) : List ClassTree → Option Span
  | [] => none
  | item :: rest =>
    match ClassTree.tooDeep room item with
    | some s => some s
    | none => ClassTree.anyTooDeep room rest

end

mutual

def Tree.tooDeep (room : Nat) : Tree → Option Span
  | .bracket span _ inner =>
    match room with
    | 0 => some span
    | room + 1 => inner.tooDeep room
  | .repeated span _ _ body =>
    match room with
    | 0 => some span
    | room + 1 => Tree.tooDeep room body
  | .group span _ body =>
    match room with
    | 0 => some span
    | room + 1 => Tree.tooDeep room body
  | .around span _ body =>
    match room with
    | 0 => some span
    | room + 1 => Tree.tooDeep room body
  | .alt span items =>
    match room with
    | 0 => some span
    | room + 1 => Tree.anyTooDeep room items
  | .seq span items =>
    match room with
    | 0 => some span
    | room + 1 => Tree.anyTooDeep room items
  | _ => none

def Tree.anyTooDeep (room : Nat) : List Tree → Option Span
  | [] => none
  | item :: rest =>
    match Tree.tooDeep room item with
    | some s => some s
    | none => Tree.anyTooDeep room rest

end

end Regex
end CallCheck
