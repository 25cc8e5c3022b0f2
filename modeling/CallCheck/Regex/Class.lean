import CallCheck.Regex.Tree
import CallCheck.Text.Category
import CallCheck.Text.Script
import CallCheck.Text.Property
import CallCheck.Text.Folding

/-!
# Classes of characters in patterns

The sets that names, letters and brackets stand for. A class is folded first when case is ignored,
and negated then. Outside Unicode a class may hold ASCII characters only, so that a match never
splits a character.
-/

namespace CallCheck
namespace Regex

structure Mode where
  ignoreCase : Bool := false
  multiLine : Bool := false
  dotMatchesNewLine : Bool := false
  unicode : Bool := true
  carriageReturn : Bool := false
  deriving DecidableEq, Inhabited

def Mode.apply (m : Mode) (items : List FlagItem) : Mode :=
  { ignoreCase := (flagState .ignoreCase items false).getD m.ignoreCase
    multiLine := (flagState .multiLine items false).getD m.multiLine
    dotMatchesNewLine := (flagState .dotMatchesNewLine items false).getD m.dotMatchesNewLine
    unicode := (flagState .unicode items false).getD m.unicode
    carriageReturn := (flagState .carriageReturn items false).getD m.carriageReturn }

end Regex

namespace CharSet

def inter (s t : CharSet) : CharSet := (s.complement.union t.complement).complement

def diff (s t : CharSet) : CharSet := s.inter t.complement

def symmDiff (s t : CharSet) : CharSet := (s.diff t).union (t.diff s)

def folded (s : CharSet) : CharSet :=
  let holds (n : Nat) : Bool := s.ranges.any fun r => r.1 ≤ n && n ≤ r.2
  ⟨s.ranges ++ ((Folding.groups.filter fun g => g.any holds).flatten.map fun n => (n, n))⟩

def foldedAscii (s : CharSet) : CharSet :=
  let letters := (List.range 26).map (· + 0x41)
  let both := letters.filter fun n =>
    s.contains (Char.ofNat n) || s.contains (Char.ofNat (n + 32))
  ⟨s.ranges ++ both.flatMap fun n => [(n, n), (n + 32, n + 32)]⟩

def isAscii (s : CharSet) : Bool := s.ranges.all fun r => r.2 < 0x80

end CharSet

namespace Regex

/-- Word characters: letters, marks, decimal digits, connecting punctuation and joiners. -/
def wordSet : CharSet :=
  (((Property.ofName? "alphabetic").getD .empty).union
    (Category.union ["mn", "mc", "me", "nd", "pc"])).union
      ((Property.ofName? "joincontrol").getD .empty)

def asciiWordSet : CharSet := .ofTable "30-39 41-5a 5f 61-7a"

def ShortClass.set (kind : ShortClass) (unicode : Bool) : CharSet :=
  match kind, unicode with
  | .digit, true => Category.union ["nd"]
  | .digit, false => .ofTable "30-39"
  | .space, true => (Property.ofName? "whitespace").getD .empty
  | .space, false => .ofTable "9-d 20"
  | .word, true => wordSet
  | .word, false => asciiWordSet

/-- The set of a class named between brackets and colons. -/
def asciiSet (name : String) : CharSet :=
  .ofTable <|
    if name = "alnum" then "30-39 41-5a 61-7a"
    else if name = "alpha" then "41-5a 61-7a"
    else if name = "ascii" then "0-7f"
    else if name = "blank" then "9 20"
    else if name = "cntrl" then "0-1f 7f"
    else if name = "digit" then "30-39"
    else if name = "graph" then "21-7e"
    else if name = "lower" then "61-7a"
    else if name = "print" then "20-7e"
    else if name = "punct" then "21-2f 3a-40 5b-60 7b-7e"
    else if name = "space" then "9-d 20"
    else if name = "upper" then "41-5a"
    else if name = "word" then "30-39 41-5a 5f 61-7a"
    else "30-39 41-46 61-66"

/-- A name as the tables have it: ASCII in small letters, without blanks, hyphens and underscores
and without `is` at the front. -/
def normalName (name : String) : String :=
  let chars := name.toList
  let (rest, prefixed) := match chars with
    | a :: b :: r => if (a == 'i' || a == 'I') && (b == 's' || b == 'S') then (r, true)
      else (chars, false)
    | _ => (chars, false)
  let kept := (rest.filter fun c => c.toNat < 0x80 && c != ' ' && c != '_' && c != '-').map
    Char.toLower
  if prefixed && kept == ['c'] then "isc" else String.ofList kept

/-- The set that a class by name asks for, or the reason why there is none. -/
def ClassQuery.resolve : ClassQuery → Except Cause CharSet
  | .named name =>
    let n := normalName name
    let property := if ["cf", "sc", "lc"].contains n then none else Property.ofName? n
    match property, Category.ofName? n, Script.ofName? n with
    | some set, _, _ => .ok set
    | none, some set, _ => .ok set
    | none, none, some set => .ok set
    | none, none, none => .error .propertyNotFound
  | .valued property value =>
    let p := normalName property
    let found? (set : Option CharSet) : Except Cause CharSet :=
      match set with
      | some set => .ok set
      | none => .error .propertyValueNotFound
    if ["generalcategory", "gc"].contains p then found? (Category.ofName? (normalName value))
    else if ["script", "sc"].contains p then found? (Script.ofName? (normalName value))
    else if ["scriptextensions", "scx"].contains p then
      found? (Script.extension? (normalName value))
    else if (Property.ofName? p).isSome then .error .propertyValueNotFound
    else .error .propertyNotFound

/-- A set folded and negated as the mode and the pattern ask, refused when it leaves ASCII outside
Unicode. -/
def finish (mode : Mode) (span : Span) (negated : Bool) (set : CharSet) :
    Except Fault CharSet :=
  let folded :=
    if mode.ignoreCase then (if mode.unicode then set.folded else set.foldedAscii) else set
  let final := if negated then folded.complement else folded
  if !mode.unicode && !final.isAscii then .error ⟨.invalidUtf8, span, none⟩ else .ok final

def shortSet (mode : Mode) (span : Span) (kind : ShortClass) (negated : Bool) :
    Except Fault CharSet :=
  let set := kind.set mode.unicode
  let final := if negated then set.complement else set
  if !mode.unicode && !final.isAscii then .error ⟨.invalidUtf8, span, none⟩ else .ok final

def querySet (mode : Mode) (span : Span) (query : ClassQuery) (negated : Bool) :
    Except Fault CharSet :=
  if !mode.unicode then .error ⟨.unicodeNotAllowed, span, none⟩
  else match query.resolve with
    | .ok set => finish mode span negated set
    | .error cause => .error ⟨cause, span, none⟩

def classLiteral (mode : Mode) (lit : Literal) : Except Fault Nat :=
  let n := lit.char.toNat
  if mode.unicode || n < 0x80 then .ok n
  else .error ⟨if lit.byte then .invalidUtf8 else .unicodeNotAllowed, lit.span, none⟩

mutual

/-- The set between the brackets of a class, in a mode. -/
def ClassTree.set (mode : Mode) : ClassTree → Except Fault CharSet
  | .empty => .ok .empty
  | .literal lit => do
    let n ← classLiteral mode lit
    return .range n n
  | .range _ low high => do
    let a ← classLiteral mode low
    let b ← classLiteral mode high
    return .range a b
  | .ascii name negated =>
    let set := asciiSet name
    .ok (if !negated then set
      else if mode.unicode then set.complement else (CharSet.range 0 0x7F).diff set)
  | .short span kind negated => shortSet mode span kind negated
  | .query span q negated => querySet mode span q negated
  | .bracket span negated inner => do finish mode span negated (← inner.set mode)
  | .union _ items => ClassTree.unionSet mode items
  | .op _ kind left right => do
    let fold (s : CharSet) : CharSet :=
      if mode.ignoreCase then (if mode.unicode then s.folded else s.foldedAscii) else s
    let a := fold (← left.set mode)
    let b := fold (← right.set mode)
    return match kind with
      | .intersection => a.inter b
      | .difference => a.diff b
      | .symmetricDifference => a.symmDiff b

def ClassTree.unionSet (mode : Mode) : List ClassTree → Except Fault CharSet
  | [] => .ok .empty
  | item :: rest => do
    let a ← item.set mode
    let b ← ClassTree.unionSet mode rest
    return a.union b

end

end Regex
end CallCheck
