import CallCheck.Yaml.Document
import CallCheck.Number.Shortest
import CallCheck.Text.Quoted

/-!
# What a plain scalar means

A plain scalar is nothing, a truth value, a whole number, a real number or a text, by the way it is
spelled. Whole numbers have up to 128 bits; a longer one is real. Digits after superfluous zeros are
text.
-/

namespace CallCheck
namespace Yaml

/-- The meaning of a scalar. A real number without a finite value has only its name. -/
inductive Meaning where
  | nothing
  | bool (value : Bool)
  | int (value : Int)
  | real (value : Binary64)
  | nonfinite (name : String)
  | text (value : String)
  deriving DecidableEq, Inhabited

def spellsNothing (s : String) : Bool := ["null", "Null", "NULL", "~"].contains s

def spelledBool? (s : String) : Option Bool :=
  if ["true", "True", "TRUE"].contains s then some true
  else if ["false", "False", "FALSE"].contains s then some false
  else none

/-- Whether digits follow superfluous zeros. -/
def hasSuperfluousZero (s : List Char) : Bool :=
  let digits := match s with
    | '-' :: r => r
    | '+' :: r => r
    | r => r
  match digits with
  | '0' :: r => !r.isEmpty && r.all Char.isDigit
  | _ => false

def digitsOfBase? (base : Nat) (s : List Char) : Option Nat :=
  if s.isEmpty then none
  else s.foldlM (fun n c =>
    match Json.hexValue? c with
    | some d => if d < base then some (n * base + d) else none
    | none => none) 0

/-- The natural number that a text spells, in base sixteen, eight or two after `0x`, `0o` or `0b`,
and in base ten. -/
def spelledNat? (s : List Char) : Option Nat :=
  let decimal := if hasSuperfluousZero s then none else digitsOfBase? 10 s
  let based := match s with
    | '0' :: 'x' :: r => digitsOfBase? 16 r
    | '0' :: 'o' :: r => digitsOfBase? 8 r
    | '0' :: 'b' :: r => digitsOfBase? 2 r
    | _ => none
  based <|> decimal

def spelledInt? (s : List Char) : Option Int :=
  match s with
  | '+' :: r => (spelledNat? r).bind fun n => if n < Nat.pow 2 128 then some (n : Int) else none
  | '-' :: r => (spelledNat? r).bind fun n => if n ≤ Nat.pow 2 127 then some (-(n : Int)) else none
  | r => (spelledNat? r).bind fun n => if n < Nat.pow 2 128 then some (n : Int) else none

def spelledDecimal? (negative : Bool) (s : List Char) : Option Binary64 :=
  let whole := s.takeWhile Char.isDigit
  let s := s.dropWhile Char.isDigit
  let (places, s) := match s with
    | '.' :: r => (r.takeWhile Char.isDigit, r.dropWhile Char.isDigit)
    | r => ([], r)
  if whole.isEmpty && places.isEmpty then none
  else
    let finish (e : Int) : Option Binary64 :=
      Binary64.ofDecimal? negative (Json.digitsValue (whole ++ places)) (e - places.length)
    match s with
    | [] => finish 0
    | c :: r => if c = 'e' ∨ c = 'E' then (Json.exponentValue? r).bind finish else none

def spelledReal? (s : String) : Option Meaning :=
  if [".inf", ".Inf", ".INF", "+.inf", "+.Inf", "+.INF"].contains s then some (.nonfinite "inf")
  else if ["-.inf", "-.Inf", "-.INF"].contains s then some (.nonfinite "-inf")
  else if [".nan", ".NaN", ".NAN"].contains s then some (.nonfinite "NaN")
  else
    (match s.toList with
      | '+' :: r => if r.head? = some '-' then none else spelledDecimal? false r
      | '-' :: r => spelledDecimal? true r
      | r => spelledDecimal? false r).map .real

def plainMeaning (s : String) : Meaning :=
  if s.isEmpty || spellsNothing s then .nothing
  else match spelledBool? s with
    | some b => .bool b
    | none =>
      match spelledInt? s.toList with
      | some i => .int i
      | none =>
        if hasSuperfluousZero s.toList then .text s else (spelledReal? s).getD (.text s)

/-- The tags of the core types. -/
def coreTag (name : String) : String := "tag:yaml.org,2002:" ++ name

/-- The meaning of a scalar by its tag and its style, or the value and the kind of it that a core
tag asks for in vain. -/
def scalarMeaning (tag : Option String) (text : String) (style : ScalarStyle) :
    Except (String × String) Meaning :=
  match tag with
  | none => .ok (if style = .plain then plainMeaning text else .text text)
  | some t =>
    if t = coreTag "bool" then
      match spelledBool? text with
      | some b => .ok (.bool b)
      | none => .error (text, "a boolean")
    else if t = coreTag "int" then
      match spelledInt? text.toList with
      | some i => .ok (.int i)
      | none => .error (text, "an integer")
    else if t = coreTag "float" then
      match spelledReal? text with
      | some r => .ok r
      | none => .error (text, "a float")
    else if t = coreTag "null" then
      if spellsNothing text then .ok .nothing else .error (text, "null")
    else if t.startsWith "!" && style = .plain then .ok (plainMeaning text)
    else .ok (.text text)

/-- A meaning as it is named where another kind is expected. -/
def Meaning.words : Meaning → String
  | .nothing => "unit value"
  | .bool true => "boolean `true`"
  | .bool false => "boolean `false`"
  | .int i =>
    if -(Int.pow 2 63) ≤ i ∧ i < Int.pow 2 64 then "integer `" ++ toString i ++ "`"
    else "integer `" ++ toString i ++ (if i < 0 then "` as i128" else "` as u128")
  | .real b => "floating point `" ++ b.withFraction ++ "`"
  | .nonfinite name => "floating point `" ++ name ++ "`"
  | .text s => "string " ++ Quoted.quote s

end Yaml
end CallCheck
