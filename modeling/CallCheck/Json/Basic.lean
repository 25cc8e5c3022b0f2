import CallCheck.Number.Shortest

/-!
# JSON values

A number is an exact integer of 64 bits, signed or unsigned, or a finite double. The fields of an
object are kept sorted by key and each key occurs once; `Json.ofFields` builds such a list.

Two equalities are needed. `Json.sameValue` compares numbers as doubles, so that `1` equals `1.0`;
`Json.identical` keeps the two kinds of number apart. Both are `Json.agree` at a comparison of
numbers.
-/

namespace CallCheck

/-- A JSON number: an exact integer or a finite double. -/
inductive Number where
  | int (value : Int)
  | real (value : Binary64)
  deriving DecidableEq, Inhabited

namespace Number

def toBinary64 : Number → Binary64
  | .int i => .ofInt i
  | .real b => b

/-- Equality of the nearest doubles. -/
def sameValue (a b : Number) : Bool := a.toBinary64.sameValue b.toBinary64

/-- Equality within the integers and within the doubles. -/
def identical : Number → Number → Bool
  | .int a, .int b => a == b
  | .real a, .real b => a.sameValue b
  | _, _ => false

/-- The number as a natural number of 64 bits, if it is written as one. -/
def toNat? : Number → Option Nat
  | .int i => if 0 ≤ i then some i.toNat else none
  | .real _ => none

/-- The text of a number: integers in full, doubles by `Binary64.scientific`. -/
def toText : Number → String
  | .int i => toString i
  | .real b => b.scientific

end Number

inductive Json where
  | null
  | bool (value : Bool)
  | number (value : Number)
  | text (value : String)
  | list (items : List Json)
  | object (fields : List (String × Json))
  deriving Inhabited

namespace Json

/-- Puts a field into a list sorted by key, in place of a field of the same key. -/
def insertField (key : String) (value : Json) : List (String × Json) → List (String × Json)
  | [] => [(key, value)]
  | (k, v) :: rest =>
    if key < k then (key, value) :: (k, v) :: rest
    else if key = k then (key, value) :: rest
    else (k, v) :: insertField key value rest

/-- The object with the given fields; of several with one key the last counts. -/
def ofFields (fields : List (String × Json)) : Json :=
  .object (fields.foldl (fun sorted field => insertField field.1 field.2 sorted) [])

def ofInt (i : Int) : Json := .number (.int i)

def field? (key : String) (fields : List (String × Json)) : Option Json :=
  (fields.find? (·.1 == key)).map (·.2)

def get? (key : String) : Json → Option Json
  | .object fields => field? key fields
  | _ => none

def text? : Json → Option String
  | .text s => some s
  | _ => none

def items? : Json → Option (List Json)
  | .list items => some items
  | _ => none

mutual

/-- Deep equality with numbers compared by `eq`; objects are equal when they have equally many
fields and each of the first has an equal one of the same key in the second. -/
def agree (eq : Number → Number → Bool) : Json → Json → Bool
  | .null, .null => true
  | .bool a, .bool b => a == b
  | .number a, .number b => eq a b
  | .text a, .text b => a == b
  | .list xs, .list ys => agreeItems eq xs ys
  | .object xs, .object ys => xs.length == ys.length && agreeFields eq xs ys
  | _, _ => false

def agreeItems (eq : Number → Number → Bool) : List Json → List Json → Bool
  | [], [] => true
  | x :: xs, y :: ys => agree eq x y && agreeItems eq xs ys
  | _, _ => false

/-- Each field has an equal one of the same key among `ys`. -/
def agreeFields (eq : Number → Number → Bool) :
    List (String × Json) → List (String × Json) → Bool
  | [], _ => true
  | (k, x) :: xs, ys =>
    (match field? k ys with
      | some y => agree eq x y
      | none => false) && agreeFields eq xs ys

end

mutual

/-- How many values a value consists of. -/
def size : Json → Nat
  | .list items => sizeOfItems items + 1
  | .object fields => sizeOfFields fields + 1
  | _ => 1

def sizeOfItems : List Json → Nat
  | [] => 0
  | v :: rest => size v + sizeOfItems rest

def sizeOfFields : List (String × Json) → Nat
  | [] => 0
  | (_, v) :: rest => size v + sizeOfFields rest

end

/-- Deep equality by value, numbers compared as doubles. -/
def sameValue : Json → Json → Bool := agree Number.sameValue

/-- Deep equality that tells integers from doubles. -/
def identical : Json → Json → Bool := agree Number.identical

end Json

end CallCheck
