import CallCheck.Json.Basic

/-!
# JSON pointers

A pointer leads from a value to a part of it by keys and indices. Written, each step follows a
slash, and a slash or a tilde inside a step is escaped. References hold pointers with percent
escapes as well.
-/

namespace CallCheck

/-- The steps from a value to a part of it. -/
abbrev Pointer := List String

namespace Pointer

def escapeChar (c : Char) : List Char :=
  if c = '~' then ['~', '0'] else if c = '/' then ['~', '1'] else [c]

def written (p : Pointer) : String :=
  String.join (p.map fun step => "/" ++ String.ofList (step.toList.flatMap escapeChar))

def unescape : List Char → List Char
  | '~' :: '0' :: rest => '~' :: unescape rest
  | '~' :: '1' :: rest => '/' :: unescape rest
  | c :: rest => c :: unescape rest
  | [] => []

/-- The pointer that is written after a first slash. -/
def ofWritten (s : List Char) : Pointer :=
  (s.splitOn '/').tail.map fun step => String.ofList (unescape step)

def hexValue? (c : Char) : Option Nat :=
  if c.isDigit then some (c.toNat - 48)
  else if 'a' ≤ c ∧ c ≤ 'f' then some (c.toNat - 87)
  else if 'A' ≤ c ∧ c ≤ 'F' then some (c.toNat - 55)
  else none

/-- The bytes of a text in which a percent sign and two digits stand for a byte. -/
def percentBytes : List Char → List UInt8
  | '%' :: a :: b :: rest =>
    match hexValue? a, hexValue? b with
    | some m, some n => (16 * m + n).toUInt8 :: percentBytes rest
    | _, _ => '%'.toNat.toUInt8 :: percentBytes (a :: b :: rest)
  | c :: rest => (String.singleton c).toUTF8.toList ++ percentBytes rest
  | [] => []
termination_by s => s.length

def percentDecoded? (s : List Char) : Option String :=
  String.fromUTF8? (ByteArray.mk (percentBytes s).toArray)

def index? (step : String) : Option Nat :=
  if step.toList.isEmpty || !step.toList.all Char.isDigit then none
  else some (step.toList.foldl (fun n c => n * 10 + (c.toNat - 48)) 0)

end Pointer

end CallCheck
