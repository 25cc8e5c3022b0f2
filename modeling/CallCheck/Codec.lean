import CallCheck.Json.Writer
import CallCheck.Text.Quoted

/-!
# Codecs

How values of a type are read from JSON and written to it. Both may fail, with a reason in words.
-/

namespace CallCheck

/-- How a type is read from JSON and written to it. -/
structure Codec (α : Type) where
  decode : Json → Except String α
  encode : α → Except String Json

namespace Codec

/-- A value named where another kind is expected. -/
def kindWords : Json → String
  | .null => "null"
  | .bool b => "boolean `" ++ (if b then "true" else "false") ++ "`"
  | .number (.int i) => "integer `" ++ toString i ++ "`"
  | .number (.real b) => "floating point `" ++ b.scientific ++ "`"
  | .text s => "string " ++ Quoted.quote s
  | .list _ => "sequence"
  | .object _ => "map"

def wrongType {α : Type} (v : Json) (expected : String) : Except String α :=
  .error ("invalid type: " ++ kindWords v ++ ", expected " ++ expected)

def decodeText : Json → Except String String
  | .text s => .ok s
  | v => wrongType v "a string"

/-- Reads a value that may be null. -/
def decodeOptional {α : Type} (decode : Json → Except String α) : Json → Except String (Option α)
  | .null => .ok none
  | v => some <$> decode v

/-- Reads a natural number of 32 bits. -/
def decodeCount : Json → Except String UInt32
  | .number (.int i) =>
    if 0 ≤ i ∧ i < Int.pow 2 32 then .ok (UInt32.ofNat i.toNat)
    else .error ("invalid value: integer `" ++ toString i ++ "`, expected u32")
  | v => wrongType v "u32"

def text : Codec String := ⟨decodeText, fun s => .ok (.text s)⟩

def json : Codec Json := ⟨.ok, .ok⟩

def count : Codec UInt32 := ⟨decodeCount, fun n => .ok (.ofInt n.toNat)⟩

end Codec
end CallCheck
