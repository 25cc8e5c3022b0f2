import CallCheck.Codec

/-!
# Requests

A prompt that may come with a tone. A request is read from an object, whose other fields do not
count, or from the list of its two parts.
-/

namespace CallCheck

/-- A prompt that may come with a tone. -/
structure Request where
  prompt : String
  tone : Option String
  deriving DecidableEq, Inhabited

namespace Request

def decodeTone : Json → Except String (Option String) := Codec.decodeOptional Codec.decodeText

/-- Reads the fields of an object: those present in order of their keys, then what is missing. -/
def ofObject (v : Json) : Except String Request := do
  let prompt ← (v.get? "prompt").mapM Codec.decodeText
  let tone ← (v.get? "tone").mapM decodeTone
  match prompt with
  | some prompt => return ⟨prompt, tone.join⟩
  | none => throw "missing field `prompt`"

def wrongLength (length : Nat) (expected : String) : Except String Request :=
  .error ("invalid length " ++ toString length ++ ", expected " ++ expected)

def ofParts : List Json → Except String Request
  | [] => wrongLength 0 "struct Request with 2 elements"
  | [prompt] => do
    let _ ← Codec.decodeText prompt
    wrongLength 1 "struct Request with 2 elements"
  | prompt :: tone :: rest => do
    let r : Request := ⟨← Codec.decodeText prompt, ← decodeTone tone⟩
    if rest.isEmpty then return r
    else wrongLength (rest.length + 2) "fewer elements in array"

def decode : Json → Except String Request
  | .list parts => ofParts parts
  | .object fields => ofObject (.object fields)
  | v => Codec.wrongType v "struct Request"

def toJson (r : Request) : Json :=
  .ofFields [("prompt", .text r.prompt), ("tone", r.tone.elim .null .text)]

def codec : Codec Request := ⟨decode, fun r => .ok r.toJson⟩

end Request
end CallCheck
