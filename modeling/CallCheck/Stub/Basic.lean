import CallCheck.Handle

/-!
# Stubs

A stub is a function given as data, to try rules and reports without a model. It sees its input as
JSON and answers at once, with a value, a raised error or a panic.
-/

namespace CallCheck

inductive Stub where
  | logging (text : String) (next : Stub)
  | sequence (stubs : List Stub)
  | choice (branches : List (Json × Stub)) (otherwise : Stub)
  | panics (payload : Payload)
  | raises (error : Raised)
  | fills (template : String)
  | returns (value : Json)
  | echo
  deriving Inhabited

namespace Stub

def fillChars (filling : List Char) : List Char → List Char
  | '\x7b' :: '\x7d' :: rest => filling ++ fillChars filling rest
  | c :: rest => c :: fillChars filling rest
  | [] => []

/-- A template with its pairs of braces replaced by the input. -/
def fill (template : String) (input : Json) : String :=
  String.ofList (fillChars input.display.toList template.toList)

/-- An answer at once and without events. -/
def answer (outcome : Outcome Json) : Reply Json := ⟨outcome, [], 0⟩

mutual

/-- What a stub does with an input after so many earlier calls. -/
def reply (calls : Nat) (input : Json) : Stub → Reply Json
  | .logging text next =>
    let r := reply calls input next
    { r with events := ⟨.info, text, []⟩ :: r.events }
  | .sequence stubs => replyInTurn calls input calls stubs
  | .choice branches otherwise =>
    (replyByInput? calls input branches).getD (reply calls input otherwise)
  | .panics payload => answer (.panicked payload)
  | .raises error => answer (.raised error)
  | .fills template => answer (.value (.text (fill template input)))
  | .returns v => answer (.value v)
  | .echo => answer (.value input)

/-- What the stub whose turn it is does; the last one's turn does not end. -/
def replyInTurn (calls : Nat) (input : Json) : Nat → List Stub → Reply Json
  | _, [] => answer (.value input)
  | _, [last] => reply calls input last
  | 0, s :: _ => reply calls input s
  | turn + 1, _ :: rest => replyInTurn calls input turn rest

def replyByInput? (calls : Nat) (input : Json) : List (Json × Stub) → Option (Reply Json)
  | [] => none
  | (v, s) :: rest =>
    if v.identical input then some (reply calls input s) else replyByInput? calls input rest

end

/-- Any JSON value; an object with the field `$unserializable` cannot be written, for the reason
that is the text of the field. -/
def codec : Codec Json :=
  { decode := .ok
    encode := fun v =>
      match v.get? "$unserializable" with
      | some reason => .error reason.display
      | none => .ok v }

/-- The function of a stub; an input that cannot be written is seen as null. -/
def subject {ι : Type} (input : Codec ι) (s : Stub) : Subject ι Json := fun calls i =>
  s.reply calls ((input.encode i).toOption.getD .null)

end Stub
end CallCheck
