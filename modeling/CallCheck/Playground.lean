import CallCheck.Registry

/-!
# A playground

A canned generator of product descriptions, registered with rules and cases of its own, so that the
command line can be tried without a model. Rule files may name it as their target.
-/

namespace CallCheck
namespace Playground

def name : String := "productDescription"

/-- What a description praises. Lower case is that of ASCII: no other letter has one of the letters
looked for as its lower case. -/
def highlight (product : String) : String :=
  let product := product.toList.map Char.toLower
  if occursIn "earbuds".toList product then
    "Enjoy rich sound with a wireless fit that lasts all day"
  else if occursIn "iphone".toList product then
    "The latest camera technology and an all-day battery"
  else "Thoughtful design and dependable everyday performance"

def description (product : String) : String :=
  "Meet the " ++ product ++ ". " ++ highlight product ++
    ". Order yours today and see the difference for yourself."

def generate : Subject String String := fun _ product =>
  ⟨.value (description product), [⟨.info, "Generating description", [("product", product)]⟩], 0⟩

/-- The schema of products: a text that is not empty. -/
def schema : Except SchemaFault InputSchema :=
  InputSchema.ofJson (.ofFields [("type", .text "string"), ("minLength", .ofInt 1)])

def handle : Run (Except SchemaFault (Handle String String)) := ExceptT.run do
  let h := Handle.register name 0 generate Codec.text Codec.text (← ExceptT.mk (return schema))
  let h := h.forAll [.lacks "VR", .lacks "virtual tour", .fasterThan 5000, .longerThan 50]
  let h ← ExceptT.mk <| h.forInput "Wireless Earbuds" [.contains "wireless", .contains "sound"]
  ExceptT.mk <| h.forInput "iPhone 15 Pro" [.contains "iPhone", .contains "technology"]

def registry : Run (Except SchemaFault Registry) := ExceptT.run do
  let h ← ExceptT.mk handle
  Registry.empty.add name h.target

end Playground
end CallCheck
