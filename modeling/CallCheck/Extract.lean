import CallCheck.Metadata

/-!
# From a call to its metadata

The prompt, the response and the tools of a call are found in arguments and results of unknown
shape. Nothing here fails: a shape that means nothing falls back to its JSON text, to the empty
text, or to no tool.
-/

namespace CallCheck
namespace Extract

/-- Nothing, `false` and the empty text count as absent. -/
def isPresent : Json → Bool
  | .null | .bool false => false
  | .text s => !s.isEmpty
  | _ => true

def partText? : Json → Option String
  | .text s => some s
  | part => part.get? "text" >>= Json.text?

/-- The text of a content: a text, or the texts of its parts joined by spaces. -/
def contentText : Json → String
  | .list parts => " ".intercalate (parts.filterMap partText?)
  | content => content.display

/-- The text of a message: its `content`, else its `text`. -/
def messageText : Json → String
  | .text s => s
  | message =>
    match ["content", "text"].findSome? (message.get? ·) with
    | some content => contentText content
    | none => ""

/-- Every argument as text, joined by spaces. -/
def joined (args : List Json) : String := " ".intercalate (args.map Json.display)

/-- The prompt of an object: its `prompt` if that is present, else the texts of its `messages`. -/
def promptOf? (argument : Json) : Option String :=
  match (argument.get? "prompt").filter isPresent with
  | some prompt => some prompt.display
  | none =>
    match argument.get? "messages" with
    | some (.list messages) => some (" ".intercalate (messages.map messageText))
    | _ => none

/-- The prompt of a call, read off its first argument if that has one. -/
def prompt (args : List Json) : String :=
  match args.head? with
  | some (.text s) => s
  | some first => (promptOf? first).getD (joined args)
  | none => joined args

/-- The choices of a result shaped as a completion. -/
def choices? (result : Json) : Option (List Json) := result.get? "choices" >>= Json.items?

/-- The text under a key, if it is not empty. -/
def filledText? (key : String) (v : Json) : Option String :=
  (v.get? key >>= Json.text?).filter (!·.isEmpty)

/-- The response of the first choice: the content of its message if that is present, else its
text. -/
def choiceText? (choice : Json) : Option String :=
  match ((choice.get? "message").bind (·.get? "content")).filter isPresent with
  | some content => some (contentText content)
  | none => filledText? "text" choice

/-- The text of a response: the first candidate of an object, in full if it has none. -/
def response : Json → String
  | .null => ""
  | .text s => s
  | result =>
    let candidate? :=
      (filledText? "text" result).or <|
        (filledText? "content" result).or <|
          (choices? result).bind (·.head?.bind choiceText?)
    candidate?.getD result.compact

/-- The name of one call of a tool: the first of its three places that is there. -/
def toolName? : Json → Option String
  | .text name => some name
  | call =>
    let named :=
      (call.get? "toolName").or <|
        (call.get? "name").or <|
          (call.get? "function").bind (·.get? "name")
    named.bind Json.text?

def choiceTools (choice : Json) : List String :=
  let calls := (choice.get? "message").bind (·.get? "tool_calls") |>.bind Json.items?
  (calls.getD []).filterMap fun call =>
    (call.get? "function").bind (·.get? "name") |>.bind Json.text?

/-- The tools that a result reports, in order: its `toolCalls`, else those of every choice. -/
def tools (result : Json) : List String :=
  match result.get? "toolCalls" with
  | some (.list calls) => calls.filterMap toolName?
  | _ => ((choices? result).getD []).flatMap choiceTools

/-- The raw input of a call: its argument, or the list of them unless there is just one. -/
def rawInput : List Json → Json
  | [single] => single
  | many => .list many

def metadata (args : List Json) (result : Json) (elapsed : Nat) : Metadata :=
  { input := .text (prompt args)
    rawInput := rawInput args
    output := response result
    responseTime := elapsed
    tools := tools result }

end Extract
end CallCheck
