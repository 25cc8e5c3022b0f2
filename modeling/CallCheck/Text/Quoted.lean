import CallCheck.Text.Category
import CallCheck.Text.Property

/-!
# Quoted text for messages

`Quoted.quote` shows a text between double quotes so that every character of it can be seen: line
breaks, tabs, quotes and backslashes by an escape of one letter, characters that do not print or
that attach to the one before them by their code point.
-/

namespace CallCheck
namespace Quoted

/-- The characters that leave a mark of their own: letters, marks, numbers, punctuation, symbols. -/
def printing : CharSet :=
  Category.union ["lu", "ll", "lt", "lm", "lo", "mn", "mc", "me", "nd", "nl", "no",
    "pc", "pd", "ps", "pe", "pi", "pf", "po", "sm", "sc", "sk", "so"]

/-- The characters that attach to the one before them. -/
def attaching : CharSet := (Property.ofName? "graphemeextend").getD .empty

def isShown (c : Char) : Bool :=
  if c.toNat < 0x80 then 0x20 ≤ c.toNat && c.toNat < 0x7F
  else !attaching.contains c && printing.contains c

def escapeChar (c : Char) : List Char :=
  match c with
  | '\x00' => ['\\', '0']
  | '\t' => ['\\', 't']
  | '\r' => ['\\', 'r']
  | '\n' => ['\\', 'n']
  | '"' => ['\\', '"']
  | '\\' => ['\\', '\\']
  | c =>
    if isShown c then [c]
    else '\\' :: 'u' :: '\x7b' :: Nat.toDigits 16 c.toNat ++ ['\x7d']

/-- The text between double quotes, with its unseen characters escaped. -/
def quote (s : String) : String :=
  String.ofList ('"' :: s.toList.flatMap escapeChar ++ ['"'])

end Quoted
end CallCheck
