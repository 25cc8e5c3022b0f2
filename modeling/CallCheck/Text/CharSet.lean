/-!
# Sets of characters

A set is a list of closed ranges of code points. `CharSet.ofTable` reads one from its text: ranges
in hexadecimal, separated by spaces and line breaks, a range of one character written without its end.
-/

namespace CallCheck

/-- A set of characters, as closed ranges of code points. -/
structure CharSet where
  ranges : List (Nat × Nat)
  deriving DecidableEq, Inhabited

namespace CharSet

def contains (s : CharSet) (c : Char) : Bool :=
  s.ranges.any fun r => r.1 ≤ c.toNat && c.toNat ≤ r.2

def empty : CharSet := ⟨[]⟩

def range (low high : Nat) : CharSet := ⟨[(low, high)]⟩

def all : CharSet := range 0 0x10FFFF

def union (s t : CharSet) : CharSet := ⟨s.ranges ++ t.ranges⟩

/-- The ranges between the given ones, which are sorted by their lower ends; `next` is the first
code point not yet passed. -/
def gaps (next : Nat) : List (Nat × Nat) → List (Nat × Nat)
  | [] => if next ≤ 0x10FFFF then [(next, 0x10FFFF)] else []
  | (low, high) :: rest =>
    if next < low then (next, low - 1) :: gaps (max next (high + 1)) rest
    else gaps (max next (high + 1)) rest

def sorted (s : CharSet) : List (Nat × Nat) :=
  s.ranges.mergeSort fun a b => a.1 ≤ b.1

def complement (s : CharSet) : CharSet := ⟨gaps 0 s.sorted⟩

/-- The pieces of a table between spaces and line breaks. -/
def entries (table : String) : List (List Char) :=
  (table.toList.splitOnP fun c => c == ' ' || c == '\n').filter (!·.isEmpty)

def digitValue (c : Char) : Nat :=
  if c.isDigit then c.toNat - 48 else c.toNat - 87

def hexNumber (digits : List Char) : Nat :=
  digits.foldl (fun n c => n * 16 + digitValue c) 0

/-- The range that one entry of a table writes. -/
def rangeOfEntry (entry : List Char) : Nat × Nat :=
  match entry.splitOn '-' with
  | [low, high] => (hexNumber low, hexNumber high)
  | _ => (hexNumber entry, hexNumber entry)

def ofTable (table : String) : CharSet :=
  ⟨(entries table).map rangeOfEntry⟩

end CharSet
end CallCheck
