import CallCheck.Json.Basic

/-!
# Reading JSON text

`Json.ofText?` reads one JSON value. Each reader returns the characters that follow what it has
read, with the fact that they are fewer, and the readers of nested values recur on that length.

An integer literal inside the signed or unsigned range of 64 bits is an integer; every other
literal, `-0` among them, is the nearest double.
-/

namespace CallCheck
namespace Json

/-- What is left of `s` after something was read from it. -/
abbrev Rest (s : List Char) := { r : List Char // r.length < s.length }

def skipBlank (s : List Char) : List Char :=
  s.dropWhile fun c => c == ' ' || c == '\n' || c == '\t' || c == '\r'

theorem length_dropWhile_le {α : Type} (p : α → Bool) :
    ∀ l : List α, (l.dropWhile p).length ≤ l.length
  | [] => Nat.le_refl _
  | c :: cs => by
    rw [List.dropWhile_cons]
    split
    · exact Nat.le_succ_of_le (length_dropWhile_le p cs)
    · exact Nat.le_refl _

theorem length_skipBlank_le (s : List Char) : (skipBlank s).length ≤ s.length :=
  length_dropWhile_le _ s

def hexValue? (c : Char) : Option Nat :=
  if '0' ≤ c ∧ c ≤ '9' then some (c.toNat - 48)
  else if 'a' ≤ c ∧ c ≤ 'f' then some (c.toNat - 87)
  else if 'A' ≤ c ∧ c ≤ 'F' then some (c.toNat - 55)
  else none

def hex4? (a b c d : Char) : Option Nat := do
  let a ← hexValue? a
  let b ← hexValue? b
  let c ← hexValue? c
  let d ← hexValue? d
  return a * 4096 + b * 256 + c * 16 + d

def surrogatePair? (high low : Nat) : Option Char :=
  if 0xD800 ≤ high ∧ high < 0xDC00 ∧ 0xDC00 ≤ low ∧ low < 0xE000 then
    some (Char.ofNat (0x10000 + (high - 0xD800) * 0x400 + (low - 0xDC00)))
  else none

def escapeLetter? : Char → Option Char
  | '"' => some '"'
  | '\\' => some '\\'
  | '/' => some '/'
  | 'b' => some '\x08'
  | 'f' => some '\x0c'
  | 'n' => some '\n'
  | 'r' => some '\r'
  | 't' => some '\t'
  | _ => none

/-- The characters of a text up to its closing quote, and what follows the quote. -/
def readQuoted : List Char → Option (List Char × List Char)
  | [] => none
  | '"' :: rest => some ([], rest)
  | '\\' :: 'u' :: a :: b :: c :: d :: '\\' :: 'u' :: e :: f :: g :: h :: rest => do
    let high ← hex4? a b c d
    let low ← hex4? e f g h
    match surrogatePair? high low with
    | some ch =>
      let (s, after) ← readQuoted rest
      return (ch :: s, after)
    | none =>
      let (s, after) ← readQuoted ('\\' :: 'u' :: e :: f :: g :: h :: rest)
      return (Char.ofNat high :: s, after)
  | '\\' :: 'u' :: a :: b :: c :: d :: rest => do
    let code ← hex4? a b c d
    let (s, after) ← readQuoted rest
    return (Char.ofNat code :: s, after)
  | '\\' :: c :: rest => do
    let ch ← escapeLetter? c
    let (s, after) ← readQuoted rest
    return (ch :: s, after)
  | c :: rest => do
    let (s, after) ← readQuoted rest
    return (c :: s, after)

theorem length_readQuoted {s t r : List Char} (h : readQuoted s = some (t, r)) :
    r.length < s.length := by
  fun_induction readQuoted s generalizing t r with
  | case1 => simp at h
  | case2 => simp at h; simp [h.2]
  | case3 a b c d e f g h' rest ih1 ih2 =>
    simp only [bind, Option.bind_eq_some_iff] at h
    obtain ⟨high, -, low, -, h⟩ := h
    split at h
    · simp only [pure, Option.bind_eq_some_iff, Option.some.injEq, Prod.mk.injEq] at h
      obtain ⟨⟨u, v⟩, hu, -, rfl⟩ := h
      have := ih1 hu
      simp; omega
    · simp only [pure, Option.bind_eq_some_iff, Option.some.injEq, Prod.mk.injEq] at h
      obtain ⟨⟨u, v⟩, hu, -, rfl⟩ := h
      have := ih2 hu
      simp at this ⊢; omega
  | case4 a b c d rest _ ih =>
    simp only [bind, pure, Option.bind_eq_some_iff, Option.some.injEq, Prod.mk.injEq] at h
    obtain ⟨_, -, ⟨u, v⟩, hu, -, rfl⟩ := h
    have := ih hu
    simp; omega
  | case5 c rest _ _ ih =>
    simp only [bind, pure, Option.bind_eq_some_iff, Option.some.injEq, Prod.mk.injEq] at h
    obtain ⟨_, -, ⟨u, v⟩, hu, -, rfl⟩ := h
    have := ih hu
    simp; omega
  | case6 c rest _ _ _ _ ih =>
    simp only [bind, pure, Option.bind_eq_some_iff, Option.some.injEq, Prod.mk.injEq] at h
    obtain ⟨⟨u, v⟩, hu, -, rfl⟩ := h
    have := ih hu
    simp; omega

def digitsValue (ds : List Char) : Nat :=
  ds.foldl (fun n c => n * 10 + (c.toNat - 48)) 0

/-- Whether a non-empty run of digits has no superfluous zero in front. -/
def wellFormedDigits : List Char → Bool
  | [] => false
  | ['0'] => true
  | '0' :: _ => false
  | _ => true

def exponentValue? (s : List Char) : Option Int :=
  let (negative, ds) := match s with
    | '-' :: ds => (true, ds)
    | '+' :: ds => (false, ds)
    | ds => (false, ds)
  if ds.isEmpty || !ds.all Char.isDigit then none
  else some (if negative then -(digitsValue ds : Int) else digitsValue ds)

def numberOfLiteral? (s : List Char) : Option Number :=
  let (negative, s) := match s with
    | '-' :: s => (true, s)
    | s => (false, s)
  let whole := s.takeWhile Char.isDigit
  let s := s.dropWhile Char.isDigit
  if !wellFormedDigits whole then none else
  let finish (places : List Char) (e : Int) : Option Number :=
    (Binary64.ofDecimal? negative (digitsValue (whole ++ places)) (e - places.length)).map .real
  match s with
  | [] =>
    let n := digitsValue whole
    if negative then
      if n ≠ 0 ∧ n ≤ Nat.pow 2 63 then some (.int (-n)) else finish [] 0
    else if n < Nat.pow 2 64 then some (.int n) else finish [] 0
  | '.' :: s =>
    let places := s.takeWhile Char.isDigit
    if places.isEmpty then none else
    match s.dropWhile Char.isDigit with
    | [] => finish places 0
    | c :: s =>
      if c = 'e' ∨ c = 'E' then (exponentValue? s).bind (finish places) else none
  | c :: s => if c = 'e' ∨ c = 'E' then (exponentValue? s).bind (finish []) else none

def isNumberChar (c : Char) : Bool :=
  c.isDigit || c == '-' || c == '+' || c == '.' || c == 'e' || c == 'E'

/-- A literal word or number at the front of the text. -/
def readScalar (s : List Char) : Option (Json × Rest s) :=
  match s with
  | 'n' :: 'u' :: 'l' :: 'l' :: r => some (.null, ⟨r, by show r.length < r.length + 4; omega⟩)
  | 't' :: 'r' :: 'u' :: 'e' :: r => some (.bool true, ⟨r, by show r.length < r.length + 4; omega⟩)
  | 'f' :: 'a' :: 'l' :: 's' :: 'e' :: r =>
    some (.bool false, ⟨r, by show r.length < r.length + 5; omega⟩)
  | c :: r =>
    if isNumberChar c then
      (numberOfLiteral? (c :: r.takeWhile isNumberChar)).map fun n =>
        (.number n, ⟨r.dropWhile isNumberChar, Nat.lt_succ_of_le (length_dropWhile_le isNumberChar r)⟩)
    else none
  | [] => none

/-- A text at the front, its opening quote included. -/
def readText (s : List Char) : Option (String × Rest s) :=
  match s with
  | '"' :: r =>
    match h : readQuoted r with
    | some (t, after) => some (String.ofList t, ⟨after, by
        have := length_readQuoted h
        simp; omega⟩)
    | none => none
  | _ => none

mutual

def readValue (s : List Char) : Option (Json × Rest s) :=
  match hs : skipBlank s with
  | '[' :: r =>
    (readItems r true).map fun (items, rest) =>
      (.list items, ⟨rest.1, by
        have h1 := length_skipBlank_le s
        have h2 := rest.2
        simp [hs] at h1; omega⟩)
  | '\x7b' :: r =>
    (readFields r true).map fun (fields, rest) =>
      (ofFields fields, ⟨rest.1, by
        have h1 := length_skipBlank_le s
        have h2 := rest.2
        simp [hs] at h1; omega⟩)
  | '"' :: r =>
    (readText ('"' :: r)).map fun (t, rest) =>
      (.text t, ⟨rest.1, by
        have h1 := length_skipBlank_le s
        have h2 := rest.2
        simp [hs] at h1 h2; omega⟩)
  | r =>
    (readScalar r).map fun (v, rest) =>
      (v, ⟨rest.1, by
        have h1 := length_skipBlank_le s
        have h2 := rest.2
        rw [hs] at h1; omega⟩)
termination_by (s.length, 0)
decreasing_by
  all_goals
    have h1 := length_skipBlank_le s
    simp [hs] at h1
    apply Prod.Lex.left
    omega

/-- The items of a list up to the closing bracket; `first` before the first one. -/
def readItems (s : List Char) (first : Bool) : Option (List Json × Rest s) :=
  match hs : skipBlank s with
  | ']' :: r =>
    if first then
      some ([], ⟨r, by
        have h1 := length_skipBlank_le s
        simp [hs] at h1; omega⟩)
    else none
  | _ =>
    match readValue s with
    | none => none
    | some (v, rest) =>
      match hr : skipBlank rest.1 with
      | ']' :: r =>
        some ([v], ⟨r, by
          have h1 := length_skipBlank_le rest.1
          have h2 := rest.2
          simp [hr] at h1; omega⟩)
      | ',' :: r =>
        have hlt : r.length < s.length := by
          have h1 := length_skipBlank_le rest.1
          have h2 := rest.2
          simp [hr] at h1; omega
        (readItems r false).map fun (vs, after) =>
          (v :: vs, ⟨after.1, Nat.lt_trans after.2 hlt⟩)
      | _ => none
termination_by (s.length, 1)
decreasing_by
  · exact Prod.Lex.right _ (by decide)
  · exact Prod.Lex.left _ _ hlt

/-- The fields of an object up to the closing brace; `first` before the first one. -/
def readFields (s : List Char) (first : Bool) : Option (List (String × Json) × Rest s) :=
  match hs : skipBlank s with
  | '\x7d' :: r =>
    if first then
      some ([], ⟨r, by
        have h1 := length_skipBlank_le s
        simp [hs] at h1; omega⟩)
    else none
  | _ =>
    match readText (skipBlank s) with
    | none => none
    | some (key, afterKey) =>
      match hc : skipBlank afterKey.1 with
      | ':' :: body =>
        have hbody : body.length < s.length := by
          have h0 := length_skipBlank_le s
          have h1 := length_skipBlank_le afterKey.1
          have h2 := afterKey.2
          simp [hc] at h1; omega
        match readValue body with
        | none => none
        | some (v, rest) =>
          match hr : skipBlank rest.1 with
          | '\x7d' :: r =>
            some ([(key, v)], ⟨r, by
              have h1 := length_skipBlank_le rest.1
              have h2 := rest.2
              simp [hr] at h1; omega⟩)
          | ',' :: r =>
            have hlt : r.length < s.length := by
              have h1 := length_skipBlank_le rest.1
              have h2 := rest.2
              simp [hr] at h1; omega
            (readFields r false).map fun (fs, after) =>
              ((key, v) :: fs, ⟨after.1, Nat.lt_trans after.2 hlt⟩)
          | _ => none
      | _ => none
termination_by (s.length, 1)
decreasing_by
  · exact Prod.Lex.left _ _ hbody
  · exact Prod.Lex.left _ _ hlt

end

/-- The value that a text writes, with nothing but blanks around it. -/
def ofText? (s : String) : Option Json :=
  match readValue s.toList with
  | some (v, rest) => if (skipBlank rest.1).isEmpty then some v else none
  | none => none

end Json
end CallCheck
