import CallCheck.File.Path

/-!
# Arguments of the command line

`Arguments.ofList` reads the arguments in order. A setting takes its value from the same argument,
after `=`, or from the next one; it is checked when the next argument that matters is read, or at
the end. Switches of one letter may be joined. After `--` everything is a file.
-/

namespace CallCheck

/-- What the command line asks for. -/
structure Arguments where
  files : List String
  watch : Bool
  pattern : Option String
  timeoutMillis : Option Nat
  root : Option Path
  noRecursive : Bool
  config : Option Path
  list : Bool
  verbose : Bool
  deriving DecidableEq, Inhabited

namespace Arguments

def none : Arguments := ⟨[], false, .none, .none, .none, false, .none, false, false⟩

/-- Why arguments are not run with: they ask for information, or they are wrong. -/
inductive Stop where
  | help
  | version
  | unknownArgument
  | invalidValue
  | valueValidation
  | argumentConflict
  | tooManyValues
  deriving DecidableEq, Inhabited

/-- An argument without a value. -/
inductive Switch where
  | watch
  | noRecursive
  | list
  | verbose
  | help
  | version
  deriving DecidableEq, Inhabited

/-- An argument with a value. -/
inductive Setting where
  | pattern
  | timeout
  | root
  | config
  deriving DecidableEq, Inhabited

inductive Meaning where
  | switch (s : Switch)
  | setting (s : Setting)
  deriving DecidableEq, Inhabited

def long? : String → Option Meaning
  | "watch" => some (.switch .watch)
  | "pattern" => some (.setting .pattern)
  | "timeout" => some (.setting .timeout)
  | "root" => some (.setting .root)
  | "no-recursive" => some (.switch .noRecursive)
  | "config" => some (.setting .config)
  | "list" => some (.switch .list)
  | "verbose" => some (.switch .verbose)
  | "help" => some (.switch .help)
  | "version" => some (.switch .version)
  | _ => .none

def short? : Char → Option Meaning
  | 'w' => some (.switch .watch)
  | 'p' => some (.setting .pattern)
  | 'c' => some (.setting .config)
  | 'v' => some (.switch .verbose)
  | 'h' => some (.switch .help)
  | 'V' => some (.switch .version)
  | _ => .none

/-- A natural number of 64 bits, which may have a plus sign. -/
def nat64? (s : String) : Option Nat :=
  let digits := if s.toList.head? = some '+' then s.toList.tail else s.toList
  if digits.isEmpty || !digits.all Char.isDigit then .none
  else
    let n := digits.foldl (fun n c => n * 10 + (c.toNat - 48)) 0
    if n < Nat.pow 2 64 then some n else .none

/-- A path, which is not empty. -/
def pathOf (s : String) : Except Stop Path :=
  if s.isEmpty then .error .invalidValue else .ok ⟨s⟩

/-- Gives a setting its value, unless it has one. -/
def assign (a : Arguments) (value : String) : Setting → Except Stop Arguments
  | .pattern =>
    if a.pattern.isSome then .error .argumentConflict
    else .ok { a with pattern := some value }
  | .timeout =>
    if a.timeoutMillis.isSome then .error .argumentConflict
    else match nat64? value with
      | some n => .ok { a with timeoutMillis := some n }
      | .none => .error .valueValidation
  | .root =>
    if a.root.isSome then .error .argumentConflict
    else do return { a with root := some (← pathOf value) }
  | .config =>
    if a.config.isSome then .error .argumentConflict
    else do return { a with config := some (← pathOf value) }

/-- Sets a switch, unless it is set. -/
def turnOn (a : Arguments) : Switch → Except Stop Arguments
  | .watch => if a.watch then .error .argumentConflict else .ok { a with watch := true }
  | .noRecursive =>
    if a.noRecursive then .error .argumentConflict else .ok { a with noRecursive := true }
  | .list => if a.list then .error .argumentConflict else .ok { a with list := true }
  | .verbose => if a.verbose then .error .argumentConflict else .ok { a with verbose := true }
  | .help => .error .help
  | .version => .error .version

/-- A setting that was named but not yet given its value. -/
inductive Pending where
  | nothing
  | named (s : Setting)
  | valued (s : Setting) (value : String)
  deriving DecidableEq, Inhabited

structure Progress where
  arguments : Arguments
  pending : Pending

namespace Progress

def settle (p : Progress) : Except Stop Arguments :=
  match p.pending with
  | .nothing => .ok p.arguments
  | .named _ => .error .invalidValue
  | .valued s value => p.arguments.assign value s

/-- Settles what is pending and goes on without anything pending. -/
def andThen (p : Progress) (f : Arguments → Except Stop Arguments) : Except Stop Progress := do
  return ⟨← f (← p.settle), .nothing⟩

/-- Names a setting whose value comes with it or is to follow. -/
def name (p : Progress) (s : Setting) : Option String → Except Stop Progress
  | some value => p.andThen (·.assign value s)
  | .none => do return ⟨← p.settle, .named s⟩

def file (p : Progress) (name : String) : Except Stop Progress :=
  p.andThen fun a => .ok { a with files := a.files ++ [name] }

def long (p : Progress) (text : List Char) : Except Stop Progress :=
  let key := text.takeWhile (· ≠ '=')
  let value := match text.dropWhile (· ≠ '=') with
    | [] => Option.none
    | _ :: v => some (String.ofList v)
  match long? (String.ofList key), value with
  | .none, _ => .error .unknownArgument
  | some (.switch s), .none => p.andThen (·.turnOn s)
  | some (.switch _), some _ => .error .tooManyValues
  | some (.setting s), v => p.name s v

/-- Joined letters. The letters after a setting are its value. -/
def short (p : Progress) : List Char → Except Stop Progress
  | [] => .ok p
  | c :: rest =>
    match short? c with
    | .none => .error .unknownArgument
    | some (.switch s) => do short (← p.andThen (·.turnOn s)) rest
    | some (.setting s) =>
      match rest with
      | [] => p.name s .none
      | '=' :: v => p.name s (some (String.ofList v))
      | v => p.name s (some (String.ofList v))

/-- An argument that names nothing: the value of a setting, or a file. -/
def plain (p : Progress) (text : String) : Except Stop Progress :=
  match p.pending with
  | .named s => .ok { p with pending := .valued s text }
  | _ => p.file text

def readAll (p : Progress) : List String → Except Stop Arguments
  | [] => p.settle
  | text :: rest =>
    match text.toList with
    | ['-', '-'] => do (← rest.foldlM file p).settle
    | '-' :: '-' :: name => do readAll (← p.long name) rest
    | '-' :: c :: letters => do readAll (← p.short (c :: letters)) rest
    | _ => do readAll (← p.plain text) rest

end Progress

def ofList (arguments : List String) : Except Stop Arguments :=
  Progress.readAll ⟨.none, .nothing⟩ arguments

end Arguments
end CallCheck
