import CallCheck.CommandLine.Program
import CallCheck.Playground

/-!
# The playground as a program

Takes a picture of the files that the arguments can lead to, runs the playground over that picture,
and prints what comes of it: the output, and the log with the errors beside it.
-/

namespace CallCheck
namespace Main

open File (Disk Tree)

/-- The file or the directory at a place. Links below a directory are left out. -/
partial def pictureOf (place : String) : IO Tree := do
  let here ← IO.FS.realPath place
  if ← here.isDir then
    let mut entries := []
    for entry in ← here.readDir do
      let kind := (← entry.path.symlinkMetadata).type
      if kind == .dir || kind == .file then
        entries := Tree.setEntry entry.fileName (← pictureOf entry.path.toString) entries
    return .directory entries
  else
    return .file (← IO.FS.readBinFile here)

/-- Adds what is at a place to a picture. What cannot be read stays absent. -/
def addPlace (d : Disk) (p : Path) : IO Disk := do
  try
    let here ← IO.FS.realPath p.text
    return d.write ⟨here.toString⟩ (← pictureOf p.text)
  catch _ => return d

/-- The configuration files that may be found from a directory. -/
def configFiles : List String → List Path
  | [] => [(Path.ofNames []).join ⟨Config.fileName⟩]
  | name :: above =>
    (Path.ofNames (name :: above).reverse).join ⟨Config.fileName⟩ :: configFiles above

/-- A picture of what the arguments can lead to from the working directory. -/
def picture (working : Path) (a : Arguments) : IO Disk := do
  let names := working.components.filterMap Path.Component.name?
  let empty : Disk := ⟨.directory [], names⟩
  let d ← (configFiles names.reverse ++ a.config.toList).foldlM addPlace empty
  let d ← addPlace d working
  let d ← (a.files.map Path.mk).foldlM addPlace d
  match ((CommandLine.configuration d working a.config).run []).1 with
  | .error _ => return d
  | .ok (c, directory) =>
    let c := c.withOverrides a.root a.noRecursive a.timeoutMillis
    addPlace d (c.searchDirectory working directory)

def levelName : Level → String
  | .debug => "DEBUG"
  | .info => "INFO"
  | .warn => "WARN"

def eventLine (e : LogEvent) : String :=
  levelName e.level ++ " " ++ e.message ++
    String.join (e.fields.map fun (name, value) => " " ++ name ++ "=" ++ value)

def isShown (verbose : Bool) (e : LogEvent) : Bool :=
  match e.level with
  | .debug => false
  | .info => verbose
  | .warn => true

def playground (d : Disk) (working : Path) (arguments : List String) (terminal : Bool) :
    Run CommandLine.Printout := do
  match ← Playground.registry with
  | .error fault => return ⟨2, [], ["Error registering handles: " ++ fault.message]⟩
  | .ok registry => CommandLine.program d registry working arguments terminal

end Main
end CallCheck

open CallCheck in
/-- Runs the playground with the arguments of the program. -/
def main (arguments : List String) : IO UInt32 := do
  let working : Path := ⟨(← IO.currentDir).toString⟩
  let a := (Arguments.ofList arguments).toOption.getD .none
  let d ← Main.picture working a
  let terminal ← (← IO.getStdout).isTty
  let (printout, journal) := (Main.playground d working arguments terminal).run []
  for e in journal.events do
    if Main.isShown a.verbose e then IO.eprintln (Main.eventLine e)
  for line in printout.output do IO.println line
  for line in printout.errors do IO.eprintln line
  return printout.code.toUInt32
