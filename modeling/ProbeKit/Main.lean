import ProbeKit.CommandLine.Run
import ProbeKit.Json.Reader
import ProbeKit.Outside.Shell.Tool
import ProbeKit.Outside.Yaml.Document

/-!
# The program

The program works on a project that it reads from standard input, as one JSON object of the names
and the texts of files.  It runs its command line on these files, prints what the run printed and
then, as one JSON object, the files that the run made or changed, and ends with the status of the
run.
-/

namespace ProbeKit.Main

/-- The directory of the project. -/
def projectRoot : List String := ["project"]

/-- Adds a file to a disk, with the directories on its way. -/
def addFile (d : Disk) (name text : String) : Disk :=
  let p := (Path.mk .root projectRoot).join name
  let d := (d.ensureDirectories p.parent).toOption.getD d
  (d.write p (Text.encode text)).toOption.getD d

/-- The disk that a document describes. -/
def diskOf (j : Json) : Disk :=
  let members := match j with
    | .obj members => members
    | _ => []
  members.foldl (fun d (name, text) => addFile d name (text.str?.getD ""))
    { top := .dir [("project", .dir [])], here := projectRoot }

/-- The texts of the files of a project. -/
def textsOf (d : Disk) : List (String × String) :=
  (((d.node? ⟨.root, projectRoot⟩).map Node.files).getD []).filterMap fun (names, bytes) =>
    (Text.decode? bytes).map fun text => ("/".intercalate names, text)

/-- The document of the files that were made or changed. -/
def changes (before after : Disk) : Json :=
  let old := textsOf before
  .obj (((textsOf after).filter fun file => !old.contains file).map fun (name, text) =>
    (name, .str text))

/-- What is printed for help. -/
def helpText : String :=
  "usage: " ++ Journal.programName ++ " [-h] [-v] [--log-file FILE] \x7bbuild,emit\x7d ...\n"

/-- All lines of a stream. -/
partial def readAll (input : IO.FS.Stream) (before : String) : IO String := do
  let line ← input.getLine
  if line.isEmpty then return before
  readAll input (before ++ line)

/-- Runs a command line on the project that standard input describes. -/
def runOn (args : List String) : IO UInt32 := do
  let text ← readAll (← IO.getStdin) ""
  let disk := diskOf ((Json.read? .usual text).getD (.obj []))
  let around : CommandLine.Surroundings := ⟨Outside.Yaml.reader, ⟨.root, ["home"]⟩, []⟩
  let (outcome, desk) :=
    CommandLine.run args around { disk, tool := Outside.Shell.tool around.home [] }
  IO.eprint desk.shown
  match outcome.ending with
  | .helped => IO.print helpText
  | .escaped f => IO.eprintln f.message
  | _ => IO.print outcome.printed
  IO.print (Json.document .unicode (changes disk desk.disk))
  return UInt32.ofNat (outcome.ending.status % 256).toNat

end ProbeKit.Main

/-- The program. -/
def main (args : List String) : IO UInt32 := ProbeKit.Main.runOn args
