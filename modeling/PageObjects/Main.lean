import PageObjects.Compile.PageObject
import PageObjects.Compile.Rendering
import PageObjects.Document.Identifier
import PageObjects.Json.Parser
import PageObjects.Json.Printer

/-!
# Command line

`page-objects [-c settings] [-n namespace] [-j] [-w workers] [-v] files…`
compiles page-object files as one batch. Each file's identifier is built from
its name under the namespace. Files, names and the namespace are read in
their held form (see `Text.CodePoint`) and printed back plainly. Without `-j` one line per page object gives its
type and method count; with `-j` the declarations are printed as JSON. A batch
that fails prints one error line per failing page object and exits with 1.
-/

namespace PageObjects.CommandLine

/-- What a command line asks for. -/
structure Invocation where
  settingsFile : Option String := none
  identifierNamespace : Option String := none
  asJson : Bool := false
  files : List String := []
  deriving Repr

/-- The invocation that command-line words give. -/
def Invocation.ofWords : List String → Except String Invocation
  | [] => .ok {}
  | "-c" :: value :: rest | "--config" :: value :: rest =>
    (Invocation.ofWords rest).map ({ · with settingsFile := some value })
  | "-n" :: value :: rest | "--namespace" :: value :: rest =>
    (Invocation.ofWords rest).map ({ · with identifierNamespace := some value })
  | "-w" :: _ :: rest | "--workers" :: _ :: rest => Invocation.ofWords rest
  | "-j" :: rest | "--json" :: rest => (Invocation.ofWords rest).map ({ · with asJson := true })
  | "-v" :: rest | "--verbose" :: rest => Invocation.ofWords rest
  | word :: rest =>
    if word.startsWith "-" then .error ("unrecognized arguments: " ++ word)
    else (Invocation.ofWords rest).map (fun i => { i with files := word :: i.files })

/-- The summary line of a compiled page object. -/
def summaryLine (identifier : Json) (d : Declaration) : String :=
  let count := match d.implementation, d.interface with
    | some v, _ => v.methods.length
    | none, some v => v.methods.length
    | none, none => 0
  identifier.plain ++ ": " ++ d.type.full ++ " (" ++ toString count ++ " methods)"

end PageObjects.CommandLine

open PageObjects PageObjects.CommandLine

def main (args : List String) : IO UInt32 := do
  let stderr ← IO.getStderr
  match Invocation.ofWords args with
  | .error message =>
    stderr.putStrLn ("error: " ++ message)
    return 2
  | .ok invocation =>
    if invocation.files.isEmpty then
      stderr.putStrLn "error: the following arguments are required: files"
      return 2
    let settings ← match invocation.settingsFile with
      | none => pure ({} : Settings)
      | some file =>
        match Settings.ofText (Text.hold (← IO.FS.readFile file)) with
        | .ok s => pure s
        | .error (.malformed e) =>
          stderr.putStrLn ("Error: Cannot load config: " ++ Text.release e.message)
          return 1
        | .error (.invalid e) =>
          stderr.putStrLn ("Error: Cannot load config: " ++ Text.release e.message)
          return 1
    let settings := match invocation.identifierNamespace with
      | some ns => if ns.isEmpty then settings else { settings with identifierNamespace := Text.hold ns }
      | none => settings
    let mut sources : List (Json × Json) := []
    for file in invocation.files do
      let text := Text.hold (← IO.FS.readFile file)
      match Json.parse text with
      | .ok tree =>
        let identifier := Document.identifierFor (Text.hold file) settings.identifierNamespace
        sources := sources ++ [(.str identifier, tree)]
      | .error e =>
        stderr.putStrLn ("Error: Cannot read page object: " ++ Text.release (e.describe text))
        return 1
    match compileAll settings sources with
    | .error (.failed b) =>
      for (_, e) in b.failures do
        stderr.putStrLn ("Error: " ++ Text.release e.message)
      return 1
    | .error e =>
      stderr.putStrLn ("Error: " ++ Text.release e.message)
      return 1
    | .ok declarations =>
      if invocation.asJson then
        IO.println (Json.render (.arr (declarations.map (fun (_, d) => d.toJson))))
      else
        for (identifier, d) in declarations do
          IO.println (Text.release (summaryLine identifier d))
      return 0
