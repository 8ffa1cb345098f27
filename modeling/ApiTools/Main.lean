import ApiTools.Generation

/-!
# The command line

Reads the file of an API description and writes the source of the compiled module.
-/

namespace ApiTools.CommandLine

/-- The files that the command works on. -/
structure Options where
  description : String
  output : String

/-- The files that are used where the command names none. -/
def Options.standard : Options :=
  ⟨"spec/simkl-openapi3.json", "simkl_mcp/generated/tools.py"⟩

/-- The options that arguments name; none if an argument is unknown or has no value. -/
def Options.read? (options : Options) : List String → Option Options
  | [] => some options
  | "--spec" :: file :: rest => Options.read? { options with description := file } rest
  | "--output" :: file :: rest => Options.read? { options with output := file } rest
  | _ => none

/-- The text of a file, if it exists. -/
def readText? (file : String) : IO (Option String) := do
  try
    return some (← IO.FS.readFile file)
  catch
    | .noFileOrDirectory .. => return none
    | error => throw error

/-- The directory of a file, if its name has one. -/
def directory? (file : String) : Option String :=
  let directory := (file.toList.reverse.dropWhile (· != '/')).drop 1
  if directory.isEmpty then none else some (String.ofList directory.reverse)

/-- Writes the text of a file, in a directory that is made if it does not exist. -/
def writeText (file text : String) : IO Unit := do
  if let some directory := directory? file then
    IO.FS.createDirAll directory
  IO.FS.writeFile file text

/-- Writes the module of a description, and what there is to say about it. -/
def generate (options : Options) : IO UInt32 := do
  match Generation.ofText (← readText? options.description) with
  | .ok generation =>
    for warning in generation.warnings do
      IO.eprintln s!"WARNING {warning.text}"
    writeText options.output generation.source
    IO.println (generation.summary options.output)
    return 0
  | .error fault =>
    IO.eprintln ((fault.message?).getD "the API description cannot be compiled")
    return 1

end ApiTools.CommandLine

/-- Generates the compiled module. -/
def main (arguments : List String) : IO UInt32 := do
  match ApiTools.CommandLine.Options.read? .standard arguments with
  | some options => ApiTools.CommandLine.generate options
  | none =>
    IO.eprintln "usage: [--spec FILE] [--output FILE]"
    return 2
