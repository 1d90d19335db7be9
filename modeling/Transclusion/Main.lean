import Transclusion.Command.Line

/-!
# The program

The arguments and the environment are read, the command is run on the content of the configuration
file, and what it leaves behind is printed.
-/

open Transclusion

/-- The content of a file, if it can be read. -/
def readContent (path : String) : IO (Option Bytes) := do
  try
    return some (← IO.FS.readBinFile path).toList
  catch _ => return none

/-- The variables of the environment that options take their values from. -/
def readEnvironment : IO (List (String × String)) := do
  let options := CommandLine.programOptions ++ CommandLine.serveOptions
  (options.filterMap (·.variableName)).filterMapM fun name => do
    return (← IO.getEnv name).map fun value => (name, value)

def main (args : List String) : IO UInt32 := do
  let command := CommandLine.parse (← readEnvironment) args
  let content ← match command.configPath? with
    | some path => readContent path
    | none => pure none
  let ending := command.run content
  IO.print ending.output
  if let some line := ending.fault then IO.eprintln line
  return UInt32.ofNat ending.code
