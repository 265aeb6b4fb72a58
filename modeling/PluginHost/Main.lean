/-
# The program

Reads the files that the command line names, and leaves everything else to the definitions
that say what a command does with them.
-/
import PluginHost.CommandLine

namespace PluginHost.Program

/-- What a path leads to. -/
def lookup (path : String) : IO (Except FileError Node) := do
  try
    let octets ← IO.FS.readBinFile path
    return .ok (.file octets.toList)
  catch error =>
    match error with
    | .noFileOrDirectory _ _ _ => return .error .notFound
    | .inappropriateType none _ _ => return .ok .directory
    | .inappropriateType _ _ _ => return .error .notADirectory
    | .invalidArgument _ 22 _ => return .error .nulInPath
    | .invalidArgument _ _ _ => return .error .nameTooLong
    | _ => return .error .denied

/-- What some paths lead to. -/
def view (paths : List String) : IO FileView := do
  let found ← paths.mapM fun path => do return (path, ← lookup path)
  return fun path => (found.lookup path).getD (.error .notFound)

/-- Tells what could not be done. -/
def complain : List String → IO Unit
  | [] => return
  | what :: causes => do
    IO.eprintln s!"Error: {what}"
    unless causes.isEmpty do
      IO.eprintln "\nCaused by:"
      for cause in causes do
        IO.eprintln s!"    {cause}"

end PluginHost.Program

/-- Carries out the command line. -/
def main (words : List String) : IO UInt32 := do
  let standard := PluginHost.standardConfig
    (← IO.getEnv "XDG_CONFIG_HOME") (← IO.getEnv "HOME")
  let request := PluginHost.Request.ofWords words
  let files ← match request with
    | .perform invocation => PluginHost.Program.view (invocation.paths standard)
    | _ => PluginHost.Program.view []
  let ending := request.carryOut files standard
  IO.print ending.output
  PluginHost.Program.complain ending.failure
  if ending.status = 2 then IO.eprint PluginHost.Request.usage
  return ending.status
