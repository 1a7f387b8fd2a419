import ListMarkup.CommandLine

/-!
# The program

Reads the arguments, the configuration file and the standard input, and writes the
outcome.
-/

set_option autoImplicit false

namespace ListMarkup

/-- Why the system refuses a file, with the number of the error. -/
def refusal (code : UInt32) (details : String) : Text :=
  details.toList ++ " (os error ".toList ++ Text.ofNat code.toNat ++ [')']

/-- What a path leads to. -/
def readFile (path : Text) : IO Configuration.FileContent := do
  try
    let bytes ← IO.FS.readBinFile (String.ofList path)
    match String.fromUTF8? bytes with
    | some content => pure (.text content.toList)
    | none => pure (.unreadable "stream did not contain valid UTF-8".toList)
  catch
    | .noFileOrDirectory .. => pure .missing
    | .inappropriateType _ code details =>
      if code = 20 then pure (.unreachable (refusal code details))
      else pure (.unreadable (refusal code details))
    | .permissionDenied _ code details => pure (.unreadable (refusal code details))
    | other => pure (.unreadable other.toString.toList)

/-- The directory for configurations. -/
def configurationDirectory : IO (Option String) := do
  match ← IO.getEnv "XDG_CONFIG_HOME" with
  | some directory =>
    if directory.startsWith "/" then return some directory
  | none => pure ()
  return (← IO.getEnv "HOME").map (· ++ "/.config")

/-- The standard input, if it is valid text. -/
def readInput : IO (Option Text) := do
  let bytes ← (← IO.getStdin).readBinToEnd
  return (String.fromUTF8? bytes).map String.toList

end ListMarkup

open ListMarkup in
/-- Runs the program. -/
def main (arguments : List String) : IO UInt32 := do
  let defaultPath := (← configurationDirectory).map fun directory =>
    directory.toList ++ '/' :: CommandLine.defaultConfigurationPath
  let outcome ← CommandLine.run (arguments.map String.toList) readFile defaultPath readInput
  (← IO.getStdout).putStr (String.ofList outcome.output)
  match outcome.error with
  | some message => (← IO.getStderr).putStrLn (String.ofList message)
  | none => pure ()
  return outcome.status.toUInt32
