import RowScript.CommandLine.Execute

/-!
The program: the commands on the file system, the standard streams and the usual
places for settings.
-/

namespace RowScript.CommandLine

/-- Whether a code is the given error number, which may come with a sign. -/
def isErrorNumber (code number : UInt32) : Bool :=
  code == number || code == -number

def FileError.ofError : IO.Error → FileError
  | .noFileOrDirectory .. => .notFound
  | .permissionDenied .. => .denied
  | .inappropriateType file code details =>
    if isErrorNumber code 20 then .notDirectory
    else if isErrorNumber code 21 then .isDirectory
    else .other (toString (IO.Error.inappropriateType file code details))
  | e => .other (toString e)

/-- The text of the bytes that `read` gives. -/
def attempt (read : IO ByteArray) : IO (Except FileError String) := do
  try
    match String.fromUTF8? (← read) with
    | some text => return .ok text
    | none => return .error .notText
  catch e =>
    return .error (.ofError e)

def fileExists (path : String) : IO Bool := do
  try
    let _ ← IO.FS.Handle.mk path .read
    return true
  catch e =>
    match FileError.ofError e with
    | .notFound | .notDirectory => return false
    | _ => return true

def readAllInput : IO ByteArray := do
  let input ← IO.getStdin
  let mut bytes := ByteArray.empty
  let mut block ← input.read 65536
  while !block.isEmpty do
    bytes := bytes ++ block
    block ← input.read 65536
  return bytes

/-- The directory for settings of the user. -/
def configDirectory : IO (Option String) := do
  match ← IO.getEnv "XDG_CONFIG_HOME" with
  | some directory => if directory.startsWith "/" then return some directory
  | none => pure ()
  return (← IO.getEnv "HOME").map (· ++ "/.config")

def machine : IO (Host IO) := do
  let shared := (← configDirectory).toList.map (· ++ "/wrangler/wrangler.yml")
  return {
    readFile := fun path => attempt (IO.FS.readBinFile path)
    fileExists := fileExists
    readInput := attempt readAllInput
    settingsFiles := "wrangler.yml" :: shared }

end RowScript.CommandLine

open RowScript.CommandLine in
/-- Carry out the command line and end with its code. -/
def main (words : List String) : IO UInt32 := do
  let ending ← execute (← machine) words
  (← IO.getStdout).putStr ending.output.text
  (← IO.getStderr).putStr ending.output.notes
  return UInt32.ofNat ending.exitCode
