import TransitDiagram.Command.Run

/-!
# The command

The outer layer of the command: the host that reads, writes and complains for it, in `IO`.
-/

namespace TransitDiagram.Command

/-- The number of an error of the file system, which can come with a minus sign. -/
def errorNumber (code : UInt32) : UInt32 :=
  if code < 2147483648 then code else 0 - code

/-- The fault behind an error of the file system. -/
def faultOf (error : IO.Error) : FileFault :=
  match error with
  | .noFileOrDirectory .. => .missing
  | .permissionDenied .. => .denied
  | .inappropriateType _ code _ =>
    match errorNumber code with
    | 20 => .notFolder
    | 21 => .isFolder
    | _ => .other (toString error)
  | .invalidArgument _ code _ =>
    if errorNumber code = 36 then .nameTooLong else .other (toString error)
  | .noSuchThing _ code _ =>
    if errorNumber code = 6 then .noDevice else .other (toString error)
  | .resourceExhausted _ code _ =>
    if errorNumber code = 28 then .noRoom else .other (toString error)
  | _ => .other (toString error)

/-- Tries to do something that the file system may refuse. -/
def attempt {α : Type} (action : IO α) : IO (Except FileFault α) := do
  try
    return .ok (← action)
  catch error =>
    return .error (faultOf error)

/-- Writes a file as a whole and closes it. -/
def writeFile (path text : String) : IO Unit :=
  IO.FS.withFile path .write fun file => do
    file.putStr text
    file.flush

/-- The streams and files of the process. -/
def console : Host IO where
  read
    | some path => attempt (IO.FS.readBinFile path)
    | none => attempt do (← IO.getStdin).readBinToEnd
  write
    | some path, text => attempt (writeFile path text)
    | none, text => attempt do
      let output ← IO.getStdout
      output.putStr text
      output.flush
  complain message := do (← IO.getStderr).putStrLn message

end TransitDiagram.Command

open TransitDiagram in
def main (words : List String) : IO UInt32 :=
  return (← Command.execute Command.console words).toUInt32
