/-!
# Faults of files

Why the text of a file cannot be had or a file cannot be made, in the words of the operating system.
-/

namespace TransitDiagram

/-- Why a file cannot be read or written. -/
inductive FileFault where
  | missing
  | isFolder
  | notFolder
  | nameTooLong
  | denied
  | noDevice
  | noRoom
  | notText
  | other (message : String)
  deriving DecidableEq

def FileFault.message : FileFault → String
  | missing => "No such file or directory (os error 2)"
  | isFolder => "Is a directory (os error 21)"
  | notFolder => "Not a directory (os error 20)"
  | nameTooLong => "File name too long (os error 36)"
  | denied => "Permission denied (os error 13)"
  | noDevice => "No such device or address (os error 6)"
  | noRoom => "No space left on device (os error 28)"
  | notText => "stream did not contain valid UTF-8"
  | other message => message

def decodeText (bytes : ByteArray) : Except FileFault String :=
  match String.fromUTF8? bytes with
  | some text => pure text
  | none => throw .notText

end TransitDiagram
