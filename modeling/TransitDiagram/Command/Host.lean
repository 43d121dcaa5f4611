import TransitDiagram.Command.FileFault

/-!
# Hosts

A run of the command reads a text, writes a text and says why it fails. Whoever does that for it is
its host, in a monad of its own. The command itself has a host in `IO`. A `FileSystem` makes a host
whose answers are functions of the files.
-/

namespace TransitDiagram

/-- What a run asks of its host. Where no path is given the standard streams are meant. -/
structure Host (m : Type → Type) where
  /-- Reads all that there is. -/
  read (path : Option String) : m (Except FileFault ByteArray)
  write (path : Option String) (text : String) : m (Except FileFault Unit)
  /-- Says on the standard error why the run ends. -/
  complain (message : String) : m Unit

/-- What has come of a run so far. -/
structure World (φ : Type) where
  stdout : String
  /-- What is said on the standard error, without the lines of the log. -/
  messages : String
  files : φ

/-- Before a run nothing has been printed. -/
def World.start {φ : Type} (files : φ) : World φ :=
  ⟨"", "", files⟩

/-- How a system reads and writes, as far as its files decide it. A path can lead to a standard
stream as well, so that it depends on the standard input what can be read there, and what is written
there changes more than the files. -/
structure FileSystem (φ : Type) where
  /-- What a path reads as. -/
  read (files : φ) (stdin : ByteArray) (path : String) : Except FileFault ByteArray
  /-- How it ends to write a text at a path, and what has come of the run then. -/
  write (path text : String) (before : World φ) : Except FileFault Unit × World φ
  /-- Whether the standard output takes a text. -/
  print (text : String) : Except FileFault Unit

namespace FileSystem

variable {φ : Type} (fs : FileSystem φ)

/-- What is read at a path or, without one, on the standard input. -/
def readAt (files : φ) (stdin : ByteArray) : Option String → Except FileFault ByteArray
  | some path => fs.read files stdin path
  | none => .ok stdin

/-- Writes at a path or, without one, on the standard output, which takes all of a text or nothing
of it. -/
def writeAt : Option String → String → StateM (World φ) (Except FileFault Unit)
  | some path, text => fs.write path text
  | none, text => do
    match fs.print text with
    | .ok () =>
      modify fun world => { world with stdout := world.stdout ++ text }
      return .ok ()
    | .error fault => return .error fault

/-- The host of a run with a standard input of these bytes. -/
def host (stdin : ByteArray) : Host (StateM (World φ)) where
  read path := return fs.readAt (← get).files stdin path
  write := fs.writeAt
  complain message :=
    modify fun world => { world with messages := world.messages ++ message ++ "\n" }

end FileSystem

end TransitDiagram
