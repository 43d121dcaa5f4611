import Mathlib
import TransitDiagram.Command.Host

/-!
# What a write leaves

A path leads to a file, to a standard stream or to a device. On a system that writes a text
completely or not at all (`FileSystem.WritesWhole`), a write that fails leaves everything as it was,
and any other leaves the text where the path leads and everything else as it was.
-/

namespace TransitDiagram

/-- Where a path leads. -/
inductive Target (ι : Type) where
  /-- To a file, which need not exist yet. -/
  | file (file : ι)
  /-- To the standard output, which has a path of its own on some systems. -/
  | output
  /-- To the standard error. -/
  | errors
  /-- To something that takes a text and keeps no file of it. -/
  | device

/-- What there is to see of the files of a system: what each of them holds, if it exists, and where
paths lead. The type `ι` tells the files apart, whatever paths lead to them. -/
structure FileView (φ ι : Type) where
  content (files : φ) (file : ι) : Option ByteArray
  target (files : φ) (path : String) : Target ι

/-- Nothing is printed, and no file is made or changed. -/
structure FileView.IsKept {φ ι : Type} (view : FileView φ ι) (before after : World φ) : Prop where
  stdout : after.stdout = before.stdout
  content : ∀ file, view.content after.files file = view.content before.files file

/-- A text is written where a path leads, and nothing is printed, made or changed elsewhere. -/
structure FileView.IsWritten {φ ι : Type} (view : FileView φ ι) (text : String)
    (target : Target ι) (before after : World φ) : Prop where
  output : target = .output → after.stdout = before.stdout ++ text
  silent : target ≠ .output → after.stdout = before.stdout
  errors : target = .errors → after.messages = before.messages ++ text
  file : ∀ file, target = .file file → view.content after.files file = some text.toUTF8
  others : ∀ file, target ≠ .file file →
    view.content after.files file = view.content before.files file

/-- A system that writes a text completely or not at all: a write that fails changes nothing, and
one that does not leaves the text where the path leads and changes nothing else. -/
structure FileSystem.WritesWhole {φ ι : Type} (fs : FileSystem φ) (view : FileView φ ι) : Prop where
  failed : ∀ {path text before after fault},
    fs.write path text before = (.error fault, after) → view.IsKept before after
  written : ∀ {path text before after},
    fs.write path text before = (.ok (), after) →
      view.IsWritten text (view.target before.files path) before after

section Writing

variable {φ ι : Type} {fs : FileSystem φ} {view : FileView φ ι}

theorem FileView.isKept_refl (world : World φ) : view.IsKept world world :=
  ⟨rfl, fun _ => rfl⟩

/-- The standard output as well takes a text completely or not at all. -/
theorem FileSystem.writeAt_none_cases (fs : FileSystem φ) (text : String) (before : World φ) :
    (∃ fault, (fs.writeAt none text).run before = (.error fault, before)) ∨
    (fs.writeAt none text).run before =
      (.ok (), { before with stdout := before.stdout ++ text }) := by
  rw [writeAt]
  cases fs.print text with
  | ok => exact .inr rfl
  | error fault => exact .inl ⟨fault, rfl⟩

theorem FileSystem.WritesWhole.isKept (whole : fs.WritesWhole view) {place : Option String}
    {text : String} {before after : World φ} {fault : FileFault}
    (failed : (fs.writeAt place text).run before = (.error fault, after)) :
    view.IsKept before after := by
  cases place with
  | some path => exact whole.failed failed
  | none =>
    rcases fs.writeAt_none_cases text before with ⟨_, kept⟩ | printed
    · cases kept.symm.trans failed
      exact view.isKept_refl before
    · cases printed.symm.trans failed

theorem FileSystem.eq_of_writeAt_none {text : String} {before after : World φ}
    (wrote : (fs.writeAt none text).run before = (.ok (), after)) :
    after = { before with stdout := before.stdout ++ text } := by
  rcases fs.writeAt_none_cases text before with ⟨_, kept⟩ | printed
  · cases kept.symm.trans wrote
  · cases printed.symm.trans wrote
    rfl

/-! The host of a file system reads and writes as that does. -/

theorem FileSystem.run_read_host (stdin : ByteArray) (place : Option String) (before : World φ) :
    ((fs.host stdin).read place).run before =
      pure (fs.readAt before.files stdin place, before) := rfl

theorem FileSystem.write_host (stdin : ByteArray) : (fs.host stdin).write = fs.writeAt := rfl

end Writing

/-! ### A system with folders -/

/-- The folder part of a path, with the slash at its end. -/
def folderPart (path : String) : String :=
  String.ofList (path.toList.reverse.dropWhile (· ≠ '/')).reverse

/-- A system on which files can be made in these folders. A file is told by its path, and the
standard output has a path. -/
def FileSystem.ofFolders (folders : List String) : FileSystem (String → Option ByteArray) where
  read files _ path := (files path).elim (.error .missing) .ok
  write path text before :=
    if path = "/dev/stdout" then (.ok (), { before with stdout := before.stdout ++ text })
    else if folderPart path ∈ folders then
      (.ok (), { before with files := Function.update before.files path (some text.toUTF8) })
    else (.error .missing, before)
  print _ := .ok ()

def FileView.ofPaths : FileView (String → Option ByteArray) String where
  content files path := files path
  target _ path := if path = "/dev/stdout" then .output else .file path

theorem FileView.target_ofPaths (files : String → Option ByteArray) {path : String}
    (other : path ≠ "/dev/stdout") : ofPaths.target files path = .file path := by
  rw [ofPaths]
  exact if_neg other

theorem FileSystem.writesWhole_ofFolders (folders : List String) :
    (ofFolders folders).WritesWhole .ofPaths where
  failed := by
    intro path text before after fault failed
    simp only [ofFolders] at failed
    split_ifs at failed <;> cases failed
    exact FileView.isKept_refl before
  written := by
    intro path text before after wrote
    simp only [ofFolders] at wrote
    split_ifs at wrote with output folder <;> cases wrote
    · simp only [FileView.ofPaths, if_pos output]
      exact ⟨fun _ => rfl, nofun, nofun, nofun, fun _ _ => rfl⟩
    · rw [FileView.target_ofPaths _ output]
      refine ⟨nofun, fun _ => rfl, nofun, ?_, ?_⟩
      · rintro file ⟨⟩
        exact Function.update_self ..
      · intro file other
        exact Function.update_of_ne (fun same => other (congrArg Target.file same.symm)) ..

end TransitDiagram
