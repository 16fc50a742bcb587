import TxnLiveness.Disk.Path
/-!
# Disks

What a program needs of a disk in order to save a text. `Disk.save` makes the directories that are
missing and says what it was about when something went wrong.
-/

namespace TxnLiveness

/-- What an operating system says of a failure. -/
structure OsFault where
  text : String
  code : Nat
deriving DecidableEq

namespace OsFault

def message (f : OsFault) : String := s!"{f.text} (os error {f.code})"

def notFound : OsFault := ⟨"No such file or directory", 2⟩

def inputOutput : OsFault := ⟨"Input/output error", 5⟩

def noDevice : OsFault := ⟨"No such device or address", 6⟩

def alreadyExists : OsFault := ⟨"File exists", 17⟩

def notDirectory : OsFault := ⟨"Not a directory", 20⟩

def isDirectory : OsFault := ⟨"Is a directory", 21⟩

def noSpace : OsFault := ⟨"No space left on device", 28⟩

def nameTooLong : OsFault := ⟨"File name too long", 36⟩

end OsFault

/-- Access to a disk, by path. -/
structure Disk (m : Type → Type) where
  makeDir : String → ExceptT OsFault m Unit
  isDir : String → m Bool
  write : String → String → ExceptT OsFault m Unit

/-- Why a text could not be saved. -/
inductive SaveFault
  | makeDir (path : String) (cause : OsFault)
  | write (path : String) (cause : OsFault)
deriving DecidableEq

/-- What went wrong, and why. -/
def SaveFault.causes : SaveFault → List String
  | .makeDir path cause => [s!"create dir {path}", cause.message]
  | .write path cause => [s!"write {path}", cause.message]

namespace Disk

variable {m : Type → Type} [Monad m]

/-- Makes a directory unless it is there. -/
def ensureDir (d : Disk m) (path : String) : ExceptT OsFault m Unit :=
  tryCatch (d.makeDir path) fun fault => do
    unless ← d.isDir path do throw fault

/-- Makes the first of some directories, each of which lies in the next, and of the others those
that it takes. -/
def makeDirs (d : Disk m) : List String → ExceptT OsFault m Unit
  | [] => pure ()
  | path :: above =>
    tryCatch (d.ensureDir path) fun fault => do
      if fault = .notFound then
        d.makeDirs above
        d.ensureDir path
      else throw fault

/-- Saves a text, in a directory that is made if it is missing. -/
def save (d : Disk m) (path text : String) : ExceptT SaveFault m Unit := do
  match parent? path with
  | some dir => ExceptT.adapt (.makeDir dir) (d.makeDirs (lineage dir))
  | none => pure ()
  ExceptT.adapt (.write path) (d.write path text)

end Disk

end TxnLiveness
