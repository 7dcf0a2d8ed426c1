import LexScan.File.Path

/-! What the program asks of a file store, and what it can be refused. The store itself is a
parameter: a disk in memory or the disk of the machine. -/
namespace LexScan

/-- Why a file operation fails. -/
inductive FileFault where
  | notFound
  | alreadyExists
  | notDirectory
  | isDirectory
  | nameTooLong
  /-- The path holds a character that no path may hold. -/
  | invalidName
  | notText
  | other (text : String)
deriving DecidableEq, Repr

def FileFault.message : FileFault → String
  | .notFound => "No such file or directory (os error 2)"
  | .alreadyExists => "File exists (os error 17)"
  | .notDirectory => "Not a directory (os error 20)"
  | .isDirectory => "Is a directory (os error 21)"
  | .nameTooLong => "File name too long (os error 36)"
  | .invalidName => "file name contained an unexpected NUL byte"
  | .notText => "stream did not contain valid UTF-8"
  | .other text => text

/-- What a look at a path shows: nothing, something that cannot be read, or text. -/
inductive Lookup where
  | absent
  | unreadable (fault : FileFault)
  | text (contents : String)
deriving DecidableEq, Repr

/-- Bytes are text if they are well-formed UTF-8. -/
def Lookup.ofBytes (bytes : ByteArray) : Lookup :=
  match String.fromUTF8? bytes with
  | some contents => .text contents
  | none => .unreadable .notText

/-- Text that is written as UTF-8 is read as that text. -/
theorem Lookup.ofBytes_toUTF8 (contents : String) : ofBytes contents.toUTF8 = .text contents := by
  have valid : contents.toUTF8.IsValidUTF8 := contents.isValidUTF8
  unfold ofBytes String.fromUTF8?
  rw [dif_pos valid]
  rfl

class FileStore (m : Type → Type) where
  look : String → m Lookup
  isDirectory : String → m Bool
  makeDirectory : String → m (Except FileFault Unit)
  writeText : String → String → m (Except FileFault Unit)

namespace FileStore

variable {m : Type → Type} [Monad m] [FileStore m]

/-- A directory that exists already is as good as a new one. -/
def acceptDirectory (path : String) (fault : FileFault) : m (Except FileFault Unit) := do
  if ← isDirectory path then pure (.ok ()) else pure (.error fault)

/-- Makes the first of some directories, each of which lies in the next one, and those of the others
that are missing. -/
def makeLineage : List String → m (Except FileFault Unit)
  | [] => pure (.ok ())
  | path :: above => do
      match ← makeDirectory path with
      | .ok () => pure (.ok ())
      | .error .notFound =>
          match ← makeLineage above with
          | .error fault => pure (.error fault)
          | .ok () =>
              match ← makeDirectory path with
              | .ok () => pure (.ok ())
              | .error fault => acceptDirectory path fault
      | .error fault => acceptDirectory path fault

/-- Makes a directory and all above it that are missing. -/
def makeDirectories (path : String) : m (Except FileFault Unit) := makeLineage (Path.lineage path)

end FileStore
end LexScan
