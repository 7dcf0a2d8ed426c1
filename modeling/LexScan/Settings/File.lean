import LexScan.Failure
import LexScan.Settings.Reader

/-! Settings in a file: where the file is, what it says, and how it is written. -/
namespace LexScan

/-- The environment variables that the program reads. -/
structure Environment where
  settingsPath : Option String := none
  home : Option String := none
  logFilter : Option String := none
deriving DecidableEq, Repr

/-- The path of the settings file: the one that is set, or one below the home directory. -/
def Environment.settingsFile (environment : Environment) : String :=
  match environment.settingsPath with
  | some path => path
  | none => Path.join (Path.join (environment.home.getD ".") ".mscan") "config.json"

namespace Settings

/-- What a look at the settings file comes to. -/
inductive Loaded where
  | missing
  | read (settings : Settings)
  | failed (failure : Failure)
deriving DecidableEq, Repr

/-- Without a file the defaults hold; a file that makes no sense is a failure. -/
def Loaded.settings : Loaded → Except Failure Settings
  | .missing => .ok Settings.default
  | .read settings => .ok settings
  | .failed failure => .error failure

def ofLookup (path : String) : Lookup → Loaded
  | .absent => .missing
  | .unreadable fault => .failed (.ofFileFault path fault)
  | .text contents =>
      match Settings.read contents.toList with
      | .ok settings => .read settings
      | .error flaw => .failed (.invalidSettings path flaw contents)

variable {m : Type → Type} [Monad m] [FileStore m]

def load (path : String) : m Loaded := do
  pure (ofLookup path (← FileStore.look path))

/-- Makes the directories that the file lies in and writes it. -/
def save (settings : Settings) (path : String) : m (Except Failure Unit) := do
  let write : m (Except Failure Unit) := do
    match ← FileStore.writeText path settings.fileText with
    | .ok () => pure (.ok ())
    | .error fault => pure (.error (.ofFileFault path fault))
  match Path.parent? path with
  | none => write
  | some parent =>
      match ← FileStore.makeDirectories parent with
      | .ok () => write
      | .error fault => pure (.error (.ofFileFault parent fault))

end Settings
end LexScan
