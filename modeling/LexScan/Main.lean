import LexScan.Command.Run

/-! The program: it hands the command line, the environment and the files of the machine to
`Command.run` and prints what comes back. -/
namespace LexScan.Main

/-- The code that the machine gives for an operation refused on a directory. -/
def directoryCode : UInt32 := 21

/-- The code that the machine gives for a path that is too long. -/
def longNameCode : UInt32 := 36

def faultOf : IO.Error → FileFault
  | .noFileOrDirectory _ _ _ => .notFound
  | .alreadyExists _ _ _ => .alreadyExists
  | .inappropriateType _ code _ => if code = directoryCode then .isDirectory else .notDirectory
  | .invalidArgument _ code details =>
      if code = longNameCode then .nameTooLong else .other details
  | other => .other other.toString

/-- What cannot be reached is absent. -/
def lookupOf : FileFault → Lookup
  | .notFound | .notDirectory | .nameTooLong => .absent
  | fault => .unreadable fault

def attempt (operation : IO Unit) : IO (Except FileFault Unit) := do
  try
    operation
    pure (.ok ())
  catch error => pure (.error (faultOf error))

def look (path : String) : IO Lookup := do
  try
    pure (.ofBytes (← IO.FS.readBinFile path))
  catch error => pure (lookupOf (faultOf error))

instance : FileStore IO where
  look := look
  isDirectory path := do pure ((← look path) == .unreadable .isDirectory)
  makeDirectory path := attempt (IO.FS.createDir path)
  writeText path contents := attempt (IO.FS.writeFile path contents)

def usage : String :=
  "Usage: mscan [-v]... scan [--format <text|json>] [--no-symbols] [--no-stats] [-q] <FILE>\n" ++
    "       mscan [-v]... config <show|init|path>\n" ++
    "       mscan --version\n"

def environment : IO Environment := do
  pure ⟨← IO.getEnv "MSCAN_CONFIG", ← IO.getEnv "HOME", ← IO.getEnv "RUST_LOG"⟩

end LexScan.Main

def main (words : List String) : IO UInt32 := do
  let outcome ← LexScan.Command.run (← LexScan.Main.environment) words
  let time := toString (← IO.monoMsNow)
  IO.eprint (outcome.errorText time LexScan.Main.usage)
  IO.print outcome.output
  pure outcome.code.value.toUInt32
