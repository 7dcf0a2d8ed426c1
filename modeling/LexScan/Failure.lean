import LexScan.File.Store
import LexScan.Json.Problem

/-! Failures that stop the program before anything is scanned: a file that cannot be read, or
settings that make no sense. -/
namespace LexScan

inductive Failure where
  | fileNotFound (path : String)
  | fileFault (path : String) (fault : FileFault)
  | invalidSettings (path : String) (flaw : Json.Flaw) (text : String)
deriving DecidableEq, Repr

namespace Failure

/-- The failure that a refused file operation comes to. -/
def ofFileFault (path : String) (fault : FileFault) : Failure :=
  match fault with
  | .notFound => .fileNotFound path
  | fault => .fileFault path fault

def message : Failure → String
  | .fileNotFound path => "file not found: " ++ path
  | .fileFault path fault => "cannot read " ++ path ++ ": " ++ fault.message
  | .invalidSettings path flaw text =>
      "invalid config " ++ path ++ ": " ++ flaw.message text.toList

end Failure
end LexScan
