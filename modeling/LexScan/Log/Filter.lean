import LexScan.Log.Directive

/-! Which entries are logged. A filter is a list of directives; of those that cover an entry the
weightiest decides, and of two that weigh the same the later one. -/
namespace LexScan.Log

abbrev Filter := List Directive

namespace Filter

/-- The directive that decides for an entry. -/
def deciding (filter : Filter) (entry : Entry) : Option Directive :=
  (filter.filter (·.covers entry)).foldl (fun best directive =>
    if best.any (·.outweighs directive) then best else some directive) none

def admits (filter : Filter) (entry : Entry) : Bool :=
  (filter.deciding entry).any (·.admits entry.level)

/-- Directives between commas. One that cannot be read spoils all. -/
def parse? (text : String) : Option Filter :=
  (((text.splitOn ",").filter (!·.isEmpty)).mapM fun part => Directive.read? part.toList).map
    (·.filterMap Directive.Reading.directive?)

/-- The filter for a count of requests for more detail. -/
def ofVerbosity : Nat → Filter
  | 0 => [⟨"", none, some .error⟩]
  | 1 => [⟨"manual_scanner", none, some .debug⟩]
  | _ => [⟨"manual_scanner", none, some .trace⟩]

/-- The filter that is set, if it makes sense, or else the one for a verbosity. -/
def choose (setting : Option String) (verbosity : Nat) : Filter :=
  (setting.bind parse?).getD (ofVerbosity verbosity)

end Filter
end LexScan.Log
