import LexScan.Command.Invocation
import LexScan.Log.Filter
import LexScan.Report
import LexScan.Settings.File

/-! Running a command: what it prints, what it logs, its exit code and, through the file store, what
it writes. -/
namespace LexScan.Command

/-- Something written to the error stream. -/
inductive Notice where
  | line (text : String)
  | logged (entry : Log.Entry)
  /-- How the program is used. -/
  | usage
deriving DecidableEq, Repr

inductive ExitCode where
  | success
  /-- The scan found something to report. -/
  | diagnosed
  /-- Nothing could be done. -/
  | failed
deriving DecidableEq, Repr

def ExitCode.value : ExitCode → Nat
  | .success => 0
  | .diagnosed => 1
  | .failed => 2

structure Outcome where
  code : ExitCode
  output : String
  notices : List Notice
deriving DecidableEq, Repr

namespace Notice

def render (time usage : String) : Notice → String
  | .line text => text ++ "\n"
  | .logged entry => entry.render time ++ "\n"
  | .usage => usage

/-- Log entries appear only if the filter admits them. -/
def isShown (filter : Log.Filter) : Notice → Bool
  | .logged entry => filter.admits entry
  | _ => true

end Notice

namespace Outcome

/-- The text on the error stream, with a text for the times of log entries. -/
def errorText (outcome : Outcome) (time usage : String) : String :=
  String.join (outcome.notices.map (·.render time usage))

def failure (failure : Failure) (before : List Notice) : Outcome :=
  ⟨.failed, "", before ++ [.line ("Error: " ++ failure.message)]⟩

/-- Drops the log entries that the filter does not admit. -/
def filtered (outcome : Outcome) (filter : Log.Filter) : Outcome :=
  { outcome with notices := outcome.notices.filter (·.isShown filter) }

end Outcome

/-- The settings of a scan: options of the command line go before the file. -/
def ScanRequest.apply (request : ScanRequest) (settings : Settings) : Settings :=
  { settings with
    format := request.format.getD settings.format
    showSymbols := settings.showSymbols && !request.noSymbols
    showStats := settings.showStats && !request.noStats }

/-- An event is logged, and a diagnostic is also shown at once unless the scan is quiet. -/
def noticesOf (quiet : Bool) (event : Event) : List Notice :=
  match event with
  | .diagnosed d => .logged (.ofEvent event) :: if quiet then [] else [.line d.render]
  | _ => [.logged (.ofEvent event)]

/-- What is said at the end of a scan that found something. A quiet scan lists its diagnostics
now. -/
def summary (quiet : Bool) (report : Report) : List Notice :=
  if report.hasErrors then
    [.line "\n--- Errors Found ---"] ++
      (if quiet then report.diagnostics.map fun d => .line d.render else []) ++
      (if report.complete then []
        else [.line "Scan stopped early; the token stream is incomplete."])
  else []

/-- A report as it is printed. -/
def printed (report : Report) (settings : Settings) : String :=
  match settings.format with
  | .text => report.renderText settings
  | .json => report.renderJson ++ "\n"

def scanText (request : ScanRequest) (settings : Settings) (source : String)
    (before : List Notice) : Outcome :=
  let drained := (Scanner.ofSource source settings.maxIdentifierLength).drain
  let report := Report.ofDrained drained.1 drained.2
  { code := if report.hasErrors then .diagnosed else .success
    output := printed report settings
    notices := before ++ [.logged (.scanning request.file source.length)] ++
      drained.2.trace.toList.flatMap (noticesOf request.quiet) ++ summary request.quiet report }

/-- The scan of a file that was looked up. -/
def scanLookup (request : ScanRequest) (settings : Settings) (before : List Notice) :
    Lookup → Outcome
  | .absent => .failure (.fileNotFound request.file) before
  | .unreadable fault => .failure (.ofFileFault request.file fault) before
  | .text source => scanText request settings source before

/-- A missing settings file is logged. -/
def loadNotices (path : String) : Settings.Loaded → List Notice
  | .missing => [.logged (.noSettings path)]
  | _ => []

variable {m : Type → Type} [Monad m] [FileStore m]

def runScan (path : String) (request : ScanRequest) : m Outcome := do
  let loaded ← Settings.load path
  let before := loadNotices path loaded
  match loaded.settings with
  | .error failure => pure (.failure failure before)
  | .ok settings =>
      let source ← FileStore.look request.file
      pure (scanLookup request (request.apply settings) before source)

def runShow (path : String) : m Outcome := do
  let loaded ← Settings.load path
  let before := loadNotices path loaded
  match loaded.settings with
  | .error failure => pure (.failure failure before)
  | .ok settings => pure ⟨.success, settings.render ++ "\n", before⟩

/-- Writes the default settings, unless there is something at the path. -/
def runInit (path : String) : m Outcome := do
  match ← FileStore.look path with
  | .absent =>
      match ← Settings.default.save path with
      | .ok () => pure ⟨.success, "Initialized new config file at: " ++ path ++ "\n", []⟩
      | .error failure => pure (.failure failure [])
  | _ => pure ⟨.success, "Config file already exists at: " ++ path ++ "\n", []⟩

def runRequest (path : String) : Request → m Outcome
  | .scan request => runScan path request
  | .settings .showAll => runShow path
  | .settings .init => runInit path
  | .settings .path => pure ⟨.success, path ++ "\n", []⟩

/-- The name and version of the program. -/
def versionText : String := "manual-scanner 0.1.0"

/-- Runs a command line. -/
def run (environment : Environment) (words : List String) : m Outcome := do
  match Invocation.ofWords words with
  | .version => pure ⟨.success, versionText ++ "\n", []⟩
  | .misuse => pure ⟨.failed, "", [.usage]⟩
  | .run verbosity request =>
      let outcome ← runRequest environment.settingsFile request
      pure (outcome.filtered (Log.Filter.choose environment.logFilter verbosity))

end LexScan.Command
