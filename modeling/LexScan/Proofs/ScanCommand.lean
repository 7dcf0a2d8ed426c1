import LexScan.Proofs.Conservation
import LexScan.Proofs.ErrorStream
import LexScan.Proofs.SavedSettings

/-! What a scan of a file comes to. There are three ways: the settings cannot be loaded, the file
cannot be read as text, or a report is printed. The first two end with one line and nothing printed;
the last one ends well or with diagnostics, and only then there is a header on the error stream. In
no case is the disk touched. -/
namespace LexScan

/-- The settings that a disk gives at a path. -/
def Settings.loadedFrom (disk : Disk) (path : String) : Except Failure Settings :=
  ((load path : StateM Disk Loaded) disk).1.settings

namespace Command

/-! ### Running a request -/

/-- A request that a command line makes is run with the settings file of the environment, and its
log entries are filtered. -/
theorem run_of_accepted {words : List String} {verbosity : Nat} {request : Request}
    (accepted : Invocation.ofWords words = .run verbosity request) (environment : Environment)
    (disk : Disk) :
    (run environment words : StateM Disk Outcome) disk =
      let result := (runRequest environment.settingsFile request : StateM Disk Outcome) disk
      (result.1.filtered (Log.Filter.choose environment.logFilter verbosity), result.2) := by
  unfold run
  rw [accepted]
  rfl

/-- What is logged when settings are loaded. -/
def loadNoticesOn (disk : Disk) (path : String) : List Notice :=
  loadNotices path (Settings.ofLookup path (disk.look path))

theorem spoken_loadNoticesOn (disk : Disk) (path : String) :
    spoken (loadNoticesOn disk path) = [] := by
  unfold loadNoticesOn loadNotices
  split <;> rfl

theorem entry_of_mem_loadNoticesOn {disk : Disk} {path : String} {entry : Log.Entry}
    (member : .logged entry ∈ loadNoticesOn disk path) : entry = .noSettings path := by
  unfold loadNoticesOn loadNotices at member
  split at member
  · simpa using member
  · simp at member

theorem runScan_of_error {disk : Disk} {path : String} {failure : Failure}
    (refused : Settings.loadedFrom disk path = .error failure) (request : ScanRequest) :
    (runScan path request : StateM Disk Outcome) disk =
      (.failure failure (loadNoticesOn disk path), disk) := by
  simp only [Settings.loadedFrom, Settings.load_eq] at refused
  simp only [runScan, bind, StateT.bind, Settings.load_eq, refused]
  rfl

theorem runScan_of_ok {disk : Disk} {path : String} {settings : Settings}
    (loaded : Settings.loadedFrom disk path = .ok settings) (request : ScanRequest) :
    (runScan path request : StateM Disk Outcome) disk =
      (scanLookup request (request.apply settings) (loadNoticesOn disk path)
        (disk.look request.file), disk) := by
  simp only [Settings.loadedFrom, Settings.load_eq] at loaded
  simp only [runScan, bind, StateT.bind, Settings.load_eq, loaded]
  rfl

/-- A scan logs nothing but entries of this program. -/
theorem made_of_mem_runScan {disk : Disk} {path : String} {request : ScanRequest}
    {entry : Log.Entry}
    (member : .logged entry ∈ ((runScan path request : StateM Disk Outcome) disk).1.notices) :
    entry.Made := by
  have early {entry : Log.Entry} (member : .logged entry ∈ loadNoticesOn disk path) :
      entry.Made := entry_of_mem_loadNoticesOn member ▸ .noSettings path
  have refused {failure : Failure}
      (member : .logged entry ∈ (Outcome.failure failure (loadNoticesOn disk path)).notices) :
      entry.Made := by
    rcases List.mem_append.1 member with before | last
    · exact early before
    · simp at last
  cases loaded : Settings.loadedFrom disk path with
  | error failure =>
      rw [runScan_of_error loaded] at member
      exact refused member
  | ok settings =>
      rw [runScan_of_ok loaded] at member
      cases found : disk.look request.file with
      | absent =>
          rw [found] at member
          exact refused member
      | unreadable fault =>
          rw [found] at member
          exact refused member
      | text source =>
          rw [found] at member
          exact made_of_mem_scanText (fun _ => early) member

/-- With logging off, a scan shows what it says and no entries. -/
theorem filtered_runScan {filter : Log.Filter} (silent : filter.IsSilent) (disk : Disk)
    (path : String) (request : ScanRequest) :
    ((runScan path request : StateM Disk Outcome) disk).1.filtered filter =
      ((runScan path request : StateM Disk Outcome) disk).1.unlogged :=
  filtered_of_isSilent silent fun _ => made_of_mem_runScan

/-! ### A scan that cannot begin -/

/-- Why a file cannot be read: the path leads nowhere, to a directory, or to bytes that are no
text. -/
inductive SourceFault (disk : Disk) (file : String) : Failure → Prop where
  | missing (nowhere : ∀ node, disk.nodeAt file ≠ .ok node) :
      SourceFault disk file (.fileNotFound file)
  | directory (found : disk.nodeAt file = .ok .directory) :
      SourceFault disk file (.fileFault file .isDirectory)
  | notText {bytes : ByteArray} (found : disk.nodeAt file = .ok (.file bytes))
      (garbled : ¬ bytes.IsValidUTF8) : SourceFault disk file (.fileFault file .notText)

theorem exists_sourceFault {disk : Disk} {file : String}
    (unread : ∀ text : String, disk.nodeAt file ≠ .ok (.file text.toUTF8)) :
    ∃ failure, SourceFault disk file failure := by
  cases found : disk.nodeAt file with
  | error fault => exact ⟨_, .missing (by simp [found])⟩
  | ok node =>
      cases node with
      | directory => exact ⟨_, .directory found⟩
      | file bytes =>
          refine ⟨_, .notText found fun valid => unread (String.fromUTF8 bytes valid) ?_⟩
          rw [found]
          rfl

theorem SourceFault.unread {disk : Disk} {file : String} {failure : Failure}
    (fault : SourceFault disk file failure) (text : String) :
    disk.nodeAt file ≠ .ok (.file text.toUTF8) := by
  cases fault with
  | missing nowhere => exact nowhere _
  | directory found => simp [found]
  | notText found garbled =>
      rw [found]
      intro same
      simp only [Except.ok.injEq, Node.file.injEq] at same
      exact garbled (same ▸ text.isValidUTF8)

theorem scanLookup_of_sourceFault {disk : Disk} {request : ScanRequest} {failure : Failure}
    (fault : SourceFault disk request.file failure) (settings : Settings) (before : List Notice) :
    scanLookup request settings before (disk.look request.file) = .failure failure before := by
  cases fault with
  | missing nowhere => rw [(Disk.look_eq_absent_iff disk request.file).2 nowhere]; rfl
  | directory found => rw [Disk.look, found]; rfl
  | notText found garbled =>
      rw [Disk.look, found]
      simp only [Lookup.ofBytes, String.fromUTF8?, garbled, dite_false]
      rfl

/-- The line above the summary of diagnostics. -/
def headerLine : String := "\n--- Errors Found ---"

/-- The line that says that a scan is incomplete. -/
def stopLine : String := "Scan stopped early; the token stream is incomplete."

/-- Nothing was scanned, and one line says why. -/
structure Refused (path : String) (failure : Failure) (outcome : Outcome) : Prop where
  code : outcome.code.value = 2
  output : outcome.output = ""
  said : spoken outcome.notices = [.line ("Error: " ++ failure.message)]
  unscanned : ∀ entry, .logged entry ∈ outcome.notices → entry = .noSettings path

theorem mem_of_mem_filtered {outcome : Outcome} {filter : Log.Filter} {notice : Notice}
    (member : notice ∈ (outcome.filtered filter).notices) : notice ∈ outcome.notices :=
  (List.mem_filter.1 member).1

theorem spoken_filtered (outcome : Outcome) (filter : Log.Filter) :
    spoken (outcome.filtered filter).notices = spoken outcome.notices :=
  congrArg Outcome.notices (unlogged_filtered outcome filter)

theorem refused_failure (disk : Disk) (path : String) (failure : Failure) (filter : Log.Filter) :
    Refused path failure ((Outcome.failure failure (loadNoticesOn disk path)).filtered filter) where
  code := rfl
  output := rfl
  said := by
    rw [spoken_filtered, Outcome.failure, spoken_append, spoken_loadNoticesOn]
    rfl
  unscanned entry member := by
    rcases List.mem_append.1 (mem_of_mem_filtered member) with early | last
    · exact entry_of_mem_loadNoticesOn early
    · simp at last

/-! ### A scan that is reported -/

/-- A report in full: as a document, or as text with the sections that the settings ask for and the
request does not leave out. The format of the request goes before that of the settings. -/
def fullReport (request : ScanRequest) (settings : Settings) (report : Report) : String :=
  match request.format.getD settings.format with
  | .json => report.renderJson ++ "\n"
  | .text =>
      "--- Manual Scanner Output ---\n" ++ Report.listing report.tokens ++
        (if settings.showStats && !request.noStats then "\n" ++ report.stats.render else "") ++
        (if settings.showSymbols && !request.noSymbols then "\n" ++ report.symbols.render else "")

theorem printed_apply (request : ScanRequest) (settings : Settings) (report : Report) :
    printed report (request.apply settings) = fullReport request settings report := by
  simp only [printed, fullReport, ScanRequest.apply]
  cases request.format.getD settings.format <;> rfl

/-! ### The lines of the error stream -/

theorem head?_errorLine (message : String) : ("Error: " ++ message).toList.head? = some 'E' := by
  rw [String.toList_append, List.head?_append]
  rfl

theorem head?_render (d : Diagnostic) : d.render.toList.head? = some 'E' := by
  unfold Diagnostic.render
  simp only [String.toList_append, List.head?_append]
  rfl

/-- Lines about errors begin with the same letter, and the two other lines do not. -/
theorem ne_of_head? {text : String} (error : text.toList.head? = some 'E') :
    text ≠ headerLine ∧ text ≠ stopLine := by
  constructor
  · rintro rfl
    revert error
    decide
  · rintro rfl
    revert error
    decide

/-- The lines of diagnostics, each by itself. -/
def diagnosticLines (diagnostics : List Diagnostic) : List Notice :=
  diagnostics.map fun d => .line d.render

/-- The last line, which is there if a fault was fatal. -/
def stopLines (diagnostics : List Diagnostic) : List Notice :=
  if diagnostics.any (·.fault.isFatal) then [.line stopLine] else []

/-- What is told about diagnostics. A quiet scan puts them under the header, others above it. -/
def told (quiet : Bool) (diagnostics : List Diagnostic) : List Notice :=
  if diagnostics = [] then []
  else if quiet then .line headerLine :: diagnosticLines diagnostics ++ stopLines diagnostics
  else diagnosticLines diagnostics ++ .line headerLine :: stopLines diagnostics

theorem line_not_mem_diagnosticLines {text : String} (other : text = headerLine ∨ text = stopLine)
    (diagnostics : List Diagnostic) : .line text ∉ diagnosticLines diagnostics := by
  intro member
  obtain ⟨d, _, same⟩ := List.mem_map.1 member
  have different := ne_of_head? (head?_render d)
  simp only [Notice.line.injEq] at same
  rcases other with rfl | rfl
  · exact different.1 same
  · exact different.2 same

theorem headerLine_mem_told (quiet : Bool) (diagnostics : List Diagnostic) :
    .line headerLine ∈ told quiet diagnostics ↔ diagnostics ≠ [] := by
  unfold told
  split
  · next clean => simp [clean]
  · next found => cases quiet <;> simp [found]

theorem headerLine_ne_stopLine : headerLine ≠ stopLine := by decide

theorem stopLine_mem_stopLines (diagnostics : List Diagnostic) :
    .line stopLine ∈ stopLines diagnostics ↔ ∃ d ∈ diagnostics, d.fault.isFatal = true := by
  unfold stopLines
  split <;> simp_all

theorem stopLine_mem_told (quiet : Bool) (diagnostics : List Diagnostic) :
    .line stopLine ∈ told quiet diagnostics ↔ ∃ d ∈ diagnostics, d.fault.isFatal = true := by
  have listed := line_not_mem_diagnosticLines (.inr rfl) diagnostics
  unfold told
  split
  · next clean => simp [clean]
  · cases quiet <;> simp [listed, headerLine_ne_stopLine.symm, stopLine_mem_stopLines]

theorem complete_eq_not_any (source : String) (limit : Nat) :
    (Report.ofSource source limit).complete =
      !(Report.ofSource source limit).diagnostics.any (·.fault.isFatal) := by
  rw [Bool.eq_iff_iff, Report.complete_ofSource]
  simp

/-- Log entries aside, this is all that a scan says. -/
theorem spoken_eq_told (request : ScanRequest) (settings : Settings) (source : String)
    {before : List Notice} (unspoken : spoken before = []) :
    spoken (scanText request settings source before).notices =
      told request.quiet (Report.ofSource source settings.maxIdentifierLength).diagnostics := by
  rw [spoken_scanText, unspoken, summary, Report.hasErrors, complete_eq_not_any]
  generalize (Report.ofSource source settings.maxIdentifierLength).diagnostics = diagnostics
  cases diagnostics with
  | nil => cases request.quiet <;> rfl
  | cons d later =>
      unfold told stopLines
      cases request.quiet <;> cases (d :: later).any (·.fault.isFatal) <;> rfl

/-! ### The outcome -/

/-- The source was scanned, and its report printed. -/
structure Reported (request : ScanRequest) (settings : Settings) (source : String)
    (outcome : Outcome) : Prop where
  diagnosed : outcome.code.value = 1 ↔
    (Report.ofSource source settings.maxIdentifierLength).diagnostics ≠ []
  success : outcome.code.value = 0 ↔
    (Report.ofSource source settings.maxIdentifierLength).diagnostics = []
  output : outcome.output =
    fullReport request settings (Report.ofSource source settings.maxIdentifierLength)
  stopped : .line stopLine ∈ outcome.notices ↔
    ∃ d ∈ (Report.ofSource source settings.maxIdentifierLength).diagnostics, d.fault.isFatal = true

theorem line_mem_scanText (text : String) (request : ScanRequest) (settings : Settings)
    (source : String) {before : List Notice} (unspoken : spoken before = []) :
    .line text ∈ (scanText request settings source before).notices ↔
      .line text ∈
        told request.quiet (Report.ofSource source settings.maxIdentifierLength).diagnostics := by
  rw [← line_mem_spoken, spoken_eq_told request settings source unspoken]

theorem line_mem_filtered (text : String) (outcome : Outcome) (filter : Log.Filter) :
    .line text ∈ (outcome.filtered filter).notices ↔ .line text ∈ outcome.notices := by
  rw [← line_mem_spoken, spoken_filtered, line_mem_spoken]

theorem code_scanText (request : ScanRequest) (settings : Settings) (source : String)
    (before : List Notice) :
    (scanText request settings source before).code =
      if (Report.ofSource source settings.maxIdentifierLength).diagnostics = [] then .success
      else .diagnosed := by
  change (if Report.hasErrors (Report.ofSource source settings.maxIdentifierLength)
    then ExitCode.diagnosed else .success) = _
  unfold Report.hasErrors
  cases (Report.ofSource source settings.maxIdentifierLength).diagnostics <;> rfl

theorem reported_scanText (request : ScanRequest) (settings : Settings) (source : String)
    {before : List Notice} (unspoken : spoken before = []) (filter : Log.Filter) :
    Reported request settings source
      ((scanText request (request.apply settings) source before).filtered filter) := by
  have code := code_scanText request (request.apply settings) source before
  have limit : (request.apply settings).maxIdentifierLength = settings.maxIdentifierLength := rfl
  rw [limit] at code
  refine {
    diagnosed := ?_
    success := ?_
    output := printed_apply request settings _
    stopped := ?_ }
  · rw [Outcome.filtered, code]
    split <;> simp_all [ExitCode.value]
  · rw [Outcome.filtered, code]
    split <;> simp_all [ExitCode.value]
  · rw [line_mem_filtered, line_mem_scanText _ _ _ _ unspoken, limit, stopLine_mem_told]

/-- What the outcome of a scan is on a disk, given the path of the settings. -/
structure Settled (disk : Disk) (path : String) (request : ScanRequest) (outcome : Outcome) :
    Prop where
  failed : outcome.code.value = 2 ↔
    (∃ failure, Settings.loadedFrom disk path = .error failure) ∨
      ∃ settings, Settings.loadedFrom disk path = .ok settings ∧
        ∀ text : String, disk.nodeAt request.file ≠ .ok (.file text.toUTF8)
  badSettings : ∀ failure, Settings.loadedFrom disk path = .error failure →
    Refused path failure outcome
  badSource : ∀ settings failure, Settings.loadedFrom disk path = .ok settings →
    SourceFault disk request.file failure → Refused path failure outcome
  reported : ∀ (settings : Settings) (source : String),
    Settings.loadedFrom disk path = .ok settings →
    disk.nodeAt request.file = .ok (.file source.toUTF8) → Reported request settings source outcome
  header : .line headerLine ∈ outcome.notices ↔ outcome.code.value = 1

theorem Reported.value_ne_two {request : ScanRequest} {settings : Settings} {source : String}
    {outcome : Outcome} (report : Reported request settings source outcome) :
    outcome.code.value ≠ 2 := by
  by_cases clean : (Report.ofSource source settings.maxIdentifierLength).diagnostics = []
  · simp [report.success.2 clean]
  · simp [report.diagnosed.2 clean]

theorem Refused.header {path : String} {failure : Failure} {outcome : Outcome}
    (refused : Refused path failure outcome) :
    .line headerLine ∈ outcome.notices ↔ outcome.code.value = 1 := by
  have different := (ne_of_head? (head?_errorLine failure.message)).1
  rw [← line_mem_spoken, refused.said, refused.code]
  simp [different.symm]

theorem settled_of_error {disk : Disk} {path : String} {failure : Failure}
    (refused : Settings.loadedFrom disk path = .error failure) (request : ScanRequest)
    (filter : Log.Filter) :
    Settled disk path request
      ((Outcome.failure failure (loadNoticesOn disk path)).filtered filter) where
  failed := ⟨fun _ => .inl ⟨failure, refused⟩, fun _ => rfl⟩
  badSettings other found := by
    rw [refused, Except.error.injEq] at found
    exact found ▸ refused_failure disk path failure filter
  badSource _ _ loaded := by simp [refused] at loaded
  reported _ _ loaded := by simp [refused] at loaded
  header := (refused_failure disk path failure filter).header

theorem settled_of_ok {disk : Disk} {path : String} {settings : Settings}
    (loaded : Settings.loadedFrom disk path = .ok settings) (request : ScanRequest)
    (filter : Log.Filter) :
    Settled disk path request
      ((scanLookup request (request.apply settings) (loadNoticesOn disk path)
        (disk.look request.file)).filtered filter) := by
  by_cases readable : ∃ text : String, disk.nodeAt request.file = .ok (.file text.toUTF8)
  · obtain ⟨text, found⟩ := readable
    have shown := (Disk.look_eq_text_iff disk request.file text).2 found
    have report := reported_scanText request settings text (spoken_loadNoticesOn disk path) filter
    rw [shown, scanLookup]
    refine {
      failed := ?_
      badSettings := by simp [loaded]
      badSource := fun _ _ _ fault => absurd found (fault.unread text)
      reported := ?_
      header := ?_ }
    · constructor
      · exact fun failed => absurd failed report.value_ne_two
      · rintro (⟨failure, refused⟩ | ⟨_, _, unread⟩)
        · simp [loaded] at refused
        · exact absurd found (unread text)
    · intro other source same held
      rw [loaded, Except.ok.injEq] at same
      rw [← Disk.look_eq_text_iff, shown, Lookup.text.injEq] at held
      exact same ▸ held ▸ report
    · rw [line_mem_filtered, line_mem_scanText _ _ _ _ (spoken_loadNoticesOn disk path),
        headerLine_mem_told]
      exact report.diagnosed.symm
  · have unread : ∀ text : String, disk.nodeAt request.file ≠ .ok (.file text.toUTF8) :=
      fun text found => readable ⟨text, found⟩
    obtain ⟨failure, fault⟩ := exists_sourceFault unread
    rw [scanLookup_of_sourceFault fault]
    refine {
      failed := ⟨fun _ => .inr ⟨settings, loaded, unread⟩, fun _ => rfl⟩
      badSettings := by simp [loaded]
      badSource := ?_
      reported := fun _ source _ found => absurd found (unread source)
      header := (refused_failure disk path failure filter).header }
    intro _ other _ fault'
    rw [← scanLookup_of_sourceFault fault (request.apply settings),
      scanLookup_of_sourceFault fault']
    exact refused_failure disk path other filter

/-- Every command line that asks for a scan leaves the disk as it is and comes to a settled
outcome. -/
theorem scan_settled (environment : Environment) (words : List String) (verbosity : Nat)
    (request : ScanRequest) (accepted : Invocation.ofWords words = .run verbosity (.scan request))
    (disk : Disk) :
    ((run environment words : StateM Disk Outcome) disk).2 = disk ∧
      Settled disk environment.settingsFile request
        ((run environment words : StateM Disk Outcome) disk).1 := by
  rw [run_of_accepted accepted environment disk, runRequest]
  cases loaded : Settings.loadedFrom disk environment.settingsFile with
  | error failure =>
      rw [runScan_of_error loaded]
      exact ⟨rfl, settled_of_error loaded request _⟩
  | ok settings =>
      rw [runScan_of_ok loaded]
      exact ⟨rfl, settled_of_ok loaded request _⟩

/-- A file whose text breaks off within a string. -/
def brokenOff : Disk := { nodes := [(["broken.txt"], .file "x \"y".toUTF8)] }

/-- The scan of that file ends with diagnostics, under their header and with nothing written. -/
theorem scan_settled_brokenOff :
    ((run {} ["scan", "-q", "broken.txt"] : StateM Disk Outcome) brokenOff).2 = brokenOff ∧
      ((run {} ["scan", "-q", "broken.txt"] : StateM Disk Outcome) brokenOff).1.code.value = 1 ∧
      .line headerLine ∈
        ((run {} ["scan", "-q", "broken.txt"] : StateM Disk Outcome) brokenOff).1.notices := by
  obtain ⟨kept, settled⟩ := scan_settled {} ["scan", "-q", "broken.txt"] 0
    ⟨"broken.txt", none, false, false, true⟩ (by decide) brokenOff
  have code :
      ((run {} ["scan", "-q", "broken.txt"] : StateM Disk Outcome) brokenOff).1.code.value = 1 := by
    decide +kernel
  exact ⟨kept, code, settled.header.2 code⟩

end Command
end LexScan
