import LexScan.Proofs.ScanCommand

/-! Being quiet and logging more change what is told on the error stream, and nothing else. What is
printed, the exit code and the disk are the same; each diagnostic is told once, above the summary or
in it; and without the log entries the stream is the same whatever is logged. -/
namespace LexScan.Command

/-! ### Being quiet on the command line -/

namespace ScanWords

def hushed (words : ScanWords) : ScanWords := { words with quiet := true }

/-- Words that have the same effect behind a request to be quiet, as long as they do not make that
request themselves. -/
def Heedless (set : ScanWords → Option ScanWords) : Prop :=
  ∀ words result, set words = some result → result.quiet = false →
    words.quiet = false ∧ set words.hushed = some result.hushed

theorem Heedless.bind {first second : ScanWords → Option ScanWords} (heedless : Heedless first)
    (heedless' : Heedless second) : Heedless fun words => (first words).bind second := by
  intro words result read loud
  obtain ⟨middle, set, later⟩ := Option.bind_eq_some_iff.1 read
  obtain ⟨loud', later'⟩ := heedless' middle result later loud
  obtain ⟨loud'', set'⟩ := heedless words middle set loud'
  exact ⟨loud'', Option.bind_eq_some_iff.2 ⟨_, set', later'⟩⟩

theorem heedless_some : Heedless some := by
  rintro words _ ⟨⟩ loud
  exact ⟨loud, rfl⟩

theorem heedless_none : Heedless fun _ => none := by
  intro words result read
  simp at read

/-- A word that may be given once and changes something else. -/
theorem heedless_once {given : ScanWords → Bool} {change : ScanWords → ScanWords}
    (blind : ∀ words, given words.hushed = given words)
    (keeps : ∀ words, (change words).quiet = words.quiet)
    (apart : ∀ words, change words.hushed = (change words).hushed) :
    Heedless fun words => if given words then none else some (change words) := by
  intro words result read loud
  simp only [blind, apart] at read ⊢
  split at read
  · simp at read
  · next fresh =>
      obtain rfl := Option.some.inj read
      exact ⟨(keeps words).symm.trans loud, if_neg fresh⟩

theorem heedless_setFile (file : String) : Heedless (·.setFile file) :=
  heedless_once (fun _ => rfl) (fun _ => rfl) fun _ => rfl

theorem heedless_setFormat (name : String) : Heedless (·.setFormat name) := by
  unfold setFormat
  cases Format.ofName? name with
  | none => simpa using heedless_none
  | some format => exact heedless_once (fun _ => rfl) (fun _ => rfl) fun _ => rfl

theorem heedless_setNoSymbols : Heedless setNoSymbols :=
  heedless_once (fun _ => rfl) (fun _ => rfl) fun _ => rfl

theorem heedless_setNoStats : Heedless setNoStats :=
  heedless_once (fun _ => rfl) (fun _ => rfl) fun _ => rfl

theorem heedless_addVerbosity : Heedless fun words => some words.addVerbosity := by
  rintro words _ ⟨⟩ loud
  exact ⟨loud, rfl⟩

/-- Behind this word the scan is quiet, so there is nothing to show. -/
theorem heedless_setQuiet : Heedless setQuiet := by
  intro words result read loud
  unfold setQuiet at read
  split at read
  · simp at read
  · simp [← Option.some.inj read] at loud

theorem heedless_setLetters (letters : List Char) : Heedless (·.setLetters letters) := by
  intro words
  fun_induction ScanWords.setLetters words letters with
  | case1 words => exact heedless_some words
  | case2 words letters ih => exact heedless_setQuiet.bind (fun middle => ih middle) words
  | case3 words letters ih => exact ih
  | case4 letters words empty quiet verbose =>
      intro result read
      simp [ScanWords.setLetters] at read

theorem heedless_setFlag (name : String) : Heedless (·.setFlag name) := by
  unfold setFlag
  split
  · exact heedless_setNoSymbols
  · exact heedless_setNoStats
  · exact heedless_setQuiet
  · exact heedless_addVerbosity
  · exact heedless_none

theorem heedless_setFiles (files : List String) : Heedless (·.setFiles files) := by
  induction files with
  | nil => exact heedless_some
  | cons file files ih => exact (heedless_setFile file).bind ih

theorem heedless_read : (texts : List String) → Heedless (·.read texts)
  | [] => heedless_some
  | text :: rest => by
      intro words result
      simp only
      rw [ScanWords.read.eq_def words, ScanWords.read.eq_def words.hushed]
      simp only
      split
      · exact (heedless_setFile _).bind (heedless_read rest) words result
      · exact (heedless_setLetters _).bind (heedless_read rest) words result
      · exact heedless_setFiles rest words result
      · exact (heedless_setFormat _).bind (heedless_read rest) words result
      · split
        · exact heedless_none words result
        · next next later =>
            split
            · exact (heedless_setFormat _).bind (heedless_read later) words result
            · exact heedless_none words result
      · exact (heedless_setFlag _).bind (heedless_read rest) words result
      · exact heedless_none words result

theorem read_quiet (texts : List String) :
    ScanWords.read {} ("--quiet" :: texts) = (hushed {}).read texts := rfl

end ScanWords

theorem readScan_eq_run {outer : Verbosity} {texts : List String} {verbosity : Nat}
    {request : ScanRequest} (read : readScan outer texts = .run verbosity (.scan request)) :
    ∃ result, ScanWords.read {} texts = some result ∧ result.toRequest? = some request := by
  unfold readScan at read
  split at read
  · next inner asked found =>
      obtain ⟨result, words, named⟩ := Option.bind_eq_some_iff.1 found
      obtain ⟨_, whole, same⟩ := Option.map_eq_some_iff.1 named
      simp only [Prod.mk.injEq] at same
      simp only [Invocation.run.injEq, Request.scan.injEq] at read
      exact ⟨result, words, by rw [whole, same.2, read.2]⟩
  · simp at read

theorem readScan_of_read {texts : List String} {result : ScanWords} {request : ScanRequest}
    (read : ScanWords.read {} texts = some result) (whole : result.toRequest? = some request)
    (outer : Verbosity) : ∃ verbosity, readScan outer texts = .run verbosity (.scan request) := by
  unfold readScan
  simp [read, whole]

theorem readCommand_verbose (count : Verbosity) (texts : List String) :
    readCommand count ("-v" :: texts) = readCommand count.more texts := rfl

theorem readCommand_scan (count : Verbosity) (texts : List String) :
    readCommand count ("scan" :: texts) = readScan count texts := rfl

theorem exists_readCommand_replicate (number : Nat) (count : Verbosity) (texts : List String) :
    ∃ total, readCommand count (List.replicate number "-v" ++ texts) = readCommand total texts := by
  induction number generalizing count with
  | zero => exact ⟨count, rfl⟩
  | succ number ih =>
      obtain ⟨total, same⟩ := ih count.more
      exact ⟨total, by rw [List.replicate_succ, List.cons_append, readCommand_verbose, same]⟩

/-- The words of a scan with so many requests for more detail in front, quiet or not. -/
def scanLine (number : Nat) (quiet : Bool) (texts : List String) : List String :=
  List.replicate number "-v" ++ "scan" :: (if quiet then "--quiet" :: texts else texts)

/-- A scan that is not quiet can be made quiet and asked to log more, and is the same otherwise. -/
theorem exists_ofWords_scanLine {texts : List String} {verbosity : Nat} {request : ScanRequest}
    (accepted : Invocation.ofWords ("scan" :: texts) = .run verbosity (.scan request))
    (loud : request.quiet = false) (number : Nat) (quiet : Bool) :
    ∃ other, Invocation.ofWords (scanLine number quiet texts) =
      .run other (.scan { request with quiet := quiet }) := by
  obtain ⟨result, read, whole⟩ := readScan_eq_run accepted
  obtain ⟨file, named, same⟩ := Option.map_eq_some_iff.1 whole
  obtain ⟨total, counted⟩ := exists_readCommand_replicate number none
    ("scan" :: (if quiet then "--quiet" :: texts else texts))
  rw [Invocation.ofWords, scanLine, counted, readCommand_scan]
  cases quiet with
  | false =>
      have unchanged : { request with quiet := false } = request := by rw [← loud]
      rw [unchanged]
      exact readScan_of_read read whole total
  | true =>
      have silent : result.quiet = false := by rw [← loud, ← same]
      obtain ⟨_, read'⟩ := ScanWords.heedless_read texts _ _ read silent
      refine readScan_of_read ((ScanWords.read_quiet texts).trans read') ?_ total
      rw [← same]
      exact Option.map_eq_some_iff.2 ⟨file, named, rfl⟩

/-! ### What is printed -/

/-- Two runs on a disk that print the same, end the same and leave the disk as it is. -/
structure SameResults (disk : Disk) (first second : Outcome × Disk) : Prop where
  output : first.1.output = second.1.output
  code : first.1.code = second.1.code
  unchanged : first.2 = disk ∧ second.2 = disk

theorem sameResults_scanLookup (disk : Disk) (request : ScanRequest) (quiet : Bool)
    (settings : Settings) (before : List Notice) (found : Lookup) :
    SameResults disk (scanLookup request settings before found, disk)
      (scanLookup { request with quiet := quiet } settings before found, disk) := by
  cases found <;> exact ⟨rfl, rfl, rfl, rfl⟩

theorem sameResults_runScan (disk : Disk) (path : String) (request : ScanRequest) (quiet : Bool) :
    SameResults disk ((runScan path request : StateM Disk Outcome) disk)
      ((runScan path { request with quiet := quiet } : StateM Disk Outcome) disk) := by
  cases loaded : Settings.loadedFrom disk path with
  | error failure =>
      rw [runScan_of_error loaded, runScan_of_error loaded]
      exact ⟨rfl, rfl, rfl, rfl⟩
  | ok settings =>
      rw [runScan_of_ok loaded, runScan_of_ok loaded]
      exact sameResults_scanLookup disk request quiet _ _ _

/-- Filters of log entries make no difference to that. -/
theorem SameResults.filtered {disk : Disk} {first second : Outcome × Disk}
    (same : SameResults disk first second) (filter filter' : Log.Filter) :
    SameResults disk (first.1.filtered filter, first.2) (second.1.filtered filter', second.2) :=
  ⟨same.output, same.code, same.unchanged⟩

/-! ### What is told -/

/-- The error stream of a scan with these diagnostics, logging aside. -/
def streamText (quiet : Bool) (diagnostics : List Diagnostic) : String :=
  let lines := String.join (diagnostics.map fun d => d.render ++ "\n")
  let header := "\n--- Errors Found ---\n"
  let last :=
    if diagnostics.any (·.fault.isFatal) then
      "Scan stopped early; the token stream is incomplete.\n"
    else ""
  if diagnostics = [] then ""
  else if quiet then header ++ lines ++ last
  else lines ++ header ++ last

theorem join_render_diagnosticLines (time usage : String) (diagnostics : List Diagnostic) :
    String.join ((diagnosticLines diagnostics).map (·.render time usage)) =
      String.join (diagnostics.map fun d => d.render ++ "\n") := by
  rw [diagnosticLines, List.map_map]
  rfl

theorem join_render_stopLines (time usage : String) (diagnostics : List Diagnostic) :
    String.join ((stopLines diagnostics).map (·.render time usage)) =
      if diagnostics.any (·.fault.isFatal) then
        "Scan stopped early; the token stream is incomplete.\n"
      else "" := by
  have ended : stopLine ++ "\n" = "Scan stopped early; the token stream is incomplete.\n" := by
    decide
  unfold stopLines
  split
  · rw [List.map_singleton, String.join_cons, String.join_nil, String.append_empty]
    exact ended
  · rfl

theorem render_headerLine (time usage : String) :
    (Notice.line headerLine).render time usage = "\n--- Errors Found ---\n" :=
  show headerLine ++ "\n" = _ by decide

theorem join_render_told (time usage : String) (quiet : Bool) (diagnostics : List Diagnostic) :
    String.join ((told quiet diagnostics).map (·.render time usage)) =
      streamText quiet diagnostics := by
  unfold told streamText
  split
  · rfl
  · cases quiet with
    | true =>
        simp only [if_true, List.map_append, List.map_cons, String.join_append, String.join_cons,
          join_render_diagnosticLines, join_render_stopLines, render_headerLine]
    | false =>
        simp only [Bool.false_eq_true, if_false, List.map_append, List.map_cons, String.join_append,
          String.join_cons, join_render_diagnosticLines, join_render_stopLines, render_headerLine,
          String.append_assoc]

/-- The two lines that are about no diagnostic. -/
def Notice.isFrame (notice : Notice) : Bool :=
  notice = .line headerLine || notice = .line stopLine

theorem filter_diagnosticLines (diagnostics : List Diagnostic) :
    (diagnosticLines diagnostics).filter (!·.isFrame) = diagnosticLines diagnostics := by
  rw [List.filter_eq_self]
  intro notice member
  have header : notice ≠ .line headerLine := fun same =>
    line_not_mem_diagnosticLines (.inl rfl) diagnostics (same ▸ member)
  have stop : notice ≠ .line stopLine := fun same =>
    line_not_mem_diagnosticLines (.inr rfl) diagnostics (same ▸ member)
  simp [Notice.isFrame, header, stop]

theorem filter_stopLines (diagnostics : List Diagnostic) :
    (stopLines diagnostics).filter (!·.isFrame) = [] := by
  unfold stopLines
  split <;> simp [Notice.isFrame]

/-- Apart from the two other lines, each diagnostic has its line, once and in its place. -/
theorem filter_told (quiet : Bool) (diagnostics : List Diagnostic) :
    (told quiet diagnostics).filter (!·.isFrame) = diagnosticLines diagnostics := by
  have header : (Notice.line headerLine).isFrame = true := by simp [Notice.isFrame]
  unfold told
  split
  · next clean => simp [clean, diagnosticLines]
  · cases quiet <;>
      simp [List.filter_append, header, filter_diagnosticLines, filter_stopLines]

/-! ### The same scan, quiet or not, with more or less detail -/

/-- How the diagnostics of a scan stand on the error stream. -/
structure Told (quiet : Bool) (diagnostics : List Diagnostic) (outcome : Outcome) : Prop where
  text : ∀ time usage, outcome.errorText time usage = streamText quiet diagnostics
  once : outcome.notices.filter (!·.isFrame) = diagnostics.map fun d => .line d.render

theorem told_unlogged_scanText (request : ScanRequest) (settings : Settings) (source : String)
    {before : List Notice} (unspoken : spoken before = []) :
    Told request.quiet (Report.ofSource source settings.maxIdentifierLength).diagnostics
      (scanText request settings source before).unlogged where
  text time usage := by
    rw [Outcome.errorText, Outcome.unlogged, spoken_eq_told request settings source unspoken,
      join_render_told]
  once := by
    rw [Outcome.unlogged, spoken_eq_told request settings source unspoken, filter_told]
    rfl

/-- A filter that the environment sets goes before requests for more detail. -/
theorem choose_of_set {setting : Option String} (set : setting.bind Log.Filter.parse? ≠ none)
    (verbosity verbosity' : Nat) :
    Log.Filter.choose setting verbosity = Log.Filter.choose setting verbosity' := by
  obtain ⟨filter, found⟩ := Option.ne_none_iff_exists'.1 set
  simp only [Log.Filter.choose, found, Option.getD_some]

/-- Two runs of one scan, the second one quiet or not and with a verbosity of its own. -/
structure Unswayed (environment : Environment) (disk : Disk) (request : ScanRequest)
    (verbosity verbosity' : Nat) (quiet : Bool) (first second : Outcome × Disk) : Prop where
  results : SameResults disk first second
  told : ∀ (settings : Settings) (source : String),
    Settings.loadedFrom disk environment.settingsFile = .ok settings →
    disk.nodeAt request.file = .ok (.file source.toUTF8) →
    Told request.quiet (Report.ofSource source settings.maxIdentifierLength).diagnostics
      first.1.unlogged
  /-- With logging off there is nothing else on the stream. -/
  silent : (Log.Filter.choose environment.logFilter verbosity).IsSilent →
    first.1.unlogged = first.1
  detail : quiet = request.quiet → first.1.unlogged = second.1.unlogged
  /-- Nothing is logged in the second run if neither the environment nor the command line asks for
  it. -/
  unasked : quiet = request.quiet → verbosity' = 0 →
    environment.logFilter.bind Log.Filter.parse? = none → first.1.unlogged = second.1
  /-- If the environment says what is logged, the command line makes no difference. -/
  overruled : quiet = request.quiet → environment.logFilter.bind Log.Filter.parse? ≠ none →
    first.1 = second.1

/-- Being quiet and asking for more detail change nothing but the error stream, where each
diagnostic is told once and, log entries aside, more detail makes no difference. Any scan that is not
quiet can be made quiet, and more detail can be asked for any number of times. -/
theorem scan_unswayed (environment : Environment) (disk : Disk) (words others : List String)
    (verbosity verbosity' : Nat) (request : ScanRequest) (quiet : Bool)
    (accepted : Invocation.ofWords words = .run verbosity (.scan request))
    (accepted' : Invocation.ofWords others =
      .run verbosity' (.scan { request with quiet := quiet })) :
    Unswayed environment disk request verbosity verbosity' quiet
        ((run environment words : StateM Disk Outcome) disk)
        ((run environment others : StateM Disk Outcome) disk) ∧
      ∀ texts, words = "scan" :: texts → request.quiet = false → ∀ number hushed,
        ∃ total, Invocation.ofWords (scanLine number hushed texts) =
          .run total (.scan { request with quiet := hushed }) := by
  constructor
  · rw [run_of_accepted accepted, run_of_accepted accepted', runRequest, runRequest]
    have same := sameResults_runScan disk environment.settingsFile request quiet
    refine {
      results := same.filtered _ _
      told := ?_
      silent := ?_
      detail := ?_
      unasked := ?_
      overruled := ?_ }
    · intro settings source loaded found
      rw [unlogged_filtered, runScan_of_ok loaded, (Disk.look_eq_text_iff ..).2 found]
      exact told_unlogged_scanText request (request.apply settings) source
        (spoken_loadNoticesOn disk environment.settingsFile)
    · intro off
      rw [unlogged_filtered]
      exact (filtered_runScan off ..).symm
    · rintro rfl
      rw [unlogged_filtered, unlogged_filtered]
    · rintro rfl rfl unset
      rw [unlogged_filtered]
      exact (filtered_runScan (Log.Filter.isSilent_choose_zero unset) ..).symm
    · rintro rfl set
      rw [choose_of_set set verbosity verbosity']
  · rintro texts rfl loud number hushed
    exact exists_ofWords_scanLine accepted loud number hushed

/-- A file that breaks off within a string, scanned plainly and then quietly with more detail. -/
theorem scan_unswayed_brokenOff :
    ((run {} ["scan", "broken.txt"] : StateM Disk Outcome) brokenOff).1.code.value = 1 ∧
      SameResults brokenOff ((run {} ["scan", "broken.txt"] : StateM Disk Outcome) brokenOff)
        ((run {} ["-v", "scan", "--quiet", "broken.txt"] : StateM Disk Outcome) brokenOff) :=
  ⟨by decide +kernel,
    (scan_unswayed {} brokenOff ["scan", "broken.txt"] ["-v", "scan", "--quiet", "broken.txt"] 0 1
      ⟨"broken.txt", none, false, false, false⟩ true (by decide) (by decide)).1.results⟩

end LexScan.Command
