import LexScan.Proofs.ScanCommand

/-! Writing the default settings to a file makes no difference for any later command. The disk grows
by one file and by directories, so that every path that led to something goes on leading there; and
the file is read as the settings that hold without it. -/
namespace LexScan.Command

open Disk

/-! ### The commands on a disk -/

theorem ExitCode.eq_success_of_value {code : ExitCode} (zero : code.value = 0) :
    code = .success := by
  cases code <;> simp_all [ExitCode.value]

theorem runShow_eq (disk : Disk) (path : String) :
    (runShow path : StateM Disk Outcome) disk =
      (match Settings.loadedFrom disk path with
        | .error failure => .failure failure (loadNoticesOn disk path)
        | .ok settings => ⟨.success, settings.render ++ "\n", loadNoticesOn disk path⟩, disk) := by
  simp only [runShow, bind, StateT.bind, Settings.load_eq, Settings.loadedFrom]
  cases (Settings.ofLookup path (disk.look path)).settings <;> rfl

theorem runInit_eq (disk : Disk) (path : String) :
    (runInit path : StateM Disk Outcome) disk =
      match disk.look path with
      | .absent =>
          match (Settings.default.save path : StateM Disk _) disk with
          | (.ok (), after) =>
              (⟨.success, "Initialized new config file at: " ++ path ++ "\n", []⟩, after)
          | (.error failure, after) => (.failure failure [], after)
      | _ => (⟨.success, "Config file already exists at: " ++ path ++ "\n", []⟩, disk) := by
  simp only [runInit, bind, StateT.bind, FileStore.look]
  cases disk.look path with
  | absent =>
      simp only [StateT.bind, bind]
      rcases (Settings.default.save path : StateM Disk _) disk with ⟨answer, after⟩
      cases answer <;> rfl
  | _ => rfl

/-- With something at the path, all is well and nothing is written. -/
theorem runInit_of_present {disk : Disk} {path : String} (present : disk.look path ≠ .absent) :
    ((runInit path : StateM Disk Outcome) disk).1.code = .success ∧
      ((runInit path : StateM Disk Outcome) disk).2 = disk := by
  rw [runInit_eq]
  split
  · contradiction
  · exact ⟨rfl, rfl⟩

/-- With nothing at the path, all is well only if the defaults have been saved. -/
theorem save_eq_ok_of_runInit {disk : Disk} {path : String} (absent : disk.look path = .absent)
    (succeeded : ((runInit path : StateM Disk Outcome) disk).1.code = .success) :
    (Settings.default.save path : StateM Disk _) disk =
      (.ok (), ((runInit path : StateM Disk Outcome) disk).2) := by
  rw [runInit_eq, absent] at succeeded ⊢
  generalize (Settings.default.save path : StateM Disk _) disk = result at succeeded ⊢
  obtain ⟨answer, after⟩ := result
  cases answer with
  | ok _ => rfl
  | error failure => cases succeeded

/-! ### What is written -/

/-- A disk that has got a new file with the default settings, which the path leads to, and nothing
else but directories. -/
structure Initialized (disk after : Disk) (path : String) (location : Location) : Prop where
  located : after.locate path = .ok location
  new : disk.node? location = none
  here : after.node? location = some (.file Settings.default.fileText.toUTF8)
  others : ∀ other, other ≠ location → after.node? other = disk.node? other ∨
    disk.node? other = none ∧ after.node? other = some .directory

theorem exists_initialized {disk after : Disk} {path : String} (tree : disk.IsTree)
    (forward : ".." ∉ Path.steps path) (absent : disk.look path = .absent)
    (saved : (Settings.default.save path : StateM Disk _) disk = (.ok (), after)) :
    ∃ location, Initialized disk after path location ∧ Grows disk after ∧
      after.look path = .text Settings.default.fileText := by
  obtain ⟨middle, gains, wrote⟩ := Settings.exists_of_save_eq_ok saved
  obtain ⟨location, written⟩ := exists_written wrote
  have new : disk.node? location = none :=
    tree.node?_eq_none gains.grows written.located forward written.noSlash
      ((look_eq_absent_iff disk path).1 absent)
  refine ⟨location, ?_, ?_, written.look⟩
  · exact {
      located := written.locatedAfter
      new := new
      here := written.here
      others := fun other different => written.others other different ▸ gains.node other }
  · refine ⟨written.workingDirectory.trans gains.workingDirectory, fun other node there => ?_⟩
    have different : other ≠ location := by
      rintro rfl
      simp [new] at there
    rw [written.others other different, gains.grows.node other node there]

theorem loadedFrom_of_absent {disk : Disk} {path : String} (absent : disk.look path = .absent) :
    Settings.loadedFrom disk path = .ok Settings.default := by
  rw [Settings.loadedFrom, Settings.load_eq, absent]
  rfl

theorem loadedFrom_of_fileText {disk : Disk} {path : String}
    (written : disk.look path = .text Settings.default.fileText) :
    Settings.loadedFrom disk path = .ok Settings.default := by
  have read : Settings.read Settings.default.fileText.toList = .ok Settings.default :=
    Settings.read_fileText (by decide)
  rw [Settings.loadedFrom, Settings.load_eq, written, Settings.ofLookup, read]
  rfl

/-! ### Later commands -/

/-- What is said by a scan does not depend on log entries before it. -/
theorem unlogged_scanLookup (request : ScanRequest) (settings : Settings)
    {before before' : List Notice} (same : spoken before = spoken before') (found : Lookup) :
    (scanLookup request settings before found).unlogged =
      (scanLookup request settings before' found).unlogged := by
  cases found with
  | text source =>
      simp only [scanLookup, Outcome.unlogged, spoken_scanText, same]
      rfl
  | _ => simp [scanLookup, Outcome.failure, Outcome.unlogged, same]

/-- With the same settings at hand, a file that both disks show alike is scanned alike. -/
theorem unlogged_runScan {disk after : Disk} {path : String} {settings : Settings}
    (loaded : Settings.loadedFrom disk path = .ok settings)
    (loadedAfter : Settings.loadedFrom after path = .ok settings) {request : ScanRequest}
    (same : after.look request.file = disk.look request.file) :
    ((runScan path request : StateM Disk Outcome) after).1.unlogged =
      ((runScan path request : StateM Disk Outcome) disk).1.unlogged := by
  rw [runScan_of_ok loaded, runScan_of_ok loadedAfter, same]
  exact unlogged_scanLookup request _
    ((spoken_loadNoticesOn after path).trans (spoken_loadNoticesOn disk path).symm) _

/-- How commands fare on a disk with a new settings file, compared with the disk before. -/
structure Neutral (environment : Environment) (disk after : Disk) : Prop where
  created : ∃ location, Initialized disk after environment.settingsFile location
  again : ∀ words verbosity, Invocation.ofWords words = .run verbosity (.settings .init) →
    ((run environment words : StateM Disk Outcome) after).1.code.value = 0 ∧
      ((run environment words : StateM Disk Outcome) after).2 = after
  shown : ∀ words verbosity, Invocation.ofWords words = .run verbosity (.settings .showAll) →
    ((run environment words : StateM Disk Outcome) after).1.output =
      ((run environment words : StateM Disk Outcome) disk).1.output
  scanned : ∀ words verbosity request,
    Invocation.ofWords words = .run verbosity (.scan request) →
    (Log.Filter.choose environment.logFilter verbosity).IsSilent →
    (∃ node, disk.nodeAt request.file = .ok node) →
    ((run environment words : StateM Disk Outcome) after).1 =
      ((run environment words : StateM Disk Outcome) disk).1

theorem neutral_of_saved {environment : Environment} {disk after : Disk} (tree : disk.IsTree)
    (forward : ".." ∉ Path.steps environment.settingsFile)
    (absent : disk.look environment.settingsFile = .absent)
    (saved : (Settings.default.save environment.settingsFile : StateM Disk _) disk =
      (.ok (), after)) : Neutral environment disk after := by
  obtain ⟨location, initialized, grows, written⟩ := exists_initialized tree forward absent saved
  have loaded := loadedFrom_of_absent absent
  have loadedAfter := loadedFrom_of_fileText written
  refine {
    created := ⟨location, initialized⟩
    again := ?_
    shown := ?_
    scanned := ?_ }
  · intro words verbosity accepted
    have present : after.look environment.settingsFile ≠ .absent := by simp [written]
    obtain ⟨code, unchanged⟩ := runInit_of_present present
    rw [run_of_accepted accepted]
    exact ⟨congrArg ExitCode.value code, unchanged⟩
  · intro words verbosity accepted
    rw [run_of_accepted accepted, run_of_accepted accepted, runRequest, runShow_eq, runShow_eq,
      loaded, loadedAfter]
    rfl
  · intro words verbosity request accepted silent existed
    obtain ⟨node, found⟩ := existed
    have present : disk.look request.file ≠ .absent := fun nothing =>
      (look_eq_absent_iff disk request.file).1 nothing node found
    rw [run_of_accepted accepted, run_of_accepted accepted, runRequest]
    simp only [filtered_runScan silent]
    exact unlogged_runScan loaded loadedAfter (grows.look present)

/-- A settings file that has been written where there was none makes no difference: there is nothing
else new but directories, writing it again does nothing, and settings and scans are as before. -/
theorem init_neutral (environment : Environment) (disk : Disk) (tree : disk.IsTree)
    (forward : ".." ∉ Path.steps environment.settingsFile)
    (missing : ∀ node, disk.nodeAt environment.settingsFile ≠ .ok node) (words : List String)
    (verbosity : Nat) (accepted : Invocation.ofWords words = .run verbosity (.settings .init))
    (succeeded : ((run environment words : StateM Disk Outcome) disk).1.code.value = 0) :
    Neutral environment disk ((run environment words : StateM Disk Outcome) disk).2 := by
  have absent := (look_eq_absent_iff disk environment.settingsFile).2 missing
  rw [run_of_accepted accepted] at succeeded ⊢
  exact neutral_of_saved tree forward absent
    (save_eq_ok_of_runInit absent (ExitCode.eq_success_of_value succeeded))

/-- A home directory without settings, and a file to scan. -/
def unsettled : Disk :=
  { nodes := [(["home"], .directory), (["name.txt"], .file "start x".toUTF8)] }

theorem isTree_unsettled : unsettled.IsTree :=
  isTree_of_forall_mem (by simp [unsettled, node?])

/-- There the directory of the settings file is made as well, and the scan of the other file comes
to the same. -/
theorem init_neutral_unsettled :
    ((run { home := some "home" } ["config", "init"] : StateM Disk Outcome)
        unsettled).1.code.value = 0 ∧
      ((run { home := some "home" } ["scan", "name.txt"] : StateM Disk Outcome)
        ((run { home := some "home" } ["config", "init"] : StateM Disk Outcome) unsettled).2).1 =
      ((run { home := some "home" } ["scan", "name.txt"] : StateM Disk Outcome) unsettled).1 := by
  have succeeded :
      ((run { home := some "home" } ["config", "init"] : StateM Disk Outcome)
        unsettled).1.code.value = 0 := by
    decide +kernel
  have missing : ∀ node,
      unsettled.nodeAt (Environment.settingsFile { home := some "home" }) ≠ .ok node :=
    (look_eq_absent_iff unsettled _).1 (by decide +kernel)
  have neutral := init_neutral { home := some "home" } unsettled isTree_unsettled (by decide)
    missing ["config", "init"] 0 (by decide) succeeded
  exact ⟨succeeded, neutral.scanned ["scan", "name.txt"] 0 ⟨"name.txt", none, false, false, false⟩
    (by decide) (Log.Filter.isSilent_choose_zero rfl) ⟨_, rfl⟩⟩

end LexScan.Command
