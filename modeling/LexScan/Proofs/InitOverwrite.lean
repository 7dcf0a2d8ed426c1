import LexScan.Proofs.SettingsInit

/-! What writing the default settings does to the files that are there. The path is looked at before
the directories on the way are made, and making them can change where it leads: a path that steps
into a missing directory and back again leads nowhere at first and to a file afterwards. Such a file
is overwritten, and no other file ever is. -/
namespace LexScan.Command

open Disk

theorem gainsDirectories_of_save_eq_error {s : Settings} {path : String} {disk after : Disk}
    {failure : Failure} (refused : (s.save path : StateM Disk _) disk = (.error failure, after)) :
    GainsDirectories disk after := by
  have unwritten {middle : Disk} (unable : s.writeOn path middle = (.error failure, after)) :
      after = middle := by
    unfold Settings.writeOn at unable
    split at unable
    · cases unable
    · exact (Prod.mk.inj unable).2.symm
  rw [Settings.save_eq] at refused
  split at refused
  · rw [unwritten refused]
    exact .refl disk
  · next parent above =>
      have gains := onlyGainsDirectories_makeLineage (Path.lineage parent) disk
      change GainsDirectories disk
        ((FileStore.makeDirectories parent : StateM Disk _) disk).2 at gains
      split at refused
      · next middle made =>
          rw [unwritten refused]
          rwa [made] at gains
      · next fault middle made =>
          rw [← (Prod.mk.inj refused).2]
          rwa [made] at gains

/-- All that the command can do to a disk, with the exit code that tells it. -/
inductive InitEffect (disk : Disk) (path : String) : ExitCode → Disk → Prop where
  /-- There is something at the path. -/
  | kept {node : Node} (present : disk.nodeAt path = .ok node) :
      InitEffect disk path .success disk
  /-- There is nothing, and the file cannot be written. -/
  | refused {after : Disk} (absent : ∀ node, disk.nodeAt path ≠ .ok node)
      (gains : GainsDirectories disk after) : InitEffect disk path .failed after
  /-- There is nothing, and the file is written once its directories are there. -/
  | written {middle after : Disk} {location : Location}
      (absent : ∀ node, disk.nodeAt path ≠ .ok node) (gains : GainsDirectories disk middle)
      (wrote : Written middle after path Settings.default.fileText location) :
      InitEffect disk path .success after

theorem initEffect_runInit (disk : Disk) (path : String) :
    InitEffect disk path ((runInit path : StateM Disk Outcome) disk).1.code
      ((runInit path : StateM Disk Outcome) disk).2 := by
  rw [runInit_eq]
  split
  · next nothing =>
      have absent := (look_eq_absent_iff disk path).1 nothing
      split
      · next after saved =>
          obtain ⟨middle, gains, wrote⟩ := Settings.exists_of_save_eq_ok saved
          obtain ⟨location, written⟩ := exists_written wrote
          exact .written absent gains written
      · next failure after unsaved =>
          exact .refused absent (gainsDirectories_of_save_eq_error unsaved)
  · next present =>
      have found : ∃ node, disk.nodeAt path = .ok node := by
        by_contra missing
        exact present ((look_eq_absent_iff disk path).2 fun node there => missing ⟨node, there⟩)
      obtain ⟨node, there⟩ := found
      exact .kept there

/-- The command has found nothing at its path, and has succeeded in writing to a place that the path
leads to now. -/
structure Reaches (disk : Disk) (path : String) (code : ExitCode) (after : Disk)
    (location : Location) : Prop where
  succeeded : code.value = 0
  absent : ∀ node, disk.nodeAt path ≠ .ok node
  located : after.locate path = .ok location

theorem bytes?_of_written {disk middle after : Disk} {path contents : String}
    {location other : Location} (gains : GainsDirectories disk middle)
    (wrote : Written middle after path contents location) (different : other ≠ location) :
    after.bytes? other = disk.bytes? other := by
  rw [← gains.bytes? other, Disk.bytes?, Disk.bytes?, wrote.others other different]

/-- A file that was there before is reached only by a step back. -/
theorem mem_steps_of_written {disk middle after : Disk} {path contents : String}
    {location : Location} {bytes : ByteArray} (tree : disk.IsTree)
    (held : disk.bytes? location = some bytes) (absent : ∀ node, disk.nodeAt path ≠ .ok node)
    (gains : GainsDirectories disk middle) (wrote : Written middle after path contents location) :
    ".." ∈ Path.steps path := by
  by_contra forward
  have new := tree.node?_eq_none gains.grows wrote.located forward wrote.noSlash absent
  simp [Disk.bytes?, new] at held

theorem InitEffect.bytes? {disk after : Disk} {path : String} {code : ExitCode}
    (effect : InitEffect disk path code after) (tree : disk.IsTree) {location : Location}
    {bytes : ByteArray} (held : disk.bytes? location = some bytes) :
    (¬ Reaches disk path code after location → after.bytes? location = some bytes) ∧
      (Reaches disk path code after location → ".." ∈ Path.steps path ∧
        after.bytes? location = some Settings.default.fileText.toUTF8) := by
  cases effect with
  | kept present => exact ⟨fun _ => held, fun reached => absurd present (reached.absent _)⟩
  | refused absent gains =>
      refine ⟨fun _ => by rw [gains.bytes?, held], fun reached => ?_⟩
      cases reached.succeeded
  | @written middle after place absent gains wrote =>
      constructor
      · intro unreached
        have different : location ≠ place := by
          rintro rfl
          exact unreached ⟨rfl, absent, wrote.locatedAfter⟩
        rw [bytes?_of_written gains wrote different, held]
      · intro reached
        obtain rfl : place = location := by
          simpa [wrote.locatedAfter] using reached.located
        exact ⟨mem_steps_of_written tree held absent gains wrote,
          by rw [Disk.bytes?, wrote.here]⟩

/-- On any tree, whatever the path and however the command ends, a file keeps its contents unless
the command succeeds although its path led nowhere, and the path leads to the file now. A path
without steps back never does; where one does, the file holds the default settings instead. -/
theorem init_overwrites_reached (environment : Environment) (disk : Disk) (tree : disk.IsTree)
    (words : List String) (verbosity : Nat)
    (accepted : Invocation.ofWords words = .run verbosity (.settings .init)) (location : Location)
    (bytes : ByteArray) (held : disk.bytes? location = some bytes) :
    let result := (run environment words : StateM Disk Outcome) disk
    let reached := Reaches disk environment.settingsFile result.1.code result.2 location
    (¬ reached → result.2.bytes? location = some bytes) ∧
      (reached → ".." ∈ Path.steps environment.settingsFile ∧
        result.2.bytes? location = some Settings.default.fileText.toUTF8) := by
  rw [run_of_accepted accepted]
  exact (initEffect_runInit disk environment.settingsFile).bytes? tree held

theorem isTree_occupied : Settings.occupied.IsTree :=
  isTree_of_forall_mem (by simp [Settings.occupied, node?])

/-- The environment in which the settings lie behind a step back from a missing directory. -/
def roundabout : Environment := { settingsPath := some "home/new/../old.json" }

/-- There the path leads nowhere before and to the file afterwards. -/
theorem init_overwrites_reached_occupied :
    let result := (run roundabout ["config", "init"] : StateM Disk Outcome) Settings.occupied
    Reaches Settings.occupied "home/new/../old.json" result.1.code result.2 ["home", "old.json"] ∧
      result.2.bytes? ["home", "old.json"] = some Settings.default.fileText.toUTF8 := by
  have reached : Reaches Settings.occupied "home/new/../old.json"
      ((run roundabout ["config", "init"] : StateM Disk Outcome) Settings.occupied).1.code
      ((run roundabout ["config", "init"] : StateM Disk Outcome) Settings.occupied).2
      ["home", "old.json"] := {
    succeeded := by decide +kernel
    absent := (look_eq_absent_iff Settings.occupied _).1 (by decide +kernel)
    located := by decide +kernel }
  exact ⟨reached, ((init_overwrites_reached roundabout Settings.occupied isTree_occupied
    ["config", "init"] 0 (by decide) ["home", "old.json"] _ rfl).2 reached).2⟩

/-- So not every file that was there before keeps its contents. -/
theorem init_overwrites_occupied :
    Settings.occupied.bytes? ["home", "old.json"] = some "not settings".toUTF8 ∧
      ((run roundabout ["config", "init"] : StateM Disk Outcome)
        Settings.occupied).2.bytes? ["home", "old.json"] ≠ some "not settings".toUTF8 :=
  ⟨rfl, by decide +kernel⟩

end LexScan.Command
