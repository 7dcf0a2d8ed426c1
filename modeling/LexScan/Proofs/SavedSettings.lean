import LexScan.Proofs.DiskGrowth
import LexScan.Proofs.SettingsText
import LexScan.Settings.File

/-! Settings that have been saved are loaded again. Saving makes the directories that are missing
and then writes one file; on the disk that is left the path leads to that file, its text is read as
the settings that were printed, and all other files hold what they held before. -/
namespace LexScan.Settings

open Disk

theorem load_eq (path : String) (disk : Disk) :
    (load path : StateM Disk Loaded) disk = (ofLookup path (disk.look path), disk) := rfl

/-- Writing the file of settings on a disk. -/
def writeOn (s : Settings) (path : String) (disk : Disk) : Except Failure Unit × Disk :=
  match disk.writeText path s.fileText with
  | .ok after => (.ok (), after)
  | .error fault => (.error (.ofFileFault path fault), disk)

theorem write_eq (s : Settings) (path : String) (disk : Disk) :
    (do
      match ← FileStore.writeText path s.fileText with
      | .ok () => pure (.ok ())
      | .error fault => pure (.error (.ofFileFault path fault)) :
        StateM Disk (Except Failure Unit)) disk = s.writeOn path disk := by
  simp only [bind, StateT.bind, FileStore.writeText, attempt, writeOn]
  cases disk.writeText path s.fileText <;> rfl

theorem save_eq (s : Settings) (path : String) (disk : Disk) :
    (s.save path : StateM Disk _) disk =
      match Path.parent? path with
      | none => s.writeOn path disk
      | some parent =>
          match (FileStore.makeDirectories parent : StateM Disk _) disk with
          | (.ok (), middle) => s.writeOn path middle
          | (.error fault, middle) => (.error (.ofFileFault parent fault), middle) := by
  unfold save
  cases Path.parent? path with
  | none => exact write_eq s path disk
  | some parent =>
      simp only [bind, StateT.bind]
      rcases (FileStore.makeDirectories parent : StateM Disk _) disk with ⟨answer, middle⟩
      cases answer with
      | ok _ => exact write_eq s path middle
      | error fault => rfl

/-- Saving that succeeds makes directories and then writes the text. -/
theorem exists_of_save_eq_ok {s : Settings} {path : String} {disk after : Disk}
    (saved : (s.save path : StateM Disk _) disk = (.ok (), after)) :
    ∃ middle, GainsDirectories disk middle ∧ middle.writeText path s.fileText = .ok after := by
  have written {disk : Disk} (wrote : s.writeOn path disk = (.ok (), after)) :
      disk.writeText path s.fileText = .ok after := by
    unfold writeOn at wrote
    split at wrote <;> simp_all
  rw [save_eq] at saved
  split at saved
  · exact ⟨disk, .refl disk, written saved⟩
  · next parent above =>
      have gains := onlyGainsDirectories_makeLineage (Path.lineage parent) disk
      change GainsDirectories disk
        ((FileStore.makeDirectories parent : StateM Disk _) disk).2 at gains
      split at saved
      · next middle made => exact ⟨middle, by rwa [made] at gains, written saved⟩
      · cases saved

/-- Settings of 64 bits that have been saved are loaded again from the same path, and no file but
theirs has changed. -/
theorem save_loads_back (s : Settings) (fits : s.maxIdentifierLength < UInt64.size) (path : String)
    (disk after : Disk) (saved : (s.save path : StateM Disk _) disk = (.ok (), after)) :
    (load path : StateM Disk Loaded) after = (.read s, after) ∧
      ∃ location, after.locate path = .ok location ∧
        after.bytes? location = some s.fileText.toUTF8 ∧
        ∀ other, other ≠ location → after.bytes? other = disk.bytes? other := by
  obtain ⟨middle, gains, wrote⟩ := exists_of_save_eq_ok saved
  obtain ⟨location, written⟩ := exists_written wrote
  have read : read s.fileText.toList = .ok s := read_fileText (Nat.le_of_lt_succ fits)
  refine ⟨?_, location, written.locatedAfter, ?_, ?_⟩
  · rw [load_eq, written.look, ofLookup, read]
  · rw [Disk.bytes?, written.here]
  · intro other different
    rw [← gains.bytes? other, Disk.bytes?, Disk.bytes?, written.others other different]

/-- The largest limit that a settings file can hold, and no field with its default. -/
def farthest : Settings := ⟨18446744073709551615, .json, false, false⟩

/-- A directory with a file that is no settings file. -/
def occupied : Disk :=
  { nodes := [(["home"], .directory), (["home", "old.json"], .file "not settings".toUTF8)] }

/-- The path leads through a directory that is made on the way, and the file is there already. -/
theorem save_loads_back_occupied :
    ((farthest.save "home/new/../old.json" : StateM Disk _) occupied).1 = .ok () ∧
      ((load "home/new/../old.json" : StateM Disk Loaded)
        ((farthest.save "home/new/../old.json" : StateM Disk _) occupied).2).1 =
          .read farthest := by
  have saved : ((farthest.save "home/new/../old.json" : StateM Disk _) occupied).1 = .ok () := by
    decide +kernel
  exact ⟨saved, congrArg Prod.fst
    (save_loads_back farthest (by decide) _ occupied _ (Prod.ext saved rfl)).1⟩

end LexScan.Settings
