import LexScan.File.Disk
import Mathlib.Data.List.Basic

/-! What becomes of a disk when directories are made and a file is written. Following a path asks
for directories only, so a path goes on leading to its place as long as no directory is lost; and
making directories adds nothing else, so every file keeps its bytes. -/
namespace LexScan.Disk

/-! ### Following a path -/

theorem requireDirectory_eq_ok_iff (disk : Disk) (location : Location) :
    disk.requireDirectory location = .ok () ↔ disk.node? location = some .directory := by
  unfold requireDirectory
  split <;> simp_all

/-- A path with steps left leaves from a directory. -/
theorem node?_of_follow_cons {disk : Disk} {start location : Location} {step : String}
    {steps : List String} (followed : disk.follow start (step :: steps) = .ok location) :
    disk.node? start = some .directory := by
  rw [← requireDirectory_eq_ok_iff]
  cases required : disk.requireDirectory start with
  | error fault => simp [follow, required, bind, Except.bind] at followed
  | ok _ => rfl

theorem follow_cons {disk : Disk} {start : Location}
    (directory : disk.node? start = some .directory) (step : String) (steps : List String) :
    disk.follow start (step :: steps) =
      if step = "." then disk.follow start steps
      else if step = ".." then disk.follow start.dropLast steps
      else if Path.maxStepBytes < step.utf8ByteSize then .error .nameTooLong
      else disk.follow (start ++ [step]) steps := by
  rw [follow, (requireDirectory_eq_ok_iff disk start).2 directory]
  rfl

theorem locate_eq_ok_iff (disk : Disk) (path : String) (location : Location) :
    disk.locate path = .ok location ↔ requirePath path = .ok () ∧
      disk.follow (disk.origin path) (Path.steps path) = .ok location := by
  unfold locate
  cases requirePath path <;> simp [bind, Except.bind]

/-- A disk that still has every directory of an earlier one. -/
structure KeepsDirectories (disk later : Disk) : Prop where
  workingDirectory : later.workingDirectory = disk.workingDirectory
  directory : ∀ location, disk.node? location = some .directory →
    later.node? location = some .directory

theorem KeepsDirectories.follow {disk later : Disk} (keeps : KeepsDirectories disk later)
    {start location : Location} {steps : List String}
    (followed : disk.follow start steps = .ok location) :
    later.follow start steps = .ok location := by
  induction steps generalizing start with
  | nil => exact followed
  | cons step steps ih =>
      have directory := node?_of_follow_cons followed
      rw [follow_cons directory] at followed
      rw [follow_cons (keeps.directory start directory)]
      split_ifs at followed ⊢ with same up long
      · exact ih followed
      · exact ih followed
      · exact ih followed

theorem KeepsDirectories.locate {disk later : Disk} (keeps : KeepsDirectories disk later)
    {path : String} {location : Location} (located : disk.locate path = .ok location) :
    later.locate path = .ok location := by
  rw [locate_eq_ok_iff] at located ⊢
  rw [origin, keeps.workingDirectory]
  exact ⟨located.1, keeps.follow located.2⟩

/-! ### What is at a path -/

theorem nodeAt_eq_ok_iff (disk : Disk) (path : String) (node : Node) :
    disk.nodeAt path = .ok node ↔ ∃ location, disk.locate path = .ok location ∧
      disk.node? location = some node ∧ (Path.endsWithSlash path = true → node = .directory) := by
  unfold nodeAt
  cases disk.locate path with
  | error fault => simp
  | ok location =>
      cases found : disk.node? location with
      | none => simp [found]
      | some there => cases there <;> grind

theorem ofBytes_eq_text_iff (bytes : ByteArray) (text : String) :
    Lookup.ofBytes bytes = .text text ↔ bytes = text.toUTF8 := by
  constructor
  · unfold Lookup.ofBytes String.fromUTF8?
    intro read
    split_ifs at read with valid
    simp only [Lookup.text.injEq] at read
    rw [← read]
    rfl
  · rintro rfl
    exact Lookup.ofBytes_toUTF8 text

/-- A path shows a text if it leads to a file that holds the text in UTF-8. -/
theorem look_eq_text_iff (disk : Disk) (path text : String) :
    disk.look path = .text text ↔ disk.nodeAt path = .ok (.file text.toUTF8) := by
  unfold look
  cases disk.nodeAt path with
  | error fault => simp
  | ok node =>
      cases node with
      | directory => simp
      | file bytes => simp [ofBytes_eq_text_iff]

/-- A path shows nothing if it leads nowhere. -/
theorem look_eq_absent_iff (disk : Disk) (path : String) :
    disk.look path = .absent ↔ ∀ node, disk.nodeAt path ≠ .ok node := by
  unfold look
  cases disk.nodeAt path with
  | error fault => simp
  | ok node =>
      cases node with
      | directory => simp
      | file bytes =>
          simp only [Lookup.ofBytes]
          split <;> simp

/-! ### Growth -/

/-- A disk on which everything of an earlier one is as it was. -/
structure Grows (disk later : Disk) : Prop where
  workingDirectory : later.workingDirectory = disk.workingDirectory
  node : ∀ location node, disk.node? location = some node → later.node? location = some node

theorem Grows.keepsDirectories {disk later : Disk} (grows : Grows disk later) :
    KeepsDirectories disk later :=
  ⟨grows.workingDirectory, fun location => grows.node location .directory⟩

theorem Grows.nodeAt {disk later : Disk} (grows : Grows disk later) {path : String} {node : Node}
    (found : disk.nodeAt path = .ok node) : later.nodeAt path = .ok node := by
  obtain ⟨location, located, there, slash⟩ := (nodeAt_eq_ok_iff disk path node).1 found
  exact (nodeAt_eq_ok_iff later path node).2
    ⟨location, grows.keepsDirectories.locate located, grows.node location node there, slash⟩

/-- What a path shows stays, unless it shows nothing. -/
theorem Grows.look {disk later : Disk} (grows : Grows disk later) {path : String}
    (present : disk.look path ≠ .absent) : later.look path = disk.look path := by
  cases found : disk.nodeAt path with
  | error fault => exact absurd ((look_eq_absent_iff disk path).2 (by simp [found])) present
  | ok node =>
      unfold Disk.look
      rw [found, grows.nodeAt found]

/-- A disk that has got directories where nothing was, and no other change. -/
structure GainsDirectories (disk later : Disk) : Prop where
  workingDirectory : later.workingDirectory = disk.workingDirectory
  node : ∀ location, later.node? location = disk.node? location ∨
    disk.node? location = none ∧ later.node? location = some .directory

namespace GainsDirectories

theorem refl (disk : Disk) : GainsDirectories disk disk := ⟨rfl, fun _ => .inl rfl⟩

theorem trans {disk middle later : Disk} (first : GainsDirectories disk middle)
    (second : GainsDirectories middle later) : GainsDirectories disk later where
  workingDirectory := second.workingDirectory.trans first.workingDirectory
  node location := by
    have before := first.node location
    have after := second.node location
    grind

theorem grows {disk later : Disk} (gains : GainsDirectories disk later) : Grows disk later where
  workingDirectory := gains.workingDirectory
  node location node there := by
    rcases gains.node location with same | ⟨missing, _⟩
    · rw [same, there]
    · simp [missing] at there

theorem bytes? {disk later : Disk} (gains : GainsDirectories disk later) (location : Location) :
    later.bytes? location = disk.bytes? location := by
  unfold Disk.bytes?
  rcases gains.node location with same | ⟨missing, made⟩
  · rw [same]
  · rw [missing, made]

end GainsDirectories

/-! ### Trees -/

/-- Whatever is on the disk lies in a directory. -/
def IsTree (disk : Disk) : Prop :=
  ∀ location name, disk.node? (location ++ [name]) ≠ none → disk.node? location = some .directory

theorem isTree_of_forall_mem {disk : Disk}
    (within : ∀ entry ∈ disk.nodes, disk.node? entry.1.dropLast = some .directory) :
    disk.IsTree := by
  intro location name there
  have found : disk.nodes.lookup (location ++ [name]) ≠ none := by simpa [node?] using there
  obtain ⟨node, same⟩ := Option.ne_none_iff_exists'.1 found
  obtain ⟨before, after, split, _⟩ := List.lookup_eq_some_iff.1 same
  simpa using within (location ++ [name], node) (by simp [split])

theorem IsTree.node?_of_append {disk : Disk} (tree : disk.IsTree) {location names : Location}
    (below : names ≠ []) (there : disk.node? (location ++ names) ≠ none) :
    disk.node? location = some .directory := by
  induction names generalizing location with
  | nil => exact absurd rfl below
  | cons name names ih =>
      apply tree location name
      rw [List.append_cons] at there
      by_cases last : names = []
      · simpa [last] using there
      · simp [ih last there]

/-- Without steps back, a path leads to a place below the one it leaves from. -/
theorem exists_append_of_follow {disk : Disk} {start location : Location} {steps : List String}
    (followed : disk.follow start steps = .ok location) (forward : ".." ∉ steps) :
    ∃ names, location = start ++ names := by
  induction steps generalizing start with
  | nil => exact ⟨[], by simpa [follow] using followed.symm⟩
  | cons step steps ih =>
      simp only [List.mem_cons, not_or] at forward
      rw [follow_cons (node?_of_follow_cons followed)] at followed
      split_ifs at followed with same up long
      · exact ih followed forward.2
      · exact absurd up.symm forward.1
      · obtain ⟨names, same⟩ := ih followed forward.2
        exact ⟨step :: names, by rw [same, ← List.append_cons]⟩

/-- If there was something at the end of a path before a tree grew, the path led there before. -/
theorem IsTree.follow {disk later : Disk} (tree : disk.IsTree) (grows : Grows disk later)
    {start location : Location} {steps : List String}
    (followed : later.follow start steps = .ok location) (forward : ".." ∉ steps)
    (there : disk.node? location ≠ none) : disk.follow start steps = .ok location := by
  induction steps generalizing start with
  | nil => exact followed
  | cons step steps ih =>
      obtain ⟨names, below⟩ := exists_append_of_follow followed forward
      have directoryLater := node?_of_follow_cons followed
      have directory : disk.node? start = some .directory := by
        by_cases here : names = []
        · rw [below, here, List.append_nil] at there
          obtain ⟨node, found⟩ := Option.ne_none_iff_exists'.1 there
          rw [found, ← grows.node start node found, directoryLater]
        · exact tree.node?_of_append here (below ▸ there)
      simp only [List.mem_cons, not_or] at forward
      rw [follow_cons directoryLater] at followed
      rw [follow_cons directory]
      split_ifs at followed ⊢ with same up long
      · exact ih followed forward.2
      · exact absurd up.symm forward.1
      · exact ih followed forward.2

/-- A place that a path leads to on a grown tree was empty if the path showed nothing before. -/
theorem IsTree.node?_eq_none {disk later : Disk} (tree : disk.IsTree) (grows : Grows disk later)
    {path : String} {location : Location} (located : later.locate path = .ok location)
    (forward : ".." ∉ Path.steps path) (noSlash : Path.endsWithSlash path = false)
    (absent : ∀ node, disk.nodeAt path ≠ .ok node) : disk.node? location = none := by
  by_contra there
  obtain ⟨node, found⟩ := Option.ne_none_iff_exists'.1 there
  obtain ⟨valid, followed⟩ := (locate_eq_ok_iff later path location).1 located
  rw [origin, grows.workingDirectory] at followed
  have locatedBefore : disk.locate path = .ok location :=
    (locate_eq_ok_iff disk path location).2 ⟨valid, tree.follow grows followed forward there⟩
  exact absent node
    ((nodeAt_eq_ok_iff disk path node).2 ⟨location, locatedBefore, found, by simp [noSlash]⟩)

/-! ### Making directories -/

theorem gainsDirectories_of_makeDirectory {disk later : Disk} {path : String}
    (made : disk.makeDirectory path = .ok later) : GainsDirectories disk later := by
  unfold makeDirectory at made
  cases located : disk.locate path with
  | error fault => simp [located] at made
  | ok location =>
      cases found : disk.node? location with
      | some node => simp [located, found] at made
      | none =>
          simp only [located, found, Except.ok.injEq] at made
          subst made
          refine ⟨rfl, fun other => ?_⟩
          by_cases same : other = location
          · subst same
            have below : other ≠ [] := by
              rintro rfl
              simp [node?] at found
            exact .inr ⟨found, node?_put_self disk below .directory⟩
          · exact .inl (node?_put_of_ne disk same .directory)

/-- An action that adds directories at most, whatever disk it finds. -/
def OnlyGainsDirectories {α : Type} (action : StateM Disk α) : Prop :=
  ∀ disk, GainsDirectories disk (action disk).2

theorem OnlyGainsDirectories.pure {α : Type} (answer : α) :
    OnlyGainsDirectories (Pure.pure answer) := fun disk => .refl disk

theorem OnlyGainsDirectories.bind {α β : Type} {action : StateM Disk α} {next : α → StateM Disk β}
    (first : OnlyGainsDirectories action) (second : ∀ answer, OnlyGainsDirectories (next answer)) :
    OnlyGainsDirectories (action >>= next) :=
  fun disk => (first disk).trans (second _ _)

theorem onlyGainsDirectories_makeDirectory (path : String) :
    OnlyGainsDirectories (FileStore.makeDirectory path : StateM Disk _) := by
  intro disk
  change GainsDirectories disk (attempt (·.makeDirectory path) disk).2
  unfold attempt
  split
  · next later made => exact gainsDirectories_of_makeDirectory made
  · exact .refl disk

theorem onlyGainsDirectories_acceptDirectory (path : String) (fault : FileFault) :
    OnlyGainsDirectories (FileStore.acceptDirectory path fault : StateM Disk _) := by
  refine .bind (fun disk => .refl disk) fun answer => ?_
  split
  · exact .pure _
  · exact .pure _

/-- Whether it succeeds or not, making directories adds directories at most. -/
theorem onlyGainsDirectories_makeLineage (paths : List String) :
    OnlyGainsDirectories (FileStore.makeLineage paths : StateM Disk _) := by
  induction paths with
  | nil => exact .pure _
  | cons path above ih =>
      refine .bind (onlyGainsDirectories_makeDirectory path) fun answer => ?_
      split
      · exact .pure _
      · -- the directories above come first, then this one is tried once more
        refine .bind ih fun answer => ?_
        split
        · exact .pure _
        · refine .bind (onlyGainsDirectories_makeDirectory path) fun answer => ?_
          split
          · exact .pure _
          · exact onlyGainsDirectories_acceptDirectory path _
      · exact onlyGainsDirectories_acceptDirectory path _

/-! ### Writing a file -/

theorem writeText_eq_ok_iff (disk later : Disk) (path contents : String) :
    disk.writeText path contents = .ok later ↔ Path.endsWithSlash path = false ∧
      ∃ location, disk.locate path = .ok location ∧ disk.node? location ≠ some .directory ∧
        later = disk.put location (.file contents.toUTF8) := by
  unfold writeText
  cases slash : Path.endsWithSlash path with
  | true => cases disk.locateParent path <;> simp [bind, Except.bind]
  | false =>
      cases disk.locate path with
      | error fault => simp [bind, Except.bind]
      | ok location =>
          cases found : disk.node? location with
          | none => simp [bind, Except.bind, found, eq_comm]
          | some node =>
              cases node <;> simp [bind, Except.bind, found, Node.isDirectory, eq_comm]

theorem keepsDirectories_put {disk : Disk} {location : Location} (bytes : ByteArray)
    (free : disk.node? location ≠ some .directory) :
    KeepsDirectories disk (disk.put location (.file bytes)) where
  workingDirectory := rfl
  directory other there := by
    have different : other ≠ location := by
      rintro rfl
      exact free there
    rw [node?_put_of_ne disk different, there]

/-- A text has been written at a place that a path leads to, before and afterwards. -/
structure Written (disk later : Disk) (path contents : String) (location : Location) : Prop where
  noSlash : Path.endsWithSlash path = false
  located : disk.locate path = .ok location
  free : disk.node? location ≠ some .directory
  locatedAfter : later.locate path = .ok location
  workingDirectory : later.workingDirectory = disk.workingDirectory
  here : later.node? location = some (.file contents.toUTF8)
  others : ∀ other, other ≠ location → later.node? other = disk.node? other

theorem exists_written {disk later : Disk} {path contents : String}
    (wrote : disk.writeText path contents = .ok later) :
    ∃ location, Written disk later path contents location := by
  obtain ⟨slash, location, located, free, rfl⟩ := (writeText_eq_ok_iff disk later path _).1 wrote
  have below : location ≠ [] := by
    rintro rfl
    simp [node?] at free
  exact ⟨location, {
    noSlash := slash
    located := located
    free := free
    locatedAfter := (keepsDirectories_put _ free).locate located
    workingDirectory := rfl
    here := node?_put_self disk below _
    others := fun other different => node?_put_of_ne disk different _ }⟩

theorem Written.look {disk later : Disk} {path contents : String} {location : Location}
    (written : Written disk later path contents location) : later.look path = .text contents :=
  (look_eq_text_iff later path contents).2 ((nodeAt_eq_ok_iff later path _).2
    ⟨location, written.locatedAfter, written.here, by simp [written.noSlash]⟩)

end LexScan.Disk
