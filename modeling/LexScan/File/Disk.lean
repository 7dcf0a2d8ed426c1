import LexScan.File.Store

/-! A disk in memory: files and directories at places, and a working directory. A path is followed
step by step from the root or the working directory, and every step leaves from a directory that
exists. -/
namespace LexScan

inductive Node where
  | file (bytes : ByteArray)
  | directory

def Node.isDirectory : Node → Bool
  | .file _ => false
  | .directory => true

/-- The names from the root to a place. -/
abbrev Location := List String

structure Disk where
  nodes : List (Location × Node) := []
  workingDirectory : Location := []

namespace Disk

/-- What is at a place. The root is always there. -/
def node? (disk : Disk) (location : Location) : Option Node :=
  if location = [] then some .directory else disk.nodes.lookup location

/-- Puts a node at a place, in the stead of what is there. -/
def putNode (location : Location) (node : Node) : List (Location × Node) → List (Location × Node)
  | [] => [(location, node)]
  | (other, old) :: rest =>
      if other = location then (other, node) :: rest else (other, old) :: putNode location node rest

def put (disk : Disk) (location : Location) (node : Node) : Disk :=
  { disk with nodes := putNode location node disk.nodes }

theorem lookup_putNode_self (location : Location) (node : Node) (nodes : List (Location × Node)) :
    (putNode location node nodes).lookup location = some node := by
  induction nodes with
  | nil => simp [putNode]
  | cons entry rest ih => grind [putNode]

theorem lookup_putNode_of_ne {location other : Location} (different : other ≠ location)
    (node : Node) (nodes : List (Location × Node)) :
    (putNode location node nodes).lookup other = nodes.lookup other := by
  induction nodes with
  | nil => grind [putNode]
  | cons entry rest ih => grind [putNode]

/-- What is put at a place is found there, the root apart. -/
theorem node?_put_self (disk : Disk) {location : Location} (below : location ≠ []) (node : Node) :
    (disk.put location node).node? location = some node := by
  simp [put, node?, below, lookup_putNode_self]

/-- What is put at a place changes no other place. -/
theorem node?_put_of_ne (disk : Disk) {location other : Location} (different : other ≠ location)
    (node : Node) : (disk.put location node).node? other = disk.node? other := by
  simp [put, node?, lookup_putNode_of_ne different]

/-- A place that steps can leave from. -/
def requireDirectory (disk : Disk) (location : Location) : Except FileFault Unit :=
  match disk.node? location with
  | none => .error .notFound
  | some (.file _) => .error .notDirectory
  | some .directory => .ok ()

/-- Follows steps from a place. What they lead to need not exist. -/
def follow (disk : Disk) (location : Location) : List String → Except FileFault Location
  | [] => .ok location
  | step :: steps => do
      disk.requireDirectory location
      if step = "." then follow disk location steps
      else if step = ".." then follow disk location.dropLast steps
      else if Path.maxStepBytes < step.utf8ByteSize then .error .nameTooLong
      else follow disk (location ++ [step]) steps

/-- Refuses a path that no place can have. -/
def requirePath (path : String) : Except FileFault Unit :=
  if !Path.isValid path then .error .invalidName
  else if path.isEmpty then .error .notFound
  else if Path.maxBytes < path.utf8ByteSize then .error .nameTooLong
  else .ok ()

/-- The place from which a path is followed. -/
def origin (disk : Disk) (path : String) : Location :=
  if Path.isAbsolute path then [] else disk.workingDirectory

/-- The place that a path leads to. -/
def locate (disk : Disk) (path : String) : Except FileFault Location := do
  requirePath path
  disk.follow (disk.origin path) (Path.steps path)

/-- The directory from which the last step of a path leaves. -/
def locateParent (disk : Disk) (path : String) : Except FileFault Location := do
  requirePath path
  let parent ← disk.follow (disk.origin path) (Path.steps path).dropLast
  disk.requireDirectory parent
  .ok parent

/-- What a path leads to. A slash at the end of a path asks for a directory. -/
def nodeAt (disk : Disk) (path : String) : Except FileFault Node :=
  match disk.locate path with
  | .error fault => .error fault
  | .ok location =>
      match disk.node? location with
      | none => .error .notFound
      | some (.file bytes) =>
          if Path.endsWithSlash path then .error .notDirectory else .ok (.file bytes)
      | some .directory => .ok .directory

def look (disk : Disk) (path : String) : Lookup :=
  match disk.nodeAt path with
  | .error _ => .absent
  | .ok .directory => .unreadable .isDirectory
  | .ok (.file bytes) => .ofBytes bytes

def isDirectory (disk : Disk) (path : String) : Bool :=
  match disk.nodeAt path with
  | .ok .directory => true
  | _ => false

def makeDirectory (disk : Disk) (path : String) : Except FileFault Disk :=
  match disk.locate path with
  | .error fault => .error fault
  | .ok location =>
      match disk.node? location with
      | some _ => .error .alreadyExists
      | none => .ok (disk.put location .directory)

/-- Writes a file, new or in the stead of an old one. A path that ends in a slash names no file, and
its last step is not even looked at. -/
def writeText (disk : Disk) (path contents : String) : Except FileFault Disk :=
  if Path.endsWithSlash path then do
    let _ ← disk.locateParent path
    .error .isDirectory
  else do
    let location ← disk.locate path
    if (disk.node? location).any Node.isDirectory then .error .isDirectory
    else .ok (disk.put location (.file contents.toUTF8))

/-- Keeps the disk if an operation is refused. -/
def attempt (operation : Disk → Except FileFault Disk) : StateM Disk (Except FileFault Unit) :=
  fun disk =>
    match operation disk with
    | .ok changed => (.ok (), changed)
    | .error fault => (.error fault, disk)

instance : FileStore (StateM Disk) where
  look path := fun disk => (disk.look path, disk)
  isDirectory path := fun disk => (disk.isDirectory path, disk)
  makeDirectory path := attempt (·.makeDirectory path)
  writeText path contents := attempt (·.writeText path contents)

/-- The bytes of a file at a place. -/
def bytes? (disk : Disk) (location : Location) : Option ByteArray :=
  match disk.node? location with
  | some (.file bytes) => some bytes
  | _ => none

/-- The files that one disk has and another has not, or not with the same bytes. -/
def written (before after : Disk) : List (Location × ByteArray) :=
  after.nodes.filterMap fun entry =>
    match entry.2 with
    | .file bytes =>
        if (before.bytes? entry.1).map ByteArray.data = some bytes.data then none
        else some (entry.1, bytes)
    | .directory => none

end Disk
end LexScan
