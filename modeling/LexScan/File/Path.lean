/-! Paths as text. A slash divides the steps of a path; empty steps do not count, and a path that
begins with a slash starts at the root. -/
namespace LexScan.Path

def isAbsolute (path : String) : Bool := path.toList.head? == some '/'

def endsWithSlash (path : String) : Bool := path.toList.getLast? == some '/'

/-- A path continued by a name. -/
def join (path name : String) : String :=
  if path.isEmpty || endsWithSlash path then path ++ name else path ++ "/" ++ name

/-- The number of bytes that a path may have. -/
def maxBytes : Nat := 4095

/-- The number of bytes that a step of a path may have. -/
def maxStepBytes : Nat := 255

/-- Whether a path can stand for a place at all. -/
def isValid (path : String) : Bool := path.toList.all fun c => c.toNat != 0

/-- The pieces between slashes, empty ones included. -/
def pieces : List Char → List (List Char)
  | [] => [[]]
  | c :: rest =>
      if c = '/' then [] :: pieces rest
      else
        match pieces rest with
        | [] => [[c]]
        | piece :: more => (c :: piece) :: more

/-- The steps of a path, from its start. -/
def steps (path : String) : List String :=
  ((pieces path.toList).filter (!·.isEmpty)).map String.ofList

/-- Drops slashes and steps to the same directory from the end of a path, which is given from its
last character on. A path that begins with a dot keeps it. -/
def trimBackwards : List Char → List Char
  | ['/'] => ['/']
  | '/' :: rest => trimBackwards rest
  | ['.', '/'] => ['/']
  | '.' :: '/' :: rest => trimBackwards rest
  | path => path

/-- A path without its last step, both given from the last character on. -/
def parentBackwards? (path : List Char) : Option (List Char) :=
  match trimBackwards path with
  | [] => none
  | ['/'] => none
  | _ :: rest => some (trimBackwards (rest.dropWhile (· != '/')))

theorem length_trimBackwards_le (path : List Char) :
    (trimBackwards path).length ≤ path.length := by
  fun_induction trimBackwards path with
  | case1 => simp
  | case2 rest _ ih => exact Nat.le_succ_of_le ih
  | case3 => simp
  | case4 rest _ ih => exact Nat.le_succ_of_le (Nat.le_succ_of_le ih)
  | case5 => simp

theorem length_parentBackwards {path parent : List Char}
    (found : parentBackwards? path = some parent) : parent.length < path.length := by
  have whole := length_trimBackwards_le path
  unfold parentBackwards? at found
  split at found
  · simp at found
  · simp at found
  · next c rest _ same =>
      simp only [Option.some.injEq] at found
      rw [same, List.length_cons] at whole
      have shorter := (List.dropWhile_sublist (l := rest) (· != '/')).length_le
      have trimmed := length_trimBackwards_le (rest.dropWhile (· != '/'))
      rw [← found]
      omega

/-- The directory that a path lies in. The root and the empty path lie in none. -/
def parent? (path : String) : Option String :=
  (parentBackwards? path.toList.reverse).map fun parent => String.ofList parent.reverse

/-- A path and those above it, without the root and the empty path. -/
def lineageBackwards (path : List Char) : List (List Char) :=
  match _above : parentBackwards? path with
  | none => []
  | some parent => path :: lineageBackwards parent
termination_by path.length
decreasing_by exact length_parentBackwards ‹_›

def lineage (path : String) : List String :=
  (lineageBackwards path.toList.reverse).map fun ancestor => String.ofList ancestor.reverse

end LexScan.Path
