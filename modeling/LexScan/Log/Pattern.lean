import LexScan.Log.Pattern.CharClass

/-! Patterns for the values of fields. Nothing is ever matched against them here; it only counts
whether a pattern is well formed. A pattern is read part by part, the groups that are open are kept
on a stack, and of each part its depth is kept. -/
namespace LexScan.Log.Pattern

open Text

/-- A part that has been read. A change of flags cannot be repeated. -/
structure Part where
  depth : Nat
  isRepeatable : Bool
deriving DecidableEq, Repr

/-- What has been read of a group, or of the whole pattern. -/
structure Sequence where
  /-- The depths of the branches before the last vertical bar. -/
  branches : List Nat
  /-- The parts behind it, the last one first. -/
  parts : List Part
  flags : Flags
deriving DecidableEq, Repr

namespace Sequence

def empty (flags : Flags) : Sequence := ⟨[], [], flags⟩

def add (sequence : Sequence) (part : Part) : Sequence :=
  { sequence with parts := part :: sequence.parts }

def partsDepth (sequence : Sequence) : Nat := depthOfParts (sequence.parts.map (·.depth))

def depth (sequence : Sequence) : Nat := depthOfParts (sequence.partsDepth :: sequence.branches)

/-- Begins another branch. -/
def branch (sequence : Sequence) : Sequence :=
  { sequence with branches := sequence.partsDepth :: sequence.branches, parts := [] }

/-- Repeats the last part. -/
def repeat? (sequence : Sequence) : Option Sequence :=
  match sequence.parts with
  | last :: parts =>
      if last.isRepeatable then some { sequence with parts := ⟨last.depth + 1, true⟩ :: parts }
      else none
  | [] => none

end Sequence

structure State where
  /-- What stands before the groups that are open, the innermost first. -/
  outer : List Sequence
  inner : Sequence
  /-- The names of groups. -/
  names : List (List Char)
deriving DecidableEq, Repr

namespace State

def initial : State := ⟨[], .empty .initial, []⟩

def flags (state : State) : Flags := state.inner.flags

def add (state : State) (depth : Nat) : State :=
  { state with inner := state.inner.add ⟨depth, true⟩ }

/-- Opens a group. -/
def push (state : State) (flags : Flags) : State :=
  { state with outer := state.inner :: state.outer, inner := .empty flags }

/-- Closes a group; the flags are again those before it. -/
def pop? (state : State) : Option State :=
  match state.outer with
  | [] => none
  | next :: outer =>
      some { state with outer, inner := next.add ⟨state.inner.depth + 1, true⟩ }

/-- Opens a group with a name, which no other group has. -/
def pushNamed? (state : State) (name : List Char) : Option State :=
  if state.names.contains name then none
  else some { state.push state.flags with names := name :: state.names }

/-- Sets the flags for what follows in the same group. -/
def setFlags (state : State) (flags : Flags) : State :=
  { state with inner := { state.inner.add ⟨0, false⟩ with flags } }

end State

def isNamePart (c : Char) : Bool := isAlphanumeric c || ['_', '.', '[', ']'].contains c

/-- A name begins with a letter or an underscore. -/
def isName (text : List Char) : Bool := text.head?.any fun c => isAlphabetic c || c == '_'

/-- Reads the name of a group and the angle bracket behind it. -/
def readName? (state : State) (text : List Char) : Option (State × List Char) :=
  let name := text.takeWhile isNamePart
  match text.dropWhile isNamePart with
  | '>' :: rest =>
      if isName name then (state.pushNamed? name).map fun state => (state, rest) else none
  | _ => none

def endsFlags (c : Char) : Bool := c == ':' || c == ')'

/-- Reads flags, behind a question mark. They are for a group, or for what follows in the same
group; then there must be some. -/
def readFlags? (state : State) (text : List Char) : Option (State × List Char) :=
  let change := text.takeWhile (!endsFlags ·)
  if Flags.isChange change then
    match text.dropWhile (!endsFlags ·) with
    | ':' :: rest => some (state.push (state.flags.change change), rest)
    | ')' :: rest =>
        if change.isEmpty then none else some (state.setFlags (state.flags.change change), rest)
    | _ => none
  else none

/-- Reads the head of a group, for a text behind the opening parenthesis. -/
def readGroup? (state : State) (text : List Char) : Option (State × List Char) :=
  match skipSpace state.flags text with
  | '?' :: 'P' :: '<' :: rest => readName? state rest
  | '?' :: '<' :: rest => readName? state rest
  | '?' :: rest => readFlags? state rest
  | rest => some (state.push state.flags, rest)

/-- Reads a sign of repetition. A question mark behind it belongs to it. -/
def readRepetition? (state : State) (text : List Char) : Option (State × List Char) :=
  state.inner.repeat?.map fun inner =>
    ({ state with inner }, if text.head? == some '?' then text.tail else text)

def readAtom? (flags : Flags) : List Char → Option (Atom × List Char)
  | [] => none
  | '\\' :: rest => readEscape? flags rest
  | '.' :: rest => some (.anyCharacter, rest)
  | '^' :: rest => some (.edge, rest)
  | '$' :: rest => some (.edge, rest)
  | c :: rest => some (.literal ⟨c, false⟩, rest)

/-- Reads a part of a pattern, or a sign between parts. Braces are signs of a repetition that are
not closed. -/
def readPart? (state : State) (text : List Char) : Option (State × List Char) :=
  match text with
  | [] => none
  | '(' :: rest => readGroup? state rest
  | ')' :: rest => state.pop?.map fun state => (state, rest)
  | '|' :: rest => some ({ state with inner := state.inner.branch }, rest)
  | '*' :: rest => readRepetition? state rest
  | '+' :: rest => readRepetition? state rest
  | '?' :: rest => readRepetition? state rest
  | '{' :: _ => none
  | '[' :: rest =>
      (readBrackets? state.flags rest).map fun (depth, rest) => (state.add depth, rest)
  | text =>
      match readAtom? state.flags text with
      | some (atom, rest) => if state.flags.admits atom then some (state.add 0, rest) else none
      | none => none

theorem length_readName? {state : State} {text : List Char} {result : State × List Char}
    (read : readName? state text = some result) : result.2.length < text.length := by
  have shorter := (List.dropWhile_sublist (l := text) isNamePart).length_le
  unfold readName? at read
  dsimp only at read
  split at read
  · next same =>
      rw [same] at shorter
      split at read
      · obtain ⟨_, _, rfl⟩ := Option.map_eq_some_iff.1 read
        exact shorter
      · simp at read
  · simp at read

theorem length_readFlags? {state : State} {text : List Char} {result : State × List Char}
    (read : readFlags? state text = some result) : result.2.length < text.length := by
  have shorter := (List.dropWhile_sublist (l := text) (!endsFlags ·)).length_le
  unfold readFlags? at read
  dsimp only at read
  split at read
  · split at read
    · next same =>
        rw [same] at shorter
        rw [← Option.some.inj read]
        exact shorter
    · next same =>
        rw [same] at shorter
        split at read
        · simp at read
        · rw [← Option.some.inj read]
          exact shorter
    · simp at read
  · simp at read

theorem length_readGroup?_le {state : State} {text : List Char} {result : State × List Char}
    (read : readGroup? state text = some result) : result.2.length ≤ text.length := by
  have space := length_skipSpace_le state.flags text
  unfold readGroup? at read
  split at read
  · next same =>
      have name := length_readName? read
      simp only [same, List.length_cons] at space
      omega
  · next same =>
      have name := length_readName? read
      simp only [same, List.length_cons] at space
      omega
  · next same =>
      have flags := length_readFlags? read
      simp only [same, List.length_cons] at space
      omega
  · rw [← Option.some.inj read]
    exact space

theorem length_readRepetition?_le {state : State} {text : List Char} {result : State × List Char}
    (read : readRepetition? state text = some result) : result.2.length ≤ text.length := by
  obtain ⟨inner, _, rfl⟩ := Option.map_eq_some_iff.1 read
  dsimp only
  split <;> simp

theorem length_readAtom? {flags : Flags} {text : List Char} {result : Atom × List Char}
    (read : readAtom? flags text = some result) : result.2.length < text.length := by
  unfold readAtom? at read
  split at read
  · simp at read
  · exact Nat.lt_succ_of_lt (length_readEscape? read)
  all_goals
    rw [← Option.some.inj read]
    exact Nat.lt_succ_self _

theorem length_readPart? {state : State} {text : List Char} {result : State × List Char}
    (read : readPart? state text = some result) : result.2.length < text.length := by
  unfold readPart? at read
  split at read
  · simp at read
  · exact Nat.lt_succ_of_le (length_readGroup?_le read)
  · obtain ⟨_, _, rfl⟩ := Option.map_eq_some_iff.1 read
    exact Nat.lt_succ_self _
  · rw [← Option.some.inj read]
    exact Nat.lt_succ_self _
  · exact Nat.lt_succ_of_le (length_readRepetition?_le read)
  · exact Nat.lt_succ_of_le (length_readRepetition?_le read)
  · exact Nat.lt_succ_of_le (length_readRepetition?_le read)
  · simp at read
  · obtain ⟨_, brackets, rfl⟩ := Option.map_eq_some_iff.1 read
    exact Nat.lt_succ_of_lt (length_readBrackets? brackets)
  · split at read
    · next atom =>
        split at read
        · rw [← Option.some.inj read]
          exact length_readAtom? atom
        · simp at read
    · simp at read

/-- Reads all parts. -/
def readParts? (state : State) (text : List Char) : Option State :=
  match _space : skipSpace state.flags text with
  | [] => some state
  | c :: rest =>
      match _part : readPart? state (c :: rest) with
      | some (next, left) => readParts? next left
      | none => none
termination_by text.length
decreasing_by
  have space := length_skipSpace_le state.flags text
  rw [_space] at space
  exact Nat.lt_of_lt_of_le (length_readPart? _part) space

/-- Parts of a pattern can be that many levels deep. -/
def maxDepth : Nat := 250

/-- A pattern is well formed if all of it can be read, no group is left open and it is not too
deep. -/
def isWellFormed (text : List Char) : Bool :=
  (readParts? .initial text).any fun state =>
    state.outer.isEmpty && decide (state.inner.depth ≤ maxDepth)

end LexScan.Log.Pattern
