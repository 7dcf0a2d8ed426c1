import LexScan.Log.Pattern.Escape

/-! Character classes: what stands in brackets. A class may hold others, and doubled signs combine
what stands on both sides of them. The brackets that are open are kept on a stack. -/
namespace LexScan.Log.Pattern

/-- The depth of parts that stand side by side. Several are one level deeper than the deepest. -/
def depthOfParts : List Nat → Nat
  | [] => 0
  | [depth] => depth
  | depths => depths.foldl Nat.max 0 + 1

/-- What has been read of a class. -/
structure Level where
  /-- Whether nothing but minus signs has been read. They stand for themselves there, and so does
  a closing bracket that comes first. -/
  opening : Bool
  /-- The depth of what is to be combined with the parts. -/
  left : Option Nat
  /-- The depths of the parts. -/
  parts : List Nat
deriving DecidableEq, Repr

namespace Level

def empty : Level := ⟨true, none, []⟩

def depth (level : Level) : Nat :=
  match level.left with
  | none => depthOfParts level.parts
  | some left => Nat.max left (depthOfParts level.parts) + 1

def add (level : Level) (depth : Nat) : Level :=
  { level with opening := false, parts := depth :: level.parts }

/-- Adds a minus sign or a bracket at the beginning. A bracket ends the beginning. -/
def addFirst (level : Level) (c : Char) : Level :=
  { level with opening := c == '-', parts := 0 :: level.parts }

/-- Reads a sign that combines what is there with what follows. -/
def combine (level : Level) : Level := ⟨false, some level.depth, []⟩

end Level

def classNames : List String :=
  ["alnum", "alpha", "ascii", "blank", "cntrl", "digit", "graph", "lower", "print", "punct",
    "space", "upper", "word", "xdigit"]

/-- Reads the rest of a name of a class, up to a colon and a bracket. -/
def readNameEnd? (negated : Bool) (text : List Char) : Option (ClassPart × List Char) :=
  match text.dropWhile (· != ':') with
  | ':' :: ']' :: rest =>
      if classNames.contains (String.ofList (text.takeWhile (· != ':'))) then
        some (.named negated, rest)
      else none
  | _ => none

/-- Reads the name of a class between colons, for a text behind the bracket before it. -/
def readClassName? : List Char → Option (ClassPart × List Char)
  | ':' :: '^' :: rest => readNameEnd? true rest
  | ':' :: rest => readNameEnd? false rest
  | _ => none

def readClassAtom? (flags : Flags) : List Char → Option (Atom × List Char)
  | [] => none
  | '\\' :: rest => readEscape? flags rest
  | c :: rest => some (.literal ⟨c, false⟩, rest)

/-- Places are no parts of a class. -/
def classPart? : Atom → Option ClassPart
  | .literal literal => some (.literal literal)
  | .kind negated => some (.kind negated)
  | _ => none

/-- A range goes from one character to one that is not before it. -/
def range? : Atom → Atom → Option ClassPart
  | .literal first, .literal last =>
      if first.character ≤ last.character then some (.range first last) else none
  | _, _ => none

/-- Whether a minus sign makes no range, for a text behind it: a bracket or another minus sign
follows. A number sign does not hide what stands behind it. -/
def isLoneMinus (flags : Flags) (text : List Char) : Bool :=
  let next :=
    if flags.spaced then
      let behind := text.dropWhile Text.isSpace
      if behind.head? == some '#' then behind.tail.dropWhile Text.isSpace else behind
    else text
  next.head? == some ']' || next.head? == some '-'

/-- Reads a character, a kind of characters or a range. -/
def readClassPart? (flags : Flags) (text : List Char) : Option (ClassPart × List Char) :=
  match readClassAtom? flags text with
  | none => none
  | some (first, rest) =>
      match skipSpace flags rest with
      | '-' :: behind =>
          if isLoneMinus flags behind then (classPart? first).map fun part => (part, '-' :: behind)
          else
            match readClassAtom? flags (skipSpace flags behind) with
            | none => none
            | some (last, rest) => (range? first last).map fun part => (part, rest)
      | rest => (classPart? first).map fun part => (part, rest)

/-- Reads the sign of a complement behind an opening bracket. -/
def readComplement (flags : Flags) (text : List Char) : Bool × List Char :=
  match skipSpace flags text with
  | '^' :: rest => (true, rest)
  | rest => (false, rest)

theorem length_readNameEnd? {negated : Bool} {text : List Char} {result : ClassPart × List Char}
    (read : readNameEnd? negated text = some result) : result.2.length < text.length := by
  have shorter := (List.dropWhile_sublist (l := text) (· != ':')).length_le
  unfold readNameEnd? at read
  split at read
  · next same =>
      split at read
      · simp only [same, List.length_cons, ← Option.some.inj read] at shorter ⊢
        omega
      · simp at read
  · simp at read

theorem length_readClassName? {text : List Char} {result : ClassPart × List Char}
    (read : readClassName? text = some result) : result.2.length < text.length := by
  unfold readClassName? at read
  split at read
  · exact Nat.lt_succ_of_lt (Nat.lt_succ_of_lt (length_readNameEnd? read))
  · exact Nat.lt_succ_of_lt (length_readNameEnd? read)
  · simp at read

theorem length_readClassAtom? {flags : Flags} {text : List Char} {result : Atom × List Char}
    (read : readClassAtom? flags text = some result) : result.2.length < text.length := by
  unfold readClassAtom? at read
  split at read
  · simp at read
  · exact Nat.lt_succ_of_lt (length_readEscape? read)
  · simp only [Option.some.injEq] at read
    simp [← read]

theorem length_readClassPart? {flags : Flags} {text : List Char} {result : ClassPart × List Char}
    (read : readClassPart? flags text = some result) : result.2.length < text.length := by
  unfold readClassPart? at read
  split at read
  · simp at read
  · next first rest atom =>
      have shorter : rest.length < text.length := length_readClassAtom? atom
      have space := length_skipSpace_le flags rest
      split at read
      · next behind same =>
          rw [same] at space
          split at read
          · obtain ⟨part, _, rfl⟩ := Option.map_eq_some_iff.1 read
            exact Nat.lt_of_le_of_lt space shorter
          · split at read
            · simp at read
            · next last left second =>
                have second : left.length < _ := length_readClassAtom? second
                have inner := length_skipSpace_le flags behind
                obtain ⟨part, _, rfl⟩ := Option.map_eq_some_iff.1 read
                simp only [List.length_cons] at space
                show left.length < text.length
                omega
      · obtain ⟨part, _, rfl⟩ := Option.map_eq_some_iff.1 read
        exact Nat.lt_of_le_of_lt space shorter

theorem length_readComplement_le (flags : Flags) (text : List Char) :
    (readComplement flags text).2.length ≤ text.length := by
  have space := length_skipSpace_le flags text
  unfold readComplement
  split
  · next same =>
      simp only [same, List.length_cons] at space
      exact Nat.le_of_succ_le space
  · exact space

/-- Reads up to the bracket that closes the outermost class, and yields its depth. -/
def readClass? (flags : Flags) (outer : List Level) (level : Level) (text : List Char) :
    Option (Nat × List Char) :=
  match _space : skipSpace flags text with
  | [] => none
  | c :: rest =>
      if level.opening && (c == '-' || c == ']' && level.parts.isEmpty) then
        if flags.admitsInClass (.literal ⟨c, false⟩) then
          readClass? flags outer (level.addFirst c) rest
        else none
      else if c == ']' then
        match outer with
        | [] => some (level.depth + 1, rest)
        | next :: outer => readClass? flags outer (next.add (level.depth + 1)) rest
      else if (c == '&' || c == '-' || c == '~') && rest.head? == some c then
        readClass? flags outer level.combine rest.tail
      else if c == '[' then
        match _name : readClassName? rest with
        | some (part, rest) =>
            if flags.admitsInClass part then readClass? flags outer (level.add 0) rest else none
        | none =>
            if flags.admitsBrackets (readComplement flags rest).1 then
              readClass? flags (level :: outer) .empty (readComplement flags rest).2
            else none
      else
        match _part : readClassPart? flags (c :: rest) with
        | none => none
        | some (part, rest) =>
            if flags.admitsInClass part then readClass? flags outer (level.add 0) rest else none
termination_by text.length
decreasing_by
  all_goals
    have space := length_skipSpace_le flags text
    rw [_space, List.length_cons] at space
  · omega
  · omega
  · simp only [List.length_tail]
    omega
  · have := length_readClassName? _name
    simp only at this
    omega
  · have := length_readComplement_le flags rest
    omega
  · have := length_readClassPart? _part
    simp only [List.length_cons] at this
    omega

/-- Reads a class, for a text behind its opening bracket. -/
def readBrackets? (flags : Flags) (text : List Char) : Option (Nat × List Char) :=
  if flags.admitsBrackets (readComplement flags text).1 then
    readClass? flags [] .empty (readComplement flags text).2
  else none

theorem length_readClass? {flags : Flags} {outer : List Level} {level : Level}
    {text : List Char} {result : Nat × List Char}
    (read : readClass? flags outer level text = some result) : result.2.length < text.length := by
  fun_induction readClass? flags outer level text with
  | case1 | case3 | case8 | case10 | case11 | case13 => simp at read
  | case4 _ text _ rest same =>
      have space := length_skipSpace_le flags text
      simp only [same, List.length_cons, ← Option.some.inj read] at space ⊢
      omega
  | case2 _ _ text _ rest same _ _ ih | case5 _ text _ rest same _ _ _ _ ih =>
      have space := length_skipSpace_le flags text
      have tail := ih read
      simp only [same, List.length_cons] at space
      omega
  | case6 _ _ text _ rest same _ _ _ ih =>
      have space := length_skipSpace_le flags text
      have tail := ih read
      simp only [same, List.length_cons, List.length_tail] at space tail
      omega
  | case7 _ _ text _ rest same _ _ _ _ _ _ name _ ih =>
      have space := length_skipSpace_le flags text
      have tail := ih read
      have name := length_readClassName? name
      simp only [same, List.length_cons] at space
      simp only at name
      omega
  | case9 _ _ text _ rest same _ _ _ _ _ _ ih =>
      have space := length_skipSpace_le flags text
      have tail := ih read
      have sign := length_readComplement_le flags rest
      simp only [same, List.length_cons] at space
      omega
  | case12 _ _ text _ rest same _ _ _ _ _ _ part _ ih =>
      have space := length_skipSpace_le flags text
      have tail := ih read
      have part := length_readClassPart? part
      simp only [same, List.length_cons] at space part
      omega

theorem length_readBrackets? {flags : Flags} {text : List Char} {result : Nat × List Char}
    (read : readBrackets? flags text = some result) : result.2.length < text.length := by
  unfold readBrackets? at read
  split at read
  · exact Nat.lt_of_lt_of_le (length_readClass? read) (length_readComplement_le flags text)
  · simp at read

end LexScan.Log.Pattern
