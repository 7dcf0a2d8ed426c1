import LexScan.Lexeme.Comment
import LexScan.Lexeme.Mark
import LexScan.Lexeme.Number
import LexScan.Lexeme.Quotation
import LexScan.ReservedWord
import LexScan.Text.Character

/-! Source text is a sequence of segments: blanks, comments, tokens and faulty pieces.
`Segment.read` takes the first one. It takes at least one character, and what it takes and what it
leaves make up the text, so that no character is lost or read twice. -/
namespace LexScan

inductive Segment where
  | blank (c : Char)
  | lineComment (text : List Char)
  | blockComment (text : List Char)
  | token (kind : Kind) (lexeme : List Char)
  | strayCharacter (c : Char)
  | malformedCharacter (lexeme : List Char)
  | unterminatedString (lexeme : List Char)
  | unclosedComment (text : List Char) (depth : Nat)
deriving DecidableEq, Repr

namespace Segment

open Text Lexeme

/-- The characters of a segment. -/
def text : Segment → List Char
  | .blank c => [c]
  | .lineComment text => text
  | .blockComment text => text
  | .token _ lexeme => lexeme
  | .strayCharacter c => [c]
  | .malformedCharacter lexeme => lexeme
  | .unterminatedString lexeme => lexeme
  | .unclosedComment text _ => text

/-- A segment behind which nothing is left to read. -/
def isFatal : Segment → Bool
  | .unterminatedString _ => true
  | .unclosedComment _ _ => true
  | _ => false

/-- A number begins with a digit, or with a sign right before a digit. -/
def startsNumber (c : Char) (rest : List Char) : Bool :=
  c.isDigit || ((c == '+' || c == '-') && rest.head?.any Char.isDigit)

def readWord (c : Char) (rest : List Char) : Segment × List Char :=
  let lexeme := c :: rest.takeWhile isWordPart
  (.token (ReservedWord.kindOf (String.ofList lexeme)) lexeme, rest.dropWhile isWordPart)

def readNumber (c : Char) (rest : List Char) : Segment × List Char :=
  let split := number rest
  (.token (.literal (if split.isInteger then .integer else .float)) (c :: split.lexeme), split.rest)

def readString (c : Char) (rest : List Char) : Segment × List Char :=
  match stringTail rest with
  | some (tail, left) => (.token (.literal .string) (c :: tail), left)
  | none => (.unterminatedString (c :: rest), [])

def readCharacter (c : Char) (rest : List Char) : Segment × List Char :=
  let split := characterTail rest
  (if split.closed then .token (.literal .character) (c :: split.tail)
    else .malformedCharacter (c :: split.tail), split.rest)

def readMark (c : Char) (rest : List Char) : Segment × List Char :=
  match mark? c rest with
  | some split => (.token split.kind split.lexeme, split.rest)
  | none => (.strayCharacter c, rest)

/-- A number sign opens a comment together with the character behind it. A line comment ends before
its line feed. -/
def readNumberSign (c : Char) : List Char → Segment × List Char
  | '#' :: rest =>
      (.lineComment (c :: '#' :: rest.takeWhile (· != '\n')), rest.dropWhile (· != '\n'))
  | '*' :: rest =>
      match commentTail 1 rest with
      | .closed tail left => (.blockComment (c :: '*' :: tail), left)
      | .unclosed depth => (.unclosedComment (c :: '*' :: rest) depth, [])
  | rest => readMark c rest

/-- The first segment of a text that begins with a character, and what follows the segment. -/
def read (c : Char) (rest : List Char) : Segment × List Char :=
  if isBlank c then (.blank c, rest)
  else if isAlphabetic c then readWord c rest
  else if startsNumber c rest then readNumber c rest
  else if c = '"' then readString c rest
  else if c = '\'' then readCharacter c rest
  else if c = '#' then readNumberSign c rest
  else readMark c rest

theorem readWord_append (c : Char) (rest : List Char) :
    (readWord c rest).1.text ++ (readWord c rest).2 = c :: rest := by
  simp [readWord, text]

theorem readNumber_append (c : Char) (rest : List Char) :
    (readNumber c rest).1.text ++ (readNumber c rest).2 = c :: rest := by
  simp [readNumber, text, number_append]

theorem readString_append (c : Char) (rest : List Char) :
    (readString c rest).1.text ++ (readString c rest).2 = c :: rest := by
  unfold readString
  split
  · next closed => simp [text, stringTail_append closed]
  · simp [text]

theorem readCharacter_append (c : Char) (rest : List Char) :
    (readCharacter c rest).1.text ++ (readCharacter c rest).2 = c :: rest := by
  unfold readCharacter
  by_cases closed : (characterTail rest).closed <;> simp [closed, text, characterTail_append]

theorem readMark_append (c : Char) (rest : List Char) :
    (readMark c rest).1.text ++ (readMark c rest).2 = c :: rest := by
  unfold readMark
  split
  · next found => simpa [text] using mark?_append found
  · simp [text]

theorem readNumberSign_append (c : Char) (rest : List Char) :
    (readNumberSign c rest).1.text ++ (readNumberSign c rest).2 = c :: rest := by
  unfold readNumberSign
  split
  · simp [text]
  · split
    · next closed => simp [text, commentTail_append closed]
    · simp [text]
  · exact readMark_append c _

/-- To show something of what is read, show it of each reader, where that reader is chosen. -/
@[elab_as_elim]
theorem read_cases {motive : Segment × List Char → Prop} (c : Char) (rest : List Char)
    (blank : isBlank c = true → motive (.blank c, rest))
    (word : isAlphabetic c = true → motive (readWord c rest))
    (number : startsNumber c rest = true → motive (readNumber c rest))
    (string : c = '"' → motive (readString c rest))
    (character : c = '\'' → motive (readCharacter c rest))
    (numberSign : c = '#' → motive (readNumberSign c rest))
    (mark : isBlank c = false → motive (readMark c rest)) : motive (read c rest) := by
  unfold read
  split
  · exact blank ‹_›
  · split
    · exact word ‹_›
    · split
      · exact number ‹_›
      · split
        · exact string ‹_›
        · split
          · exact character ‹_›
          · split
            · exact numberSign ‹_›
            · exact mark (by simpa using ‹¬ isBlank c = true›)

/-- Nothing is lost: the segment and what follows it make up the text. -/
theorem read_append (c : Char) (rest : List Char) :
    (read c rest).1.text ++ (read c rest).2 = c :: rest := by
  refine read_cases c rest ?_ ?_ ?_ ?_ ?_ ?_ ?_
  · intro _
    simp [text]
  · exact fun _ => readWord_append c rest
  · exact fun _ => readNumber_append c rest
  · exact fun _ => readString_append c rest
  · exact fun _ => readCharacter_append c rest
  · exact fun _ => readNumberSign_append c rest
  · exact fun _ => readMark_append c rest

theorem readMark_head (c : Char) (rest : List Char) :
    ∃ tail, (readMark c rest).1.text = c :: tail := by
  unfold readMark
  split
  · next found => exact mark?_head found
  · exact ⟨[], rfl⟩

theorem readString_head (c : Char) (rest : List Char) :
    ∃ tail, (readString c rest).1.text = c :: tail := by
  unfold readString
  split <;> exact ⟨_, rfl⟩

theorem readCharacter_head (c : Char) (rest : List Char) :
    ∃ tail, (readCharacter c rest).1.text = c :: tail := by
  unfold readCharacter
  by_cases closed : (characterTail rest).closed <;> simp [closed, text]

theorem readNumberSign_head (c : Char) (rest : List Char) :
    ∃ tail, (readNumberSign c rest).1.text = c :: tail := by
  unfold readNumberSign
  split
  · exact ⟨_, rfl⟩
  · split <;> exact ⟨_, rfl⟩
  · exact readMark_head c _

/-- A segment begins with the character at which it is read. -/
theorem read_head (c : Char) (rest : List Char) : ∃ tail, (read c rest).1.text = c :: tail := by
  refine read_cases c rest ?_ ?_ ?_ ?_ ?_ ?_ ?_
  · exact fun _ => ⟨[], rfl⟩
  · exact fun _ => ⟨_, rfl⟩
  · exact fun _ => ⟨_, rfl⟩
  · exact fun _ => readString_head c rest
  · exact fun _ => readCharacter_head c rest
  · exact fun _ => readNumberSign_head c rest
  · exact fun _ => readMark_head c rest

theorem length_read_lt (c : Char) (rest : List Char) :
    (read c rest).2.length < (c :: rest).length := by
  obtain ⟨tail, head⟩ := read_head c rest
  have whole := congrArg List.length (read_append c rest)
  rw [head] at whole
  simp only [List.length_append, List.length_cons] at whole ⊢
  omega

theorem readString_isFatal {c : Char} {rest : List Char}
    (fatal : (readString c rest).1.isFatal = true) : (readString c rest).2 = [] := by
  unfold readString at fatal ⊢
  split
  · simp_all [isFatal]
  · rfl

theorem readMark_isFatal (c : Char) (rest : List Char) : (readMark c rest).1.isFatal = false := by
  unfold readMark
  split <;> rfl

theorem readNumberSign_isFatal {c : Char} {rest : List Char}
    (fatal : (readNumberSign c rest).1.isFatal = true) : (readNumberSign c rest).2 = [] := by
  unfold readNumberSign at fatal ⊢
  split
  · simp [isFatal] at fatal
  · split
    · simp_all [isFatal]
    · rfl
  · simp_all [readMark_isFatal]

/-- Nothing is left behind a fatal segment. -/
theorem rest_eq_nil_of_isFatal (c : Char) (rest : List Char) :
    (read c rest).1.isFatal = true → (read c rest).2 = [] := by
  refine read_cases c rest ?_ ?_ ?_ ?_ ?_ ?_ ?_
  · simp [isFatal]
  · simp [readWord, isFatal]
  · simp [readNumber, isFatal]
  · exact fun _ => readString_isFatal
  · intro _
    by_cases closed : (characterTail rest).closed <;> simp [readCharacter, closed, isFatal]
  · exact fun _ => readNumberSign_isFatal
  · simp [readMark_isFatal]

end Segment
end LexScan
