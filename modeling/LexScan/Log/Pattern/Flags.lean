import LexScan.Text.Character

/-! Flags of a pattern, and what they leave of it. With Unicode a pattern speaks of characters, but
there are no tables here for the case of letters and for kinds of characters. Without it a pattern
speaks of bytes, and may not match a part of a character. -/
namespace LexScan.Log.Pattern

open Text

structure Flags where
  ignoreCase : Bool
  unicode : Bool
  /-- Whether white space and comments may stand between the parts of a pattern. -/
  spaced : Bool
deriving DecidableEq, Repr

namespace Flags

/-- The flags at the beginning of a pattern. -/
def initial : Flags := ⟨false, true, false⟩

def letters : List Char := ['i', 'm', 's', 'U', 'u', 'R', 'x']

def isDistinct : List Char → Bool
  | [] => true
  | c :: rest => !rest.contains c && isDistinct rest

/-- A change of flags lists the letters of those to set and, behind a minus sign, of those to
clear. No flag is named twice, and a minus sign has a letter behind it. -/
def isChange (text : List Char) : Bool :=
  text.all (fun c => c == '-' || letters.contains c) && isDistinct text &&
    text.getLast? != some '-'

/-- What a change makes of the flag with a letter. -/
def setting (text : List Char) (letter : Char) (value : Bool) : Bool :=
  if (text.takeWhile (· != '-')).contains letter then true
  else value && !text.contains letter

def change (flags : Flags) (text : List Char) : Flags :=
  { ignoreCase := setting text 'i' flags.ignoreCase
    unicode := setting text 'u' flags.unicode
    spaced := setting text 'x' flags.spaced }

end Flags

/-- A character that stands for itself, and whether it is written as the number of a byte. -/
structure Literal where
  character : Char
  isByte : Bool
deriving DecidableEq, Repr

/-- The parts of a pattern that have no parts of their own. -/
inductive Atom where
  | literal (literal : Literal)
  | anyCharacter
  /-- A place at the beginning or the end of a line or of the text. -/
  | edge
  /-- A place at the beginning or the end of a word, or one that is not. -/
  | wordEdge
  /-- Digits, white space or word characters, or all the others. -/
  | kind (negated : Bool)
deriving DecidableEq, Repr

/-- The parts of a character class that have no parts of their own. -/
inductive ClassPart where
  | literal (literal : Literal)
  | range (first last : Literal)
  /-- One of the classes of ASCII characters that have a name, or all the other characters. -/
  | named (negated : Bool)
  | kind (negated : Bool)
deriving DecidableEq, Repr

namespace Flags

def admits (flags : Flags) : Atom → Bool
  | .literal literal =>
      if flags.unicode then !flags.ignoreCase
      else !literal.isByte || isAscii literal.character
  | .anyCharacter => flags.unicode
  | .edge => true
  | .wordEdge => !flags.unicode
  | .kind negated => !flags.unicode && !negated

def admitsInClass (flags : Flags) : ClassPart → Bool
  | .literal literal =>
      if flags.unicode then !flags.ignoreCase else isAscii literal.character
  | .range first last =>
      if flags.unicode then !flags.ignoreCase
      else isAscii first.character && isAscii last.character
  | .named negated => if flags.unicode then !flags.ignoreCase else !negated
  | .kind negated => !flags.unicode && !negated

/-- Without Unicode the complement of a class would have bytes in it that are no characters. -/
def admitsBrackets (flags : Flags) (negated : Bool) : Bool := flags.unicode || !negated

end Flags
end LexScan.Log.Pattern
