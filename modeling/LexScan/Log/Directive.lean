import LexScan.Lexeme.Number
import LexScan.Log.Entry
import LexScan.Log.Pattern
import LexScan.Text.Bytes
import LexScan.Text.Character

/-! Directives of a log filter. A directive sets the most detailed level for the entries it covers:
those of targets that begin with a text and, if it asks for one, with a field of a given name. It is
written `target[{field}]=level`, and each part may be missing. -/
namespace LexScan.Log

open Text

structure Directive where
  target : String
  field : Option String
  /-- Nothing is logged without a level. -/
  level : Option Level
deriving DecidableEq, Repr

namespace Directive

def covers (directive : Directive) (entry : Entry) : Bool :=
  directive.target.toList.isPrefixOf entry.target.name.toList && directive.field.all entry.hasField

def admits (directive : Directive) (level : Level) : Bool :=
  directive.level.any fun most => level.rank ≤ most.rank

/-- The order of the fields asked for: none comes first, then by name. -/
def fieldBefore : Option String → Option String → Bool
  | none, some _ => true
  | some first, some second => first < second
  | _, none => false

/-- A longer target goes before a shorter one, and for the same target a field before none. -/
def outweighs (directive other : Directive) : Bool :=
  other.target.utf8ByteSize < directive.target.utf8ByteSize ||
    (other.target.utf8ByteSize == directive.target.utf8ByteSize &&
      fieldBefore other.field directive.field)

/-- The digits of a number, with a plus sign before them or not. -/
def number? (text : List Char) : Option Nat :=
  let digits := if text.head? == some '+' then text.tail else text
  if !digits.isEmpty && digits.all Char.isDigit then
    some (digits.foldl (fun value c => value * 10 + (c.toNat - 48)) 0)
  else none

/-- The level with a number; zero is no level. -/
def numberedLevel? : Nat → Option (Option Level)
  | 0 => some none
  | 1 => some (some .error)
  | 2 => some (some .warn)
  | 3 => some (some .info)
  | 4 => some (some .debug)
  | 5 => some (some .trace)
  | _ => none

/-- The level with a name, in letters of either case. -/
def namedLevel? (text : String) : Option (Option Level) :=
  match text.toLower with
  | "off" => some none
  | "error" => some (some .error)
  | "warn" => some (some .warn)
  | "info" => some (some .info)
  | "debug" => some (some .debug)
  | "trace" => some (some .trace)
  | _ => none

def level? (text : List Char) : Option (Option Level) :=
  match number? text with
  | some number => numberedLevel? number
  | none => namedLevel? (String.ofList text)

/-- The level behind an equals sign. If there is nothing behind it, all levels are meant. A
directive with blanks before it cannot set a level. -/
def levelBehindSign? (blanks text : List Char) : Option (Option Level) :=
  if !blanks.isEmpty then none
  else if text.isEmpty then some (some .trace)
  else level? text

/-- What may follow a closing bracket: a level, or nothing but blanks. -/
def levelBehindBracket? (blanks text : List Char) : Option (Option Level) :=
  match text with
  | '=' :: level => levelBehindSign? blanks level
  | _ => if text.all isSpace then some (some .trace) else none

/-- A decimal number, for a text behind a plus sign. -/
def isDecimal (text : List Char) : Bool :=
  let split := Lexeme.number text
  split.rest.isEmpty && (split.whole ++ split.fraction).any Char.isDigit &&
    (split.exponent.isEmpty || split.exponent.getLast?.any Char.isDigit)

/-- The names of floating-point values that are no decimal numbers. -/
def isSpecialNumber (text : List Char) : Bool :=
  ["inf", "infinity", "nan"].contains (String.ofList text).toLower

/-- A value that a field can be asked to have: a number or a pattern. -/
def isValue (text : List Char) : Bool :=
  Pattern.isWellFormed text ||
    (text.head? == some '+' && (isDecimal text.tail || isSpecialNumber text.tail))

/-- What is taken for a part of a directive that has blanks before it. The bytes up to the part are
counted from behind the blanks, but stepped over from where they begin, so that the part is looked
for too far in front. -/
def displaced (blanks before part : List Char) : List Char :=
  takeBytes (byteSize part) (dropBytes (byteSize before) (blanks ++ before ++ part))

/-- What stands between braces: the name of a field, and perhaps a value for it. -/
structure FieldText where
  name : List Char
  value : Option (List Char)
deriving DecidableEq, Repr

def FieldText.ofText (text : List Char) : FieldText :=
  { name := text.takeWhile (· != '=')
    value :=
      match text.dropWhile (· != '=') with
      | [] => none
      | _ :: behind => some (behind.takeWhile (· != '=')) }

/-- A directive that is read. It may be one that covers no entry at all: there are no spans here,
and the values of fields are not looked at. -/
inductive Reading where
  | rule (directive : Directive)
  | idle
deriving DecidableEq, Repr

def Reading.directive? : Reading → Option Directive
  | .rule directive => some directive
  | .idle => none

/-- A text without equals sign and bracket is a level for all targets, or a target with all
levels. -/
def ofWord (text : List Char) : Directive :=
  match level? text with
  | some level => ⟨"", none, level⟩
  | none => ⟨String.ofList text, none, some .trace⟩

/-- What stands between braces and behind them, for a text behind the opening brace. -/
def readField? (blanks target span text : List Char) : Option Reading :=
  let content := text.takeWhile (· != '}')
  match text.dropWhile (· != '}') with
  | '}' :: ']' :: behind => do
      let level ← levelBehindBracket? blanks behind
      let field := FieldText.ofText (displaced blanks (target ++ '[' :: span ++ ['{']) content)
      if content.isEmpty || !field.value.all isValue then none
      else if span.isEmpty && field.value.isNone then
        some (.rule ⟨String.ofList target, some (String.ofList field.name), level⟩)
      else some .idle
  | _ => none

/-- What stands between brackets and behind them, for a text behind the opening bracket. -/
def readBrackets? (blanks target text : List Char) : Option Reading :=
  let span := text.takeWhile fun c => c != ']' && c != '{'
  match text.dropWhile fun c => c != ']' && c != '{' with
  | '{' :: behind => readField? blanks target span behind
  | ']' :: behind => (levelBehindBracket? blanks behind).map fun _ => .idle
  | _ => none

/-- A target begins with a letter, a digit or one of three marks. -/
def startsTarget (c : Char) : Bool := isAlphanumeric c || c == '-' || c == ':' || c == '_'

/-- The parts of a directive, for a text behind the blanks before it. -/
def readParts? (blanks text : List Char) : Option Reading :=
  match text with
  | [] => none
  | '[' :: inner => readBrackets? blanks [] inner
  | c :: _ =>
      if startsTarget c then
        let target := text.takeWhile fun c => c != '=' && c != '['
        match text.dropWhile fun c => c != '=' && c != '[' with
        | '=' :: level =>
            (levelBehindSign? blanks level).map fun level =>
              .rule ⟨String.ofList target, none, level⟩
        | _ :: inner => readBrackets? blanks target inner
        | [] => some (.rule (ofWord text))
      else none

/-- A directive. Blanks before it count as the beginning of its target, which then is no entry's. -/
def read? (text : List Char) : Option Reading :=
  let blanks := text.takeWhile isSpace
  (readParts? blanks (text.dropWhile isSpace)).map fun reading =>
    if blanks.isEmpty then reading else .idle

end Directive
end LexScan.Log
