/-! JSON documents and their text. Members of an object keep their order, and one printer writes
both layouts: everything on one line, or one item a line with two spaces for each level. -/
namespace LexScan

/-- The documents of this program: their numbers are counts. -/
inductive Json where
  | null
  | bool (value : Bool)
  | number (value : Nat)
  | string (text : String)
  | array (items : List Json)
  | object (members : List (String × Json))
deriving Repr

namespace Json

inductive Layout where
  | compact
  | indented
deriving DecidableEq, Repr

/-- What stands before an item at a depth, and before the bracket that closes it. -/
def Layout.lineBreak : Layout → Nat → List Char
  | .compact, _ => []
  | .indented, depth => '\n' :: List.replicate (2 * depth) ' '

def Layout.colon : Layout → List Char
  | .compact => [':']
  | .indented => [':', ' ']

/-- The lower-case hexadecimal digit of a number below 16. -/
def hexDigit (n : Nat) : Char := Nat.digitChar n

/-- A character inside a string: quotes, backslashes and control characters are escaped. -/
def escaped (c : Char) : List Char :=
  if c = '"' then ['\\', '"']
  else if c = '\\' then ['\\', '\\']
  else if c = '\n' then ['\\', 'n']
  else if c = '\t' then ['\\', 't']
  else if c = '\r' then ['\\', 'r']
  else if c.toNat = 8 then ['\\', 'b']
  else if c.toNat = 12 then ['\\', 'f']
  else if c.toNat < 32 then ['\\', 'u', '0', '0', hexDigit (c.toNat / 16), hexDigit (c.toNat % 16)]
  else [c]

def stringText (text : String) : List Char :=
  '"' :: (text.toList.flatMap escaped ++ ['"'])

mutual

/-- The text of a document that stands at a depth. -/
def characters (layout : Layout) (depth : Nat) : Json → List Char
  | .null => ['n', 'u', 'l', 'l']
  | .bool true => ['t', 'r', 'u', 'e']
  | .bool false => ['f', 'a', 'l', 's', 'e']
  | .number value => Nat.toDigits 10 value
  | .string text => stringText text
  | .array [] => ['[', ']']
  | .array (item :: items) =>
      '[' :: layout.lineBreak (depth + 1) ++ characters layout (depth + 1) item ++
        moreItems layout (depth + 1) items ++ layout.lineBreak depth ++ [']']
  | .object [] => ['{', '}']
  | .object ((name, value) :: members) =>
      '{' :: layout.lineBreak (depth + 1) ++ stringText name ++ layout.colon ++
        characters layout (depth + 1) value ++ moreMembers layout (depth + 1) members ++
        layout.lineBreak depth ++ ['}']

/-- The items of an array behind its first one. -/
def moreItems (layout : Layout) (depth : Nat) : List Json → List Char
  | [] => []
  | item :: items =>
      ',' :: layout.lineBreak depth ++ characters layout depth item ++
        moreItems layout depth items

/-- The members of an object behind its first one. -/
def moreMembers (layout : Layout) (depth : Nat) : List (String × Json) → List Char
  | [] => []
  | (name, value) :: members =>
      ',' :: layout.lineBreak depth ++ stringText name ++ layout.colon ++
        characters layout depth value ++ moreMembers layout depth members

end

/-- A document on one line. -/
def compact (document : Json) : String := String.ofList (document.characters .compact 0)

/-- A document with one item a line. -/
def indented (document : Json) : String := String.ofList (document.characters .indented 0)

end Json
end LexScan
