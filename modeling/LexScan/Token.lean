import LexScan.Json.Document
import LexScan.Kind
import LexScan.Position

/-! Tokens: a kind, the text as it stands in the source, and the place of its first character. -/
namespace LexScan

structure Token where
  kind : Kind
  lexeme : String
  position : Position
deriving DecidableEq, Repr

namespace Token

/-- The token that closes a stream, at the place where the cursor came to rest. -/
def endOfInput (position : Position) : Token := ⟨.endOfInput, "", position⟩

def isEndOfInput (token : Token) : Bool := token.kind == .endOfInput

/-- The line of a token in a listing. -/
def render (token : Token) : String :=
  "<" ++ token.kind.label ++ ", \"" ++ token.lexeme ++ "\", Line: " ++
    toString token.position.line ++ ", Col: " ++ toString token.position.column ++ ">"

def toJson (token : Token) : Json :=
  .object [("kind", .string token.kind.label), ("lexeme", .string token.lexeme),
    ("line", .number token.position.line), ("column", .number token.position.column)]

@[simp] theorem isEndOfInput_endOfInput (position : Position) :
    (endOfInput position).isEndOfInput = true := rfl

end Token
end LexScan
