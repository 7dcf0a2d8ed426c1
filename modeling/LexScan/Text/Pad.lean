/-! Text set into columns. Widths count characters, and a text longer than its column is kept
whole. -/
namespace LexScan.Text

inductive Alignment where
  | left
  | right
  | center
deriving DecidableEq, Repr

def spaces (n : Nat) : String := String.ofList (List.replicate n ' ')

/-- Fills a text with spaces up to a width. Centred text has the odd space on its right. -/
def pad (alignment : Alignment) (width : Nat) (text : String) : String :=
  let missing := width - text.length
  match alignment with
  | .left => text ++ spaces missing
  | .right => spaces missing ++ text
  | .center => spaces (missing / 2) ++ text ++ spaces (missing - missing / 2)

/-- The first characters of a text. -/
def truncate (count : Nat) (text : String) : String := String.ofList (text.toList.take count)

theorem length_spaces (n : Nat) : (spaces n).length = n := by
  simp [spaces]

/-- A padded text is as wide as its column, or as itself if that is wider. -/
theorem length_pad (alignment : Alignment) (width : Nat) (text : String) :
    (pad alignment width text).length = max width text.length := by
  cases alignment <;> simp [pad, length_spaces] <;> omega

end LexScan.Text
