/-! Sets of characters given by ranges of code points, the form in which character properties are
listed. Membership is a walk over the ranges. -/
namespace LexScan.Text

/-- A piece of a character set: one code point, all of a range, or every second one of a range. -/
inductive CodeRange where
  | one (code : Nat)
  | span (first last : Nat)
  | alternate (first last : Nat)
deriving DecidableEq, Repr

def CodeRange.contains : CodeRange → Nat → Bool
  | .one code, n => n == code
  | .span first last, n => first ≤ n && n ≤ last
  | .alternate first last, n => first ≤ n && n ≤ last && (n - first) % 2 == 0

/-- Whether a character lies in one of the ranges. -/
def inRanges (ranges : List CodeRange) (c : Char) : Bool :=
  ranges.any (·.contains c.toNat)

end LexScan.Text
