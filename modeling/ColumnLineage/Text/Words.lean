/-
ColumnLineage/Text/Words.lean

Splitting text into words at white space, where white space is every
character with the Unicode White_Space property.
-/

namespace ColumnLineage.Text

/-- The characters with the Unicode White_Space property. -/
def isWhiteSpace (c : Char) : Bool :=
  let n := c.toNat
  (n ≥ 9 && n ≤ 13) || n == 32 || n == 0x85 || n == 0xA0 || n == 0x1680 ||
    (n ≥ 0x2000 && n ≤ 0x200A) || n == 0x2028 || n == 0x2029 || n == 0x202F ||
    n == 0x205F || n == 0x3000

/-- The words of a text: its longest runs of characters that are not white
space, in order. -/
def words (s : String) : List String :=
  let step := fun (st : List String × List Char) (c : Char) =>
    let (done, cur) := st
    if isWhiteSpace c then
      (if cur.isEmpty then done else String.ofList cur.reverse :: done, [])
    else (done, c :: cur)
  let (done, cur) := s.toList.foldl step ([], [])
  (if cur.isEmpty then done else String.ofList cur.reverse :: done).reverse

/-- A text without the white space at its two ends. -/
def trimWhiteSpace (s : String) : String :=
  String.ofList ((s.toList.dropWhile isWhiteSpace).reverse.dropWhile isWhiteSpace).reverse

/-- The first `n` words of a text, joined by single spaces. -/
def leadingWords (n : Nat) (s : String) : String :=
  " ".intercalate ((words s).take n)

end ColumnLineage.Text
