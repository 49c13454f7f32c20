/-! Blank characters and the words between them. `words` cuts a text at every run of blank
characters and `collapse` writes the words back with one space between neighbours, so a
collapsed text is a canonical spelling of its words. -/

namespace DeclRules.Text

/-- The Unicode property `White_Space`. -/
def isBlank (c : Char) : Bool :=
  let n := c.toNat
  (0x09 ≤ n && n ≤ 0x0D) || n == 0x20 || n == 0x85 || n == 0xA0 || n == 0x1680 ||
    (0x2000 ≤ n && n ≤ 0x200A) || n == 0x2028 || n == 0x2029 || n == 0x202F || n == 0x205F ||
    n == 0x3000

/-- The maximal runs of characters that are not blank, in order. -/
def words : List Char → List (List Char)
  | [] => []
  | c :: cs =>
    if isBlank c then words cs
    else match cs with
      | [] => [[c]]
      | d :: ds =>
        if isBlank d then [c] :: words ds
        else match words (d :: ds) with
          | w :: ws => (c :: w) :: ws
          | [] => [[c]]

/-- Words written after each other, one space between neighbours. -/
def unwords : List (List Char) → List Char
  | [] => []
  | [w] => w
  | w :: v :: ws => w ++ ' ' :: unwords (v :: ws)

/-- The text with every run of blank characters reduced to one space, and none at either end. -/
def collapse (s : String) : String :=
  String.ofList (unwords (words s.toList))

end DeclRules.Text
