/-!
Blank characters and the ends of a text. A character is blank when Unicode calls it white space;
trimming removes the blanks at the two ends of a text and nothing between them.
-/

namespace Preflight.Text

/-! ## 1. The class -/

-- the twenty-five characters that Unicode calls white space
def isBlank (c : Char) : Bool :=
  let n := c.toNat
  (9 ≤ n && n ≤ 13) || n == 0x20 || n == 0x85 || n == 0xA0 || n == 0x1680
    || (0x2000 ≤ n && n ≤ 0x200A) || n == 0x2028 || n == 0x2029 || n == 0x202F || n == 0x205F
    || n == 0x3000

/-! ## 2. Trimming -/

def trimStart (cs : List Char) : List Char :=
  cs.dropWhile isBlank

def trimEnd (cs : List Char) : List Char :=
  (cs.reverse.dropWhile isBlank).reverse

def trim (cs : List Char) : List Char :=
  trimEnd (trimStart cs)

theorem length_dropWhile_le (p : Char → Bool) (cs : List Char) :
    (cs.dropWhile p).length ≤ cs.length := by
  induction cs with
  | nil => simp
  | cons c cs ih =>
    simp only [List.dropWhile_cons]
    split <;> simp
    omega

theorem length_trim_le (cs : List Char) : (trim cs).length ≤ cs.length := by
  have outer := length_dropWhile_le isBlank (trimStart cs).reverse
  have inner := length_dropWhile_le isBlank cs
  simp only [trim, trimEnd, trimStart, List.length_reverse] at *
  omega

/-! ## 3. Words -/

/-- The runs of characters between blanks, behind the characters of a word so far in reverse. -/
def wordsBehind (word : List Char) : List Char → List (List Char)
  | [] => if word.isEmpty then [] else [word.reverse]
  | c :: cs =>
    if isBlank c then
      if word.isEmpty then wordsBehind [] cs else word.reverse :: wordsBehind [] cs
    else wordsBehind (c :: word) cs

/-- The words of a text: its longest runs of characters that are not blank. -/
def words (cs : List Char) : List (List Char) := wordsBehind [] cs

end Preflight.Text
