/-!
White space. Trimming and word splitting use the property White_Space; the query language separates
its words by the four characters of `isGap` only.
-/

set_option autoImplicit false

namespace SeriesQuery.Text

def isBlank (c : Char) : Bool :=
  let code := c.toNat
  (0x9 ≤ code && code ≤ 0xd) || code == 0x20 || code == 0x85 || code == 0xa0 || code == 0x1680 ||
    (0x2000 ≤ code && code ≤ 0x200a) || code == 0x2028 || code == 0x2029 || code == 0x202f ||
    code == 0x205f || code == 0x3000

/-- Space, tab, carriage return and line feed. -/
def isGap (c : Char) : Bool := c == ' ' || c == '\t' || c == '\r' || c == '\n'

theorem isBlank_of_isGap {c : Char} (gap : isGap c = true) : isBlank c = true := by
  simp only [isGap, Bool.or_eq_true, beq_iff_eq] at gap
  rcases gap with ((same | same) | same) | same <;> subst same <;> rfl

/-- Drops the longest tail whose characters all satisfy `p`. -/
def dropEndWhile (p : Char → Bool) (text : List Char) : List Char :=
  (text.reverse.dropWhile p).reverse

def trimChars (text : List Char) : List Char := dropEndWhile isBlank (text.dropWhile isBlank)

def trim (text : String) : String := String.ofList (trimChars text.toList)

def isBlankText (text : String) : Bool := text.toList.all isBlank

def words (text : String) : List String :=
  ((text.toList.splitOnP isBlank).filter (!·.isEmpty)).map String.ofList

end SeriesQuery.Text
