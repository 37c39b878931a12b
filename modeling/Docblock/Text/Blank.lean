/-!
# Blank characters

Which characters are blank, trimming them off a text, and cutting a text at its first blank.
-/

namespace Docblock.Text

/-- A blank character: the controls from tab to carriage return, the four separators that end
the controls, the next-line control, and the spaces and separators of Unicode. -/
def isBlank (c : Char) : Bool :=
  let code := c.toNat
  (9 ≤ code && code ≤ 13) || (28 ≤ code && code ≤ 32) || code == 0x85 || code == 0xa0 ||
    code == 0x1680 || (0x2000 ≤ code && code ≤ 0x200a) || code == 0x2028 || code == 0x2029 ||
    code == 0x202f || code == 0x205f || code == 0x3000

/-- The blank characters that stay on a line as written by hand: space and tab. -/
def isIndent (c : Char) : Bool := c == ' ' || c == '\t'

/-- The text without the blanks before it. -/
def trimStart (cs : List Char) : List Char := cs.dropWhile isBlank

/-- The text without the blanks after it. -/
def trimEnd (cs : List Char) : List Char := (cs.reverse.dropWhile isBlank).reverse

/-- The text without the blanks around it. -/
def trim (cs : List Char) : List Char := trimEnd (trimStart cs)

/-- The first word of a text and what follows it, both without the blanks between them. -/
def splitWord (cs : List Char) : List Char × List Char :=
  let start := trimStart cs
  (start.takeWhile (!isBlank ·), trimStart (start.dropWhile (!isBlank ·)))

theorem length_dropWhile_le (p : Char → Bool) (cs : List Char) :
    (cs.dropWhile p).length ≤ cs.length :=
  (List.dropWhile_sublist p).length_le

theorem length_trimStart_le (cs : List Char) : (trimStart cs).length ≤ cs.length :=
  length_dropWhile_le _ _

theorem length_trimEnd_le (cs : List Char) : (trimEnd cs).length ≤ cs.length := by
  simpa [trimEnd] using length_dropWhile_le isBlank cs.reverse

theorem length_trim_le (cs : List Char) : (trim cs).length ≤ cs.length :=
  Nat.le_trans (length_trimEnd_le _) (length_trimStart_le _)

@[simp] theorem trim_nil : trim [] = [] := rfl

end Docblock.Text
