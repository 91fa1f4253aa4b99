/-!
# White space

The characters that separate tokens: those Unicode calls white space, and the
four information separators below the space.
-/

namespace Calculator.Text

/-- Whether a character is white space. The zero-width spaces and the Mongolian
vowel separator are not. -/
def isBlank (c : Char) : Bool :=
  let code := c.toNat
  (0x09 ≤ code && code ≤ 0x0D) || (0x1C ≤ code && code ≤ 0x20) || code == 0x85 ||
    code == 0xA0 || code == 0x1680 || (0x2000 ≤ code && code ≤ 0x200A) || code == 0x2028 ||
    code == 0x2029 || code == 0x202F || code == 0x205F || code == 0x3000

end Calculator.Text
