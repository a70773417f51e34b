/-!
# White space

The white space characters of Unicode, and the blanks, which are these and the four information
separators of ASCII. A text is stripped by removing one of the two kinds from both of its ends.
-/

set_option autoImplicit false

namespace FilterQuery.Text

/-- Whether a character is white space. The zero width space and the byte order mark are not. -/
def isWhiteSpace (c : Char) : Bool :=
  let code := c.toNat
  (9 ≤ code && code ≤ 13) || code == 32 || code == 0x85 || code == 0xA0 || code == 0x1680 ||
    (0x2000 ≤ code && code ≤ 0x200A) || code == 0x2028 || code == 0x2029 || code == 0x202F ||
    code == 0x205F || code == 0x3000

/-- Whether a character is white space or one of the information separators U+001C to U+001F. -/
def isBlank (c : Char) : Bool :=
  isWhiteSpace c || (28 ≤ c.toNat && c.toNat ≤ 31)

/-- The text without the characters of a kind at both of its ends. -/
def stripBy (kind : Char → Bool) (text : List Char) : List Char :=
  ((text.dropWhile kind).reverse.dropWhile kind).reverse

def strip (text : List Char) : List Char :=
  stripBy isBlank text

def trimmed (text : String) : String :=
  String.ofList (strip text.toList)

@[simp] theorem strip_nil : strip [] = [] := rfl

end FilterQuery.Text
