import InfoModel.Unicode.Property

/-!
# Letters, digits and printable characters

The classes of characters that names, numbers and quoted texts are made of. Every test answers for
ASCII characters without a table, so that a statement about a concrete ASCII text evaluates.
-/

namespace InfoModel.Unicode

def isBlank (c : Char) : Bool :=
  let n := c.toNat
  (9 ≤ n && n ≤ 13) || n == 0x20 || n == 0x85 || n == 0xA0 || n == 0x1680 ||
    (0x2000 ≤ n && n ≤ 0x200A) || n == 0x2028 || n == 0x2029 || n == 0x202F ||
    n == 0x205F || n == 0x3000

def isAsciiDigit (c : Char) : Bool := '0' ≤ c && c ≤ '9'

def isAsciiLetter (c : Char) : Bool := ('a' ≤ c && c ≤ 'z') || ('A' ≤ c && c ≤ 'Z')

def isHexDigit (c : Char) : Bool :=
  isAsciiDigit c || ('a' ≤ c && c ≤ 'f') || ('A' ≤ c && c ≤ 'F')

def asciiLower (c : Char) : Char :=
  if 'A' ≤ c && c ≤ 'Z' then Char.ofNat (c.toNat + 32) else c

def alphabetic : CodeSet := property "alphabetic"

/-- The characters of a number category: decimal digits, letter numbers and other numbers. -/
def numeric : CodeSet := categoriesOf ["nd", "nl", "no"]

def isAlphabetic (c : Char) : Bool :=
  if c.toNat < 128 then isAsciiLetter c else alphabetic.contains c

/-- Whether a character is alphabetic or of a number category. -/
def isAlphanumeric (c : Char) : Bool :=
  if c.toNat < 128 then isAsciiLetter c || isAsciiDigit c
  else alphabetic.contains c || numeric.contains c

/-- The assigned characters that leave a mark: those of no control, format, surrogate, private or
separator category. -/
def graphic : CodeSet :=
  categoriesOf (categoryNames.filter fun name =>
    name ∉ ["cc", "cf", "cs", "co", "zl", "zp", "zs"])

def extender : CodeSet := property "graphemeextend"

/-- Whether a character can be shown as it stands: the ASCII space or a graphic character that does
not extend the one before it. -/
def isPrintable (c : Char) : Bool :=
  if c.toNat < 128 then 32 ≤ c.toNat && c.toNat < 127
  else graphic.contains c && !extender.contains c

end InfoModel.Unicode
