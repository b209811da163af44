/-!
White space: the characters with the Unicode property of that name.
-/

namespace AddressRecords.Unicode

def isWhiteSpace (c : Char) : Bool :=
  let code := c.toNat
  (0x09 ≤ code && code ≤ 0x0d) || code == 0x20 || code == 0x85 || code == 0xa0 ||
    code == 0x1680 || (0x2000 ≤ code && code ≤ 0x200a) || code == 0x2028 || code == 0x2029 ||
    code == 0x202f || code == 0x205f || code == 0x3000

/-- Drops the elements at both ends for which `p` holds. -/
def trimBoth (p : Char → Bool) (text : List Char) : List Char :=
  ((text.dropWhile p).reverse.dropWhile p).reverse

/-- Drops the white space around a text. -/
def trim (text : String) : String :=
  String.ofList (trimBoth isWhiteSpace text.toList)

end AddressRecords.Unicode
