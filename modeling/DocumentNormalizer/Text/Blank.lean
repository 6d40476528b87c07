namespace DocumentNormalizer.Text

/-- Characters with the Unicode property `White_Space`, and the four separators among the control
characters. -/
def isBlank (c : Char) : Bool :=
  ('\t' ≤ c && c ≤ '\r') || ('\x1c' ≤ c && c ≤ ' ') || ('\u2000' ≤ c && c ≤ '\u200a') ||
    ['\x85', '\xa0', '\u1680', '\u2028', '\u2029', '\u202f', '\u205f', '\u3000'].contains c

def trimRight (text : List Char) : List Char := (text.reverse.dropWhile isBlank).reverse

def trim (text : List Char) : List Char := trimRight (text.dropWhile isBlank)

def words (text : List Char) : List (List Char) := (text.splitOnP isBlank).filter (!·.isEmpty)

end DocumentNormalizer.Text
