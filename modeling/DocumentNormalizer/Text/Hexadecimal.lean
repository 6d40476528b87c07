namespace DocumentNormalizer.Text

/-- `n` in base sixteen with lower-case digits, filled up with zeros to at least `width` digits. -/
def hexadecimal (width n : Nat) : String :=
  String.ofList ((Nat.toDigits 16 n).leftpad width '0')

/-- `n` in base sixteen with upper-case digits, filled up with zeros to at least `width` digits. -/
def upperHexadecimal (width n : Nat) : String :=
  String.ofList (((Nat.toDigits 16 n).leftpad width '0').map Char.toUpper)

/-- The value of a digit in base sixteen, in either case. -/
def hexDigit? (c : Char) : Option Nat :=
  if '0' ≤ c ∧ c ≤ '9' then some (c.toNat - '0'.toNat)
  else if 'a' ≤ c ∧ c ≤ 'f' then some (c.toNat - 'a'.toNat + 10)
  else if 'A' ≤ c ∧ c ≤ 'F' then some (c.toNat - 'A'.toNat + 10)
  else none

/-- The number that a run of digits in base sixteen stands for, most significant digit first. -/
def ofHexDigits? (digits : List Char) : Option Nat :=
  digits.foldlM (fun value c => (16 * value + ·) <$> hexDigit? c) 0

end DocumentNormalizer.Text
