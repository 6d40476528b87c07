namespace DocumentNormalizer.Text

def base64Digit? (c : Char) : Option Nat :=
  if 'A' ≤ c ∧ c ≤ 'Z' then some (c.toNat - 'A'.toNat)
  else if 'a' ≤ c ∧ c ≤ 'z' then some (c.toNat - 'a'.toNat + 26)
  else if '0' ≤ c ∧ c ≤ '9' then some (c.toNat - '0'.toNat + 52)
  else if c = '+' then some 62
  else if c = '/' then some 63
  else none

def groupBytes : List Nat → List UInt8
  | a :: b :: rest =>
    (4 * a + b / 16).toUInt8 ::
      match rest with
      | [] => []
      | c :: rest =>
        (b % 16 * 16 + c / 4).toUInt8 ::
          match rest with
          | [] => []
          | d :: _ => [(c % 4 * 64 + d).toUInt8]
  | _ => []

/-- The bytes of a text, behind the digits of a group that is not full and the signs that fill it up.
A group must not stay open at the end. -/
def base64Bytes? (group : List Nat) (filled : Nat) : List Char → Option (List UInt8)
  | [] => if group.isEmpty then some [] else none
  | c :: rest =>
    if c = '=' then
      if group.length < 2 then base64Bytes? group filled rest
      else if 4 ≤ group.length + filled + 1 then some (groupBytes group)
      else base64Bytes? group (filled + 1) rest
    else
      match base64Digit? c with
      | none => base64Bytes? group filled rest
      | some digit =>
        let group := group ++ [digit]
        if group.length = 4 then (groupBytes group ++ ·) <$> base64Bytes? [] 0 rest
        else base64Bytes? group 0 rest

end DocumentNormalizer.Text
