namespace DocumentNormalizer

/-- Why a text with expressions in braces cannot be read. -/
inductive FormatFault where
  | loneBrace
  | tooDeep
  | backslash
  | comment
  | unclosedText
  | unmatched (bracket : Char)
  | crossed (closing opening : Char)
  | empty
  | missingBefore (mark : Char)
  | conversion
  | unclosed
deriving DecidableEq

namespace FormatFault

def message : FormatFault → String
  | .loneBrace => "f-string: single '\x7d' is not allowed"
  | .tooDeep => "f-string: expressions nested too deeply"
  | .backslash => "f-string expression part cannot include a backslash"
  | .comment => "f-string expression part cannot include '#'"
  | .unclosedText => "f-string: unterminated string"
  | .unmatched bracket => "f-string: unmatched '" ++ bracket.toString ++ "'"
  | .crossed closing opening =>
    "f-string: closing parenthesis '" ++ closing.toString ++
      "' does not match opening parenthesis '" ++ opening.toString ++ "'"
  | .empty => "f-string: empty expression not allowed"
  | .missingBefore mark => "f-string: expression required before '" ++ mark.toString ++ "'"
  | .conversion =>
    "f-string: invalid conversion character: expected 's', 'r', or 'a'"
  | .unclosed => "f-string: expecting '\x7d'"

end FormatFault

namespace Format

/-- What stands before an expression: the text, whether it ends with a brace that was written twice, and
what is behind it. -/
structure PlainPart where
  text : List Char
  doubled : Bool
  rest : List Char

def PlainPart.after (text : List Char) (part : PlainPart) : PlainPart :=
  { part with text := text ++ part.text }

/-- A part that ends before a brace or with two of them. Inside of an expression's shape, braces are not
written twice. -/
def endAtBrace (inShape : Bool) (brace : Char) (rest : List Char) : Except FormatFault PlainPart :=
  if inShape then .ok ⟨[], false, brace :: rest⟩
  else if rest.head? = some brace then .ok ⟨[brace], true, rest.tail⟩
  else if brace = '\x7d' then .error .loneBrace
  else .ok ⟨[], false, brace :: rest⟩

/-- Takes the part before an expression. Braces around the name of a character do not count. -/
def plainPart (raw inShape inName : Bool) : List Char → Except FormatFault PlainPart
  | [] => .ok ⟨[], false, []⟩
  | '\\' :: 'N' :: d :: rest =>
    if raw || inName then
      (plainPart raw inShape inName ('N' :: d :: rest)).map (·.after ['\\'])
    else (plainPart raw inShape (d = '\x7b') rest).map (·.after ['\\', 'N', d])
  | '\\' :: c :: rest =>
    if raw || inName || c = '\x7b' || c = '\x7d' then
      (plainPart raw inShape inName (c :: rest)).map (·.after ['\\'])
    else (plainPart raw inShape inName rest).map (·.after ['\\', c])
  | c :: rest =>
    if inName then (plainPart raw inShape (c ≠ '\x7d') rest).map (·.after [c])
    else if c = '\x7b' || c = '\x7d' then endAtBrace inShape c rest
    else (plainPart raw inShape inName rest).map (·.after [c])

def before (text : List Char) (taken : List Char × List Char) : List Char × List Char :=
  (text ++ taken.1, taken.2)

def isPair (opening closing : Char) : Bool :=
  [('(', ')'), ('[', ']'), ('\x7b', '\x7d')].contains (opening, closing)

/-- Takes an expression: up to a closing brace or a mark behind expressions, outside of brackets and of
quoted texts. `quote` tells the quotes of a text that has started and whether there are three of them. -/
def expressionPart (opened : List Char) (quote : Option (Char × Bool)) :
    List Char → Except FormatFault (List Char × List Char)
  | [] =>
    match quote, opened with
    | some _, _ => .error .unclosedText
    | none, opening :: _ => .error (.unmatched opening)
    | none, [] => .error .unclosed
  | c :: rest =>
    if c = '\\' then .error .backslash
    else
      match quote with
      | some (mark, false) =>
        (expressionPart opened (if c = mark then none else quote) rest).map (before [c])
      | some (mark, true) =>
        match rest with
        | d :: e :: rest =>
          if c = mark && d = mark && e = mark then
            (expressionPart opened none rest).map (before [c, d, e])
          else (expressionPart opened quote (d :: e :: rest)).map (before [c])
        | rest => (expressionPart opened quote rest).map (before [c])
      | none =>
        if c = '\'' || c = '"' then
          match rest with
          | d :: e :: rest =>
            if c = d && c = e then
              (expressionPart opened (some (c, true)) rest).map (before [c, d, e])
            else (expressionPart opened (some (c, false)) (d :: e :: rest)).map (before [c])
          | rest => (expressionPart opened (some (c, false)) rest).map (before [c])
        else if c = '(' || c = '[' || c = '\x7b' then
          (expressionPart (c :: opened) quote rest).map (before [c])
        else if c = '#' then .error .comment
        else if opened.isEmpty && ['!', ':', '\x7d', '=', '<', '>'].contains c then
          match rest with
          | '=' :: rest =>
            if c = ':' || c = '\x7d' then .ok ([], c :: '=' :: rest)
            else (expressionPart opened quote rest).map (before [c, '='])
          | rest =>
            if c = '<' || c = '>' then (expressionPart opened quote rest).map (before [c])
            else .ok ([], c :: rest)
        else if c = ')' || c = ']' || c = '\x7d' then
          match opened with
          | [] => .error (.unmatched c)
          | opening :: outer =>
            if isPair opening c then (expressionPart outer quote rest).map (before [c])
            else .error (.crossed c opening)
        else (expressionPart opened quote rest).map (before [c])

/-- Takes what stands between an expression and its shape: an equals sign and a conversion. -/
def passMarks (rest : List Char) : Except FormatFault (List Char) := do
  let isBlank (c : Char) : Bool := c = ' ' || ('\t' ≤ c && c ≤ '\r')
  let rest := if rest.head? = some '=' then rest.tail.dropWhile isBlank else rest
  match rest with
  | ['!'] => throw .unclosed
  | '!' :: c :: rest => if c = 's' || c = 'r' || c = 'a' then return rest else throw .conversion
  | rest => return rest

end Format

end DocumentNormalizer
