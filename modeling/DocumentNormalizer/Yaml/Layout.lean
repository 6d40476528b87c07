import DocumentNormalizer.Text.Digits
import DocumentNormalizer.Yaml.Scalar
import DocumentNormalizer.Yaml.Token

namespace DocumentNormalizer.Yaml

/-- A place where a key may have started. A required one stands where only a key can stand. -/
structure KeyStart where
  tokenCount : Nat
  required : Bool
  mark : Mark

/-- The tokens read so far and what the next ones depend on. `indents` are the columns of open blocks
and `keyStarts` the last place for a key, for each open bracket and outside of all; both have the
innermost first. -/
structure Layout where
  reader : Reader
  tokens : Array Token
  indents : List Nat
  keyStarts : List (Option KeyStart)
  keyAllowed : Bool

def isTagChar (c : Char) : Bool := c.isAlphanum || "-;/?:@&=+$,_.!~*'()[]%".toList.contains c

/-- The bytes of a tag, with percent signs and two digits for those that cannot stand in one. -/
def tagBytes : List Char → Option (List UInt8)
  | [] => some []
  | '%' :: high :: low :: rest => do
    let byte ← Text.ofHexDigits? [high, low]
    return byte.toUInt8 :: (← tagBytes rest)
  | c :: rest => if c = '%' then none else (c.toNat.toUInt8 :: ·) <$> tagBytes rest

def tagText (reader : Reader) : Load (String × Reader) :=
  match reader.span isTagChar with
  | ([], _) => malformed .tagText
  | (run, reader) =>
    match (tagBytes run).bind fun bytes => String.fromUTF8? ⟨bytes.toArray⟩ with
    | some text => .ok (text, reader)
    | none => malformed .tagText

/-- A tag's handle: a word between exclamation marks, or one mark before a blank. -/
def tagHandle (reader : Reader) : Load (String × Reader) :=
  if reader.head? ≠ some '!' then malformed .tagText
  else if reader.second? = some ' ' then .ok ("!", reader.advance 1)
  else
    let (word, reader) := (reader.advance 1).span isWordChar
    if reader.head? = some '!' then .ok ("!" ++ String.ofList word ++ "!", reader.advance 1)
    else malformed .tagText

def scanTag (reader : Reader) : Load (TagText × Reader) := do
  let (tag, reader) ←
    if reader.second? = some '<' then
      let (text, reader) ← tagText (reader.advance 2)
      if reader.head? ≠ some '>' then malformed .tagText
      pure (.full text, reader.advance 1)
    else if endsWord reader.second? then pure (.full "!", reader.advance 1)
    else
      let word := (reader.rest.drop 1).takeWhile fun c => !endsPart (some c)
      let (handle, reader) ←
        if word.contains '!' then tagHandle reader else pure ("!", reader.advance 1)
      let (suffix, reader) ← tagText reader
      pure (.handle handle suffix, reader)
  if !endsPart reader.head? then malformed .tagText
  return (tag, reader)

/-- Characters that may follow the name of an anchor. -/
def endsAnchor (next : Option Char) : Bool :=
  endsWord next || next.any fun c => ['?', ':', ',', ']', '\x7d', '%', '@', '`'].contains c

def anchorName (reader : Reader) : Load (String × Reader) :=
  let (word, reader) := (reader.advance 1).span isWordChar
  if word.isEmpty || !endsAnchor reader.head? then malformed .anchorName
  else .ok (String.ofList word, reader)

def digitRun (reader : Reader) : Load (List Char × Reader) :=
  match reader.span Char.isDigit with
  | ([], _) => malformed .directive
  | (run, reader) =>
    if Text.digitLimit < run.length then unfit (.tooManyDigits run.length) else .ok (run, reader)

def directiveBody (name : String) (reader : Reader) : Load (Directive × Reader) := do
  let blank (c : Char) : Bool := c = ' '
  if name = "YAML" then
    let (major, reader) ← digitRun (reader.skip blank)
    if reader.head? ≠ some '.' then malformed .directive
    let (_, reader) ← digitRun (reader.advance 1)
    if !endsPart reader.head? then malformed .directive
    return (.version ((String.ofList major).toNat?.getD 0), reader)
  else if name = "TAG" then
    let (handle, reader) ← tagHandle (reader.skip blank)
    if reader.head? ≠ some ' ' then malformed .directive
    let (expansion, reader) ← tagText (reader.skip blank)
    if !endsPart reader.head? then malformed .directive
    return (.handle handle expansion, reader)
  else return (.other, reader.skip (!isBreak ·))

def scanDirective (reader : Reader) : Load (Directive × Reader) := do
  let (word, reader) := (reader.advance 1).span isWordChar
  if word.isEmpty || !endsPart reader.head? then malformed .directive
  let (directive, reader) ← directiveBody (String.ofList word) reader
  let reader := reader.skip (· = ' ')
  let reader := if reader.head? = some '#' then reader.skip (!isBreak ·) else reader
  if !endsLine reader.head? then malformed .directive
  return (directive, reader.takeBreak.2)

namespace Layout

/-- Before the first token. A byte order mark in front is passed. -/
def ofText (text : List Char) : Layout :=
  let reader : Reader := ⟨text, ⟨0, 0, 0⟩⟩
  let reader := if text.head? = some '\uFEFF' then reader.advance 1 else reader
  ⟨reader, #[], [], [none], true⟩

def inFlow (layout : Layout) : Bool := layout.keyStarts.length > 1

def column (layout : Layout) : Nat := layout.reader.mark.column

def push (layout : Layout) (token : Token) : Layout :=
  { layout with tokens := layout.tokens.push token }

/-- Puts a token behind the others and passes the characters it is written with. -/
def pushMark (layout : Layout) (token : Token) (width : Nat) : Layout :=
  { layout.push token with reader := layout.reader.advance width }

def dropKeyStart (layout : Layout) : Load Layout :=
  match layout.keyStarts with
  | some start :: others =>
    if start.required then malformed .keyWithoutValue
    else .ok { layout with keyStarts := none :: others }
  | _ => .ok layout

/-- Keeps the text at hand as a place for a key, if a key may stand here. -/
def keepKeyStart (layout : Layout) : Load Layout := do
  if !layout.keyAllowed then return layout
  let layout ← layout.dropKeyStart
  let start : KeyStart :=
    ⟨layout.tokens.size, !layout.inFlow && layout.indents.head? = some layout.column,
      layout.reader.mark⟩
  return { layout with keyStarts := some start :: layout.keyStarts.tail }

/-- Forgets places for keys that are on other lines or too far away. -/
def dropStale (layout : Layout) : Load Layout := do
  let mark := layout.reader.mark
  let keyStarts ← layout.keyStarts.mapM fun
    | some start =>
      if start.mark.line ≠ mark.line || mark.index - start.mark.index > 1024 then
        if start.required then malformed .keyWithoutValue else pure none
      else pure (some start)
    | none => pure none
  return { layout with keyStarts }

/-- Closes the blocks to the right of a column, or all. Brackets keep blocks open. -/
def closeBlocks (layout : Layout) (column : Option Nat) : Layout :=
  if layout.inFlow then layout
  else
    let kept := layout.indents.dropWhile fun indent => column.all (· < indent)
    let ends := List.replicate (layout.indents.length - kept.length) Token.blockEnd
    { layout with indents := kept, tokens := layout.tokens ++ ends.toArray }

def isInner (layout : Layout) (column : Nat) : Bool := layout.indents.head?.all (· < column)

def openBlock (layout : Layout) (token : Token) : Layout :=
  if !layout.inFlow && layout.isInner layout.column then
    { layout.push token with indents := layout.column :: layout.indents }
  else layout

/-- Passes blanks, line ends and comments. Outside of brackets a new line may start with a key. -/
def skipIgnored (outside inComment allowed : Bool) (mark : Mark) : List Char → Bool × Reader
  | [] => (allowed, ⟨[], mark⟩)
  | c :: rest =>
    let next := mark.after c
    if isBreak c then skipIgnored outside false (allowed || outside) next rest
    else if inComment || c = ' ' then skipIgnored outside inComment allowed next rest
    else if c = '#' then skipIgnored outside true allowed next rest
    else (allowed, ⟨c :: rest, mark⟩)

/-- Goes on to the next token and closes what ends before it. -/
def settle (layout : Layout) : Load Layout := do
  let (keyAllowed, reader) :=
    skipIgnored (!layout.inFlow) false layout.keyAllowed layout.reader.mark layout.reader.rest
  let layout ← dropStale { layout with keyAllowed, reader }
  return layout.closeBlocks (some layout.column)

def endBlocks (layout : Layout) : Load Layout := do
  let layout ← (layout.closeBlocks none).dropKeyStart
  return { layout with keyAllowed := false }

def openBracket (layout : Layout) (token : Token) : Load Layout := do
  let layout ← layout.keepKeyStart
  return { layout.pushMark token 1 with
    keyStarts := none :: layout.keyStarts, keyAllowed := true }

def closeBracket (layout : Layout) (token : Token) : Load Layout := do
  let layout ← layout.dropKeyStart
  if !layout.inFlow then malformed .unopened
  return { layout.pushMark token 1 with
    keyStarts := layout.keyStarts.tail, keyAllowed := false }

def comma (layout : Layout) : Load Layout := do
  let layout ← layout.dropKeyStart
  return { layout.pushMark .comma 1 with keyAllowed := true }

def entry (layout : Layout) : Load Layout := do
  if !layout.inFlow && !layout.keyAllowed then malformed .misplacedEntry
  let layout ← (layout.openBlock .blockSequence).dropKeyStart
  return { layout.pushMark .entry 1 with keyAllowed := true }

def key (layout : Layout) : Load Layout := do
  if !layout.inFlow && !layout.keyAllowed then malformed .misplacedKey
  let layout ← (layout.openBlock .blockMapping).dropKeyStart
  return { layout.pushMark .key 1 with keyAllowed := !layout.inFlow }

/-- The colon of a value. What stands at the last place for a key is its key. -/
def value (layout : Layout) : Load Layout := do
  match layout.keyStarts with
  | some start :: others =>
    let tokens := layout.tokens.insertIdxIfInBounds start.tokenCount .key
    let column := start.mark.column
    let layout :=
      if !layout.inFlow && layout.isInner column then
        { layout with
          tokens := tokens.insertIdxIfInBounds start.tokenCount .blockMapping
          indents := column :: layout.indents }
      else { layout with tokens }
    return { layout.pushMark .value 1 with keyStarts := none :: others, keyAllowed := false }
  | _ =>
    if !layout.inFlow && !layout.keyAllowed then malformed .misplacedValue
    let layout := layout.openBlock .blockMapping
    return { layout.pushMark .value 1 with keyAllowed := !layout.inFlow }

def atom (layout : Layout) (scan : Reader → Load (Token × Reader)) : Load Layout := do
  let layout ← layout.keepKeyStart
  let (token, reader) ← scan layout.reader
  return { layout.push token with reader, keyAllowed := false }

def quoted (layout : Layout) (double : Bool) : Load Layout :=
  layout.atom fun reader => do
    let reader := reader.advance 1
    let (text, reader) ← Scalar.quoted double (reader.rest.length + 1) reader
    return (.scalar text false, reader)

def plain (layout : Layout) : Load Layout := do
  let layout ← layout.keepKeyStart
  let reader := layout.reader
  let (text, keyAllowed, reader) :=
    Scalar.plain layout.inFlow layout.indents.head? (reader.rest.length + 1) reader
  return { layout.push (.scalar (Text.points text) true) with reader, keyAllowed }

def block (layout : Layout) (fold : Bool) : Load Layout := do
  let layout ← layout.dropKeyStart
  let (text, reader) ← Scalar.block fold layout.indents.head? (layout.reader.advance 1)
  return { layout.push (.scalar (Text.points text) false) with reader, keyAllowed := true }

/-- Characters that no plain scalar starts with, or only before a further character of it. -/
def isIndicator (c : Char) : Bool :=
  endsWord (some c) ||
    ['-', '?', ':', ',', '[', ']', '\x7b', '\x7d', '#', '&', '*', '!', '|', '>', '\'', '"', '%',
      '@', '`'].contains c

def startsPlain (layout : Layout) (c : Char) : Bool :=
  !isIndicator c ||
    (!endsWord layout.reader.second? &&
      (c = '-' || (!layout.inFlow && (c = '?' || c = ':'))))

def next (layout : Layout) (c : Char) : Load Layout := do
  let reader := layout.reader
  let atLineStart := layout.column = 0
  let aside := endsWord reader.second?
  if c = '%' && atLineStart then
    let layout ← layout.endBlocks
    let (directive, reader) ← scanDirective reader
    return { layout.push (.directive directive) with reader }
  else if atLineStart && startsDocument reader.rest then
    return (← layout.endBlocks).pushMark (if c = '-' then .documentStart else .documentEnd) 3
  else if c = '[' then layout.openBracket .openSequence
  else if c = '\x7b' then layout.openBracket .openMapping
  else if c = ']' then layout.closeBracket .closeSequence
  else if c = '\x7d' then layout.closeBracket .closeMapping
  else if c = ',' then layout.comma
  else if c = '-' && aside then layout.entry
  else if c = '?' && (layout.inFlow || aside) then layout.key
  else if c = ':' && (layout.inFlow || aside) then layout.value
  else if c = '*' then
    layout.atom fun reader => (anchorName reader).map fun (name, reader) => (.reference name, reader)
  else if c = '&' then
    layout.atom fun reader => (anchorName reader).map fun (name, reader) => (.anchor name, reader)
  else if c = '!' then
    layout.atom fun reader => (scanTag reader).map fun (tag, reader) => (.tag tag, reader)
  else if c = '|' && !layout.inFlow then layout.block false
  else if c = '>' && !layout.inFlow then layout.block true
  else if c = '\'' then layout.quoted false
  else if c = '"' then layout.quoted true
  else if layout.startsPlain c then layout.plain
  else malformed (.strayCharacter c)

/-- Reads the next token, or ends all blocks where the text ends. Also tells whether it goes on. -/
def step (layout : Layout) : Load (Bool × Layout) := do
  let layout ← layout.settle
  match layout.reader.head? with
  | none => return (false, ← layout.endBlocks)
  | some c => return (true, ← layout.next c)

/-- How many tokens are sure to stand where they are. Behind a place where a key may have started, they
are not. -/
def settled (layout : Layout) : Nat :=
  ((layout.keyStarts.filterMap id).map (·.tokenCount)).foldl min layout.tokens.size

end Layout

/-- The tokens of a text, and what is wrong behind them. -/
structure TokenStream where
  tokens : List Token
  stop : Option LoadFault

/-- The tokens from the first on. A token is only read when the one before it has been taken or may be a
key, so what is wrong with a text does not come before all that is wrong with the tokens. Each token takes
a character, so the length of the text is a sufficient bound. -/
def TokenStream.ofLayout (layout : Layout) : Nat → TokenStream
  | 0 => ⟨layout.tokens.toList, none⟩
  | bound + 1 =>
    match layout.dropStale with
    | .error fault => ⟨layout.tokens.toList, some fault⟩
    | .ok layout =>
      match layout.step with
      | .error fault => ⟨layout.tokens.toList.take layout.settled, some fault⟩
      | .ok (true, layout) => ofLayout layout bound
      | .ok (false, layout) => ⟨layout.tokens.toList, none⟩

def TokenStream.ofText (text : List Char) : TokenStream :=
  match text.find? (!isAllowed ·) with
  | some c => ⟨[], some (.malformed (.forbiddenCharacter c))⟩
  | none => ofLayout (.ofText text) (text.length + 1)

end DocumentNormalizer.Yaml
