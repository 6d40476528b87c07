import DocumentNormalizer.Console.Handler
import DocumentNormalizer.Console.Pictograph
import DocumentNormalizer.Console.Style

namespace DocumentNormalizer

/-- A piece of marked-up text: a character, an opening bracket that starts no tag, or a tag, the two
with the number of backslashes before them. -/
inductive MarkupPiece where
  | character (c : Char)
  | bracket (backslashes : Nat)
  | tag (backslashes : Nat) (body : List Char)

structure OpenTag where
  name : String
  parameters : String

/-- Why marked-up text cannot be shown. The place is that of the tag's bracket. -/
inductive MarkupFault where
  | nothingToClose (place : Nat)
  | notOpen (tag : String) (place : Nat)
  | handler (fault : HandlerFault)
  | missingNumber

def MarkupFault.message : MarkupFault → String
  | .nothingToClose place =>
    "closing tag '[/]' at position " ++ toString place ++ " has nothing to close"
  | .notOpen tag place =>
    "closing tag '[" ++ tag ++ "]' at position " ++ toString place ++
      " doesn't match any open tag"
  | .handler fault => fault.message
  | .missingNumber => "invalid literal for int() with base 10: ''"

namespace Markup

def isTagStart (c : Char) : Bool := c.isLower || c = '#' || c = '/' || c = '@'

/-- What stands in a tag, given what follows its bracket. -/
def tagBody? (rest : List Char) : Option (List Char) :=
  let body := rest.takeWhile fun c => c ≠ '[' && c ≠ ']'
  if body.head?.any isTagStart && rest[body.length]? = some ']' then some body else none

/-- Takes a text apart. `pending` backslashes have been passed directly before it. -/
def pieces (pending : Nat) : List Char → List MarkupPiece
  | [] => List.replicate pending (.character '\\')
  | c :: rest =>
    if c = '\\' then pieces (pending + 1) rest
    else if c = '[' then
      match tagBody? rest with
      | some body => .tag pending body :: pieces 0 (rest.drop (body.length + 1))
      | none => .bracket pending :: pieces 0 rest
    else List.replicate pending (.character '\\') ++ .character c :: pieces 0 rest
termination_by text => text.length
decreasing_by all_goals simp only [List.length_cons, List.length_drop]; omega

def slashes (count : Nat) : List Char := List.replicate count '\\'

def protectPiece : MarkupPiece → List Char
  | .character c => [c]
  | .bracket backslashes => slashes backslashes ++ ['[']
  | .tag backslashes body => slashes (2 * backslashes + 1) ++ '[' :: body ++ [']']

/-- Doubles a backslash that stands alone at the end of a text. -/
def protectEnd (text : List Char) : List Char :=
  match text.reverse with
  | '\\' :: '\\' :: _ => text
  | '\\' :: _ => text ++ ['\\']
  | _ => text

/-- Writes a text so that none of it is taken for a tag. -/
def escape (text : String) : String :=
  String.ofList (protectEnd ((pieces 0 text.toList).flatMap protectPiece))

def width : MarkupPiece → Nat
  | .character _ => 1
  | .bracket backslashes => backslashes + 1
  | .tag backslashes body => backslashes + body.length + 2

/-- The normal form of a style that a tag names. -/
def styleName (name : List Char) : Except MarkupFault String :=
  (Style.normalize name).mapError fun _ => .missingNumber

def openTag (body : List Char) : Except MarkupFault OpenTag := do
  let name := body.takeWhile (· ≠ '=')
  return ⟨← styleName name, String.ofList (body.drop (name.length + 1))⟩

def checkHandler (tag : OpenTag) : Except MarkupFault Unit :=
  if tag.name.startsWith "@" && !tag.parameters.isEmpty then
    (Handler.check tag.parameters).mapError .handler
  else return

def checkStyle (tag : OpenTag) : Except MarkupFault Unit := do
  if !tag.name.startsWith "@" then
    let _ ← styleName (tag.name ++ " " ++ tag.parameters).toList

/-- Closes the tag that a closing one names, or the last one when it names none. -/
def close (closing : List Char) (place : Nat) (tags : List OpenTag) :
    Except MarkupFault (List OpenTag) := do
  let name := Text.trim (closing.takeWhile (· ≠ '='))
  if name.isEmpty then
    match tags with
    | [] => throw (.nothingToClose place)
    | tag :: others =>
      checkHandler tag
      return others
  else
    let name ← styleName name
    match tags.find? (·.name = name) with
    | none => throw (.notOpen (String.ofList ('/' :: closing)) place)
    | some tag =>
      checkHandler tag
      return tags.eraseP (·.name = name)

/-- What pieces show without their styles. `tags` are open and `held` is what stands before the pieces and
behind a tag, both with the last one first. Styles are checked once all tags are read. -/
def showPieces (place : Nat) (tags : List OpenTag) (held : List Char) :
    List MarkupPiece → Except MarkupFault (List Char)
  | [] => return Pictograph.expand held.reverse
  | piece :: rest =>
    let next := place + width piece
    match piece with
    | .character c => showPieces next tags (c :: held) rest
    | .bracket backslashes =>
      showPieces next tags ('[' :: slashes (backslashes - 1) ++ held) rest
    | .tag backslashes body => do
      let before := Pictograph.expand held.reverse ++ slashes (backslashes / 2)
      if backslashes % 2 = 1 then
        let shown := Pictograph.expand ('[' :: body ++ [']'])
        return before ++ shown ++ (← showPieces next tags [] rest)
      else
        match body with
        | '/' :: closing =>
          let tags ← close closing (place + backslashes) tags
          return before ++ (← showPieces next tags [] rest)
        | _ =>
          let tag ← openTag body
          let shown ← showPieces next (tag :: tags) [] rest
          checkStyle tag
          return before ++ shown

def plain (text : String) : Except MarkupFault String :=
  String.ofList <$> showPieces 0 [] [] (pieces 0 text.toList)

end Markup

end DocumentNormalizer
