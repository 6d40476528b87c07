import DocumentNormalizer.Text.Blank
import DocumentNormalizer.Text.Columns

namespace DocumentNormalizer.Wrap

/-- Puts a character before words. A blank before a word belongs to the word in front of it. -/
def prependToWords (c : Char) : List (List Char) → List (List Char)
  | [] => [[c]]
  | word :: others =>
    if Text.isBlank c && !word.head?.any Text.isBlank then [c] :: word :: others
    else (c :: word) :: others

/-- The words of a line with the blanks behind them. Blanks at the start belong to the first word. -/
def words (line : List Char) : List (List Char) :=
  match line.foldr prependToWords [] with
  | first :: second :: others =>
    if first.all Text.isBlank then (first ++ second) :: others else first :: second :: others
  | words => words

/-- Characters that are not parted, and how many columns they take. -/
structure Cluster where
  text : List Char
  width : Nat

/-- The clusters of a text behind the start of one. `last` is the character that can still become wider. -/
def clustersFrom (start : Cluster) (last : Option Char) : List Char → List Cluster
  | [] => [start]
  | '\u200d' :: [] => [{ start with text := start.text ++ ['\u200d'] }]
  | '\u200d' :: c :: rest =>
    clustersFrom { start with text := start.text ++ ['\u200d', c] } last rest
  | '\ufe0f' :: rest =>
    let gain := if last.any (Text.isAmong Text.widenedIntervals) then 1 else 0
    clustersFrom ⟨start.text ++ ['\ufe0f'], start.width + gain⟩ none rest
  | c :: rest =>
    if Text.columns c = 0 then clustersFrom { start with text := start.text ++ [c] } last rest
    else start :: clustersFrom ⟨[c], Text.columns c⟩ (some c) rest

def clusters : List Char → List Cluster
  | [] => []
  | c :: rest =>
    clustersFrom ⟨[c], Text.columns c⟩ (if Text.columns c = 0 then none else some c) rest

/-- Cuts clusters where a line is full. `line` is what is on the line so far, the last character first. -/
def cut (limit : Nat) (line : List Char) (used : Nat) : List Cluster → List (List Char)
  | [] => [line.reverse]
  | cluster :: rest =>
    if limit < used + cluster.width then
      line.reverse :: cut limit cluster.text.reverse cluster.width rest
    else cut limit (cluster.text.reverse ++ line) (used + cluster.width) rest

/-- Breaks words into lines, behind what is on the first line already. -/
def breakWords (limit : Nat) (line : List Char) (used : Nat) :
    List (List Char) → List (List Char)
  | [] => [line]
  | word :: rest =>
    let size := Text.width (Text.trimRight word)
    if used + size ≤ limit then breakWords limit (line ++ word) (used + Text.width word) rest
    else
      let pieces := if size ≤ limit then [word] else cut limit [] 0 (clusters word)
      let full :=
        -- Nothing is in front of the first word, not even an empty line.
        if line.isEmpty then pieces.dropLast.dropWhile List.isEmpty else line :: pieces.dropLast
      let last := pieces.getLastD []
      full ++ breakWords limit last (Text.width last) rest

/-- A line without blanks at its end that make it longer, in characters, than there are columns. -/
def trimmed (limit : Nat) (line : List Char) : List Char :=
  let blanks := (line.reverse.takeWhile Text.isBlank).length
  line.take (line.length - min blanks (line.length - limit))

/-- The clusters that have room in some columns. A blank stands for half of one. -/
def crop (room : Nat) : List Cluster → List Char
  | [] => []
  | cluster :: rest =>
    if cluster.width ≤ room then cluster.text ++ crop (room - cluster.width) rest
    else List.replicate room ' '

def fitted (limit : Nat) (line : List Char) : List Char :=
  let kept := trimmed limit line
  if Text.width kept ≤ limit then kept else crop limit (clusters kept)

def lines (limit : Nat) (line : List Char) : List (List Char) :=
  (breakWords limit [] 0 (words line)).map (fitted limit)

end DocumentNormalizer.Wrap
