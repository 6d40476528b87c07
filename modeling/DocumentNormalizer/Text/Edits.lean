namespace DocumentNormalizer.Text

/-- The numbers of edits that lead from a start of one word, which ends with `c`, to the starts of another.
`row` holds these numbers for the start without `c`, and `above` for the one without the two characters at
the end. `left` is the number for the empty start, and `last` is what stands before `c`, as `before` stands
before the rest of the other word. -/
def editRow (c : Char) (last : Option Char) (left : Nat) (before : Option Char) :
    List Char → (row above : List Nat) → List Nat
  | d :: rest, diagonal :: up :: row, above =>
    let plain := min (min up left + 1) (diagonal + if c = d then 0 else 1)
    let swaps := before = some c && last = some d
    let cell := if swaps then min plain (above.headD 0 + 1) else plain
    cell :: editRow c last cell (some d) rest (up :: row) (if before.isSome then above.tail else above)
  | _, _, _ => []

/-- The numbers of edits to all starts of a word, from one that grows by the characters of a list. -/
def editRows (word : List Char) (last : Option Char) (row above : List Nat) : List Char → List Nat
  | [] => row
  | c :: rest =>
    let left := row.headD 0 + 1
    editRows word (some c) (left :: editRow c last left none word row above) row rest

/-- How many edits lead from one word to another. -/
def edits (left right : List Char) : Nat :=
  (editRows right none (List.range (right.length + 1)) [] left).getLastD 0

/-- How many edits lead from one word to another, where all changes between small and capital letters
together are one edit if there is no other. -/
def wordEdits (left right : String) : Nat :=
  let small (word : String) : List Char := word.toList.map Char.toLower
  if left = right then 0
  else if small left = small right then 1
  else edits (small left) (small right)

/-- A word in parts, of which the first, the third and so on are without digits. -/
def numberParts (inDigits : Bool) : List Char → List (List Char)
  | [] => [[]]
  | c :: rest =>
    if c.isDigit = inDigits then
      match numberParts inDigits rest with
      | part :: parts => (c :: part) :: parts
      | [] => [[c]]
    else
      match numberParts (!inDigits) rest with
      | part :: parts => [] :: (c :: part) :: parts
      | [] => [[], [c]]

/-- Compares parts of words, the ones with digits as numbers first. -/
def compareParts (inDigits : Bool) : List (List Char) → List (List Char) → Ordering
  | [], [] => .eq
  | [], _ :: _ => .lt
  | _ :: _, [] => .gt
  | left :: lefts, right :: rights =>
    let number (part : List Char) : Nat := (String.ofList part).toNat?.getD 0
    let numbers := if inDigits then compare (number left) (number right) else .eq
    (numbers.then (compare (String.ofList left) (String.ofList right))).then
      (compareParts (!inDigits) lefts rights)

/-- Compares words so that numbers in them count as such. -/
def compareNatural (left right : String) : Ordering :=
  compareParts false (numberParts false left.toList) (numberParts false right.toList)

/-- The words that may have been meant, with as few edits as possible first. Two fifths of the characters of
a word may be edited, and one more. -/
def nearWords (word : String) (words : List String) : List String :=
  let limit := 2 * word.length / 5 + 1
  let near := (words.eraseDups.map fun other => (other, wordEdits word other)).filter (·.2 ≤ limit)
  let sorted := near.mergeSort fun (left, few) (right, many) =>
    ((compare few many).then (compareNatural left right)).isLE
  sorted.map (·.1)

end DocumentNormalizer.Text
