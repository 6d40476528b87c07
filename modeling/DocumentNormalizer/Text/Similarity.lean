namespace DocumentNormalizer.Text

/-- How many characters two texts have in common at their start. -/
def commonStart : List Char → List Char → Nat
  | c :: rest, d :: rest' => if c = d then commonStart rest rest' + 1 else 0
  | _, _ => 0

/-- A run of characters that two texts share, and where it is in each. -/
structure SharedRun where
  first : Nat
  second : Nat
  length : Nat

/-- The longest run that two texts share; of several, the first one. -/
def longestRun (left right : List Char) : SharedRun :=
  let runs := (List.range left.length).flatMap fun first =>
    (List.range right.length).map fun second =>
      SharedRun.mk first second (commonStart (left.drop first) (right.drop second))
  runs.foldl (fun best run => if best.length < run.length then run else best) ⟨0, 0, 0⟩

/-- How many characters two texts share in longest runs. The length of a text is a sufficient bound. -/
def sharedCount : (bound : Nat) → List Char → List Char → Nat
  | 0, _, _ => 0
  | bound + 1, left, right =>
    let run := longestRun left right
    if run.length = 0 then 0
    else
      sharedCount bound (left.take run.first) (right.take run.second) + run.length +
        sharedCount bound (left.drop (run.first + run.length))
          (right.drop (run.second + run.length))

/-- Shared characters of two words and characters of both. -/
def likeness (left right : String) : Nat × Nat :=
  (sharedCount left.length left.toList right.toList, left.length + right.length)

/-- Whether shared characters make up three fifths of two words. -/
def isAlike (likeness : Nat × Nat) : Bool := 3 * likeness.2 ≤ 10 * likeness.1

/-- The words that are like a word: the best three at most, in order. -/
def similarWords (word : String) (words : List String) : List String :=
  let scored := (words.map fun other => (other, likeness other word)).filter (isAlike ·.2)
  let best := scored.mergeSort fun (a, x, n) (b, y, m) =>
    decide (y * n < x * m) || (x * m = y * n && decide (b ≤ a))
  ((best.take 3).map (·.1)).mergeSort fun a b => decide (a ≤ b)

end DocumentNormalizer.Text
