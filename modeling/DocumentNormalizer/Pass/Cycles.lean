namespace DocumentNormalizer

abbrev Dependencies := List (String × List String)

namespace Dependencies

/-- What a name depends on, if anything is known about it. -/
def of? (dependencies : Dependencies) (name : String) : Option (List String) :=
  (dependencies.find? (·.1 = name)).map (·.2)

/-- Says anew what a name depends on. A name that is there already keeps its place. -/
def set (dependencies : Dependencies) (name : String) (needed : List String) : Dependencies :=
  if dependencies.any (·.1 = name) then
    dependencies.map fun entry => if entry.1 = name then (name, needed) else entry
  else dependencies ++ [(name, needed)]

/-- The cycles found so far, and the names that were followed to their end. -/
structure Search where
  cycles : List (List String)
  finished : List String

/-- Follows a name that `path` leads to. A name on the path closes a cycle; otherwise the path gets
longer, so `depth` need not exceed the number of names. -/
def follow (dependencies : Dependencies) :
    (depth : Nat) → (path : List String) → String → Search → Search
  | 0, _, _, search => search
  | depth + 1, path, name, search =>
    if path.contains name then
      { search with
        cycles := search.cycles ++ [path.dropWhile (· ≠ name) ++ [name]] }
    else if search.finished.contains name then search
    else
      match dependencies.of? name with
      | none => search
      | some needed =>
        let followed := needed.foldl
          (fun search next => follow dependencies depth (path ++ [name]) next search) search
        { followed with finished := name :: followed.finished }

def cycles (dependencies : Dependencies) : List (List String) :=
  (dependencies.foldl
    (fun search entry => follow dependencies (dependencies.length + 1) [] entry.1 search)
    ⟨[], []⟩).cycles

end Dependencies

end DocumentNormalizer
