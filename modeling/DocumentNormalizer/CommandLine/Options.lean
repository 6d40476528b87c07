import DocumentNormalizer.Text.Lines
import DocumentNormalizer.Text.Similarity

namespace DocumentNormalizer

/-- What an option is written with: its long name, and a short name if it takes a value and has one. -/
inductive OptionForm where
  | flag
  | valued (short : Option Char)

structure OptionSpec (α : Type) where
  option : α
  long : String
  form : OptionForm

/-- Why words are not options of a command. -/
inductive OptionFault where
  | unknown (name : String) (similar : List String)
  | missingValue (name : String)
  | unwantedValue (name : String)

/-- What a word is to a command: not an option, an option with all that it needs, or one whose value is
the next word. -/
inductive OptionWord (α : Type) where
  | plain
  | complete (option : α) (value : String)
  | pending (option : α) (name : String)

/-- The options among some words, with their values, and the other words. Flags have an empty
value. -/
structure SortedWords (α : Type) where
  options : List (α × String)
  words : List String

namespace OptionSpec

variable {α : Type}

def hasShort (letter : Char) (spec : OptionSpec α) : Bool :=
  match spec.form with
  | .flag => false
  | .valued short => short = some letter

/-- The name in front of an equals sign, and the value behind it. -/
def splitValue (word : String) : String × Option String :=
  match Text.splitAt '=' word with
  | name :: part :: parts => (name, some ("=".intercalate (part :: parts)))
  | _ => (word, none)

def readLong (spec : OptionSpec α) (value : Option String) : Except OptionFault (OptionWord α) :=
  match spec.form, value with
  | .flag, none => .ok (.complete spec.option "")
  | .flag, some _ => .error (.unwantedValue spec.long)
  | .valued _, some value => .ok (.complete spec.option value)
  | .valued _, none => .ok (.pending spec.option spec.long)

def readShort (specs : List (OptionSpec α)) (letter : Char) (behind : List Char) :
    Except OptionFault (OptionWord α) :=
  let name := String.ofList ['-', letter]
  match specs.find? (hasShort letter) with
  | none => .error (.unknown name [])
  | some spec =>
    if behind.isEmpty then .ok (.pending spec.option name)
    else .ok (.complete spec.option (String.ofList behind))

/-- What a word is. A single dash is not an option. -/
def readWord (specs : List (OptionSpec α)) (word : String) : Except OptionFault (OptionWord α) :=
  match word.toList with
  | '-' :: letter :: behind =>
    let (name, value) := splitValue word
    match specs.find? (·.long = name) with
    | some spec => readLong spec value
    | none =>
      if letter = '-' then .error (.unknown name (Text.similarWords name (specs.map (·.long))))
      else readShort specs letter behind
  | _ => .ok .plain

def withOption (option : α) (value : String) (sorted : SortedWords α) : SortedWords α :=
  { sorted with options := (option, value) :: sorted.options }

/-- Sorts words into options and others. Unless options may be anywhere, they end at the first word
that is none. -/
def sortWords (specs : List (OptionSpec α)) (anywhere : Bool) :
    List String → Except OptionFault (SortedWords α)
  | [] => .ok ⟨[], []⟩
  | "--" :: rest => .ok ⟨[], rest⟩
  | word :: rest =>
    match readWord specs word with
    | .error fault => .error fault
    | .ok .plain =>
      if anywhere then
        (sortWords specs anywhere rest).map fun sorted =>
          { sorted with words := word :: sorted.words }
      else .ok ⟨[], word :: rest⟩
    | .ok (.complete option value) =>
      (sortWords specs anywhere rest).map (withOption option value)
    | .ok (.pending option name) =>
      match rest with
      | [] => .error (.missingValue name)
      | value :: rest => (sortWords specs anywhere rest).map (withOption option value)

end OptionSpec

end DocumentNormalizer
