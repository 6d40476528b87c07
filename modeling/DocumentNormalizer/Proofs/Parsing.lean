import DocumentNormalizer.Language.Source
import DocumentNormalizer.Proofs.Lexing
import DocumentNormalizer.Proofs.Unplaced

namespace DocumentNormalizer

namespace Parser

/-- On the same tokens, what one parser reads is related to what the other one reads. -/
structure Tracks {α : Type} (R : α → α → Prop) (parser other : Parser α) : Prop where
  run : ∀ {tokens twins : Tokens} {found : α} {rest : Tokens}, tokens.Alike twins →
    parser tokens = .ok (found, rest) →
      ∃ twin further, other twins = .ok (twin, further) ∧ R found twin ∧ rest.Alike further

/-- The same word of a text, at one place or another. -/
structure SameToken (token twin : Token) : Prop where
  lexeme : twin.lexeme = token.lexeme
  proper : ∀ text, token.lexeme = .name text → Lexer.IsName text

def Same {α β : Type} (unplaced : α → β) (found twin : α) : Prop := unplaced found = unplaced twin

theorem bind_of_ok {α β : Type} {parser : Parser α} {f : α → Parser β} {tokens rest : Tokens}
    {found : α} (read : parser tokens = .ok (found, rest)) :
    (parser >>= f) tokens = f found rest := by
  simp only [Bind.bind, StateT.bind, read, Except.bind]

section Steps

variable {α β : Type} {R : α → α → Prop} {S : β → β → Prop} {parser other : Parser α}

theorem Tracks.pure {found twin : α} (related : R found twin) :
    Tracks R (pure found) (pure twin) := by
  constructor
  intro tokens twins _ _ alike read
  cases read
  exact ⟨twin, twins, rfl, related, alike⟩

theorem Tracks.throw (error : SyntaxError) (other : Parser α) : Tracks R (throw error) other := by
  constructor
  intro tokens twins _ _ _ read
  cases read

theorem Tracks.bind {f g : α → Parser β} (h : Tracks R parser other)
    (each : ∀ {found twin}, R found twin → Tracks S (f found) (g twin)) :
    Tracks S (parser >>= f) (other >>= g) := by
  constructor
  intro tokens twins found rest alike read
  obtain ⟨⟨first, middle⟩, here, there⟩ := exists_of_bind_eq_ok read
  obtain ⟨twin, between, same, related, further⟩ := h.run alike here
  obtain ⟨last, behind, done, fits, aligned⟩ := (each related).run further there
  exact ⟨last, behind, (bind_of_ok same).trans done, fits, aligned⟩

theorem Tracks.mono {T : α → α → Prop} (h : Tracks R parser other)
    (each : ∀ {found twin}, R found twin → T found twin) : Tracks T parser other := by
  constructor
  intro tokens twins found rest alike read
  obtain ⟨twin, further, same, related, aligned⟩ := h.run alike read
  exact ⟨twin, further, same, each related, aligned⟩

theorem Tracks.map {f : α → β} (h : Tracks R parser other)
    (each : ∀ {found twin}, R found twin → S (f found) (f twin)) :
    Tracks S (f <$> parser) (f <$> other) :=
  h.bind fun related => .pure (each related)

theorem Tracks.ite {c : Prop} [Decidable c] {p q p' q' : Parser α} (yes : c → Tracks R p q)
    (no : ¬c → Tracks R p' q') : Tracks R (if c then p else p') (if c then q else q') := by
  split
  · next holds => exact yes holds
  · next fails => exact no fails

end Steps

theorem sameToken_of_alike {token twin : Token} (alike : Lexer.Alike token.lexeme twin.lexeme)
    (sound : ∀ cause, token.lexeme ≠ .fault cause) : SameToken token twin := by
  obtain ⟨lexeme, position⟩ := token
  obtain ⟨other, place⟩ := twin
  cases alike with
  | same proper => exact ⟨rfl, proper⟩
  | fault cause other => exact absurd rfl (sound cause)

def look (token : Token) : Parser Token :=
  match token.lexeme with
  | .fault cause => throw ⟨.lexical cause, token.position⟩
  | _ => return token

theorem look_eq_ok {token found : Token} {tokens rest : Tokens} :
    look token tokens = .ok (found, rest) ↔
      (∀ cause, token.lexeme ≠ .fault cause) ∧ found = token ∧ rest = tokens := by
  obtain ⟨lexeme, position⟩ := token
  cases lexeme with
  | fault cause =>
    constructor
    · intro read
      cases read
    · rintro ⟨sound, _⟩
      exact absurd rfl (sound cause)
  | _ =>
    constructor
    · intro read
      cases read
      exact ⟨fun _ impossible => (nomatch impossible), rfl, rfl⟩
    · rintro ⟨_, rfl, rfl⟩
      rfl

theorem tracks_look {token twin : Token} (alike : Lexer.Alike token.lexeme twin.lexeme) :
    Tracks SameToken (look token) (look twin) := by
  constructor
  intro tokens twins found rest aligned read
  obtain ⟨sound, rfl, rfl⟩ := look_eq_ok.1 read
  have same := sameToken_of_alike alike sound
  refine ⟨twin, twins, look_eq_ok.2 ⟨fun cause => ?_, rfl, rfl⟩, same, aligned⟩
  rw [same.lexeme]
  exact sound cause

theorem tracks_current : Tracks SameToken current current := by
  constructor
  intro tokens twins token rest alike read
  exact (tracks_look alike.current).run alike read

theorem tracks_lookahead : Tracks SameToken lookahead lookahead := by
  constructor
  intro tokens twins token rest alike read
  obtain ⟨here, following⟩ := tokens
  obtain ⟨there, behind⟩ := twins
  have all := alike.following
  cases all with
  | nil => exact tracks_current.run alike read
  | cons first others => exact (tracks_look first).run alike read

theorem tracks_advance : Tracks Eq advance advance := by
  constructor
  intro tokens twins _ rest alike read
  obtain ⟨here, following⟩ := tokens
  obtain ⟨there, behind⟩ := twins
  cases read
  refine ⟨(), _, rfl, rfl, ?_⟩
  cases alike.following with
  | nil => exact alike
  | cons first others => exact ⟨first, others⟩

theorem tracks_remaining : Tracks Eq remaining remaining := by
  constructor
  intro tokens twins _ rest alike read
  cases read
  exact ⟨_, twins, rfl, congrArg (· + 1) alike.following.length_eq, alike⟩

theorem SameToken.isMark {token twin : Token} (same : SameToken token twin) (mark : Punctuator) :
    isMark mark twin = isMark mark token := by
  rw [Parser.isMark, same.lexeme, Parser.isMark]

theorem SameToken.isName {token twin : Token} (same : SameToken token twin) :
    isName twin = isName token := by
  rw [Parser.isName, same.lexeme, Parser.isName]

theorem SameToken.isKeyword {token twin : Token} (same : SameToken token twin) (word : String) :
    isKeyword word twin = isKeyword word token := by
  rw [Parser.isKeyword, same.lexeme, Parser.isKeyword]

theorem tracks_peek (mark : Punctuator) : Tracks Eq (peek mark) (peek mark) :=
  tracks_current.bind fun same => .pure (same.isMark mark).symm

theorem tracks_expect (mark : Punctuator) : Tracks SameToken (expect mark) (expect mark) := by
  refine tracks_current.bind fun {token twin} same => ?_
  rw [same.isMark]
  refine .ite (fun _ => ?_) fun _ => .throw _ _
  exact tracks_advance.bind fun _ => .pure same

theorem tracks_accept (mark : Punctuator) : Tracks Eq (accept mark) (accept mark) := by
  refine (tracks_peek mark).bind ?_
  rintro found _ rfl
  exact .ite (fun _ => tracks_advance.bind fun _ => .pure rfl) fun _ => .pure rfl

def SameName (found twin : String) : Prop := found = twin ∧ Lexer.IsName found

theorem tracks_name : Tracks SameName name name := by
  refine tracks_current.bind fun {token twin} same => ?_
  obtain ⟨lexeme, position⟩ := token
  obtain ⟨other, place⟩ := twin
  cases same.lexeme
  cases lexeme with
  | name text => exact tracks_advance.bind fun _ => .pure ⟨rfl, same.proper text rfl⟩
  | _ => exact .throw _ _

theorem tracks_nameFor {α : Type} (meaning : String → Option α) :
    Tracks Eq (nameFor meaning) (nameFor meaning) := by
  refine tracks_current.bind fun {token twin} _ => tracks_name.bind ?_
  rintro text _ ⟨rfl, _⟩
  cases meaning text with
  | some found => exact .pure rfl
  | none => exact tracks_current.bind fun _ => .throw _ _

theorem tracks_expectKeyword (word : String) :
    Tracks Eq (expectKeyword word) (expectKeyword word) := by
  refine tracks_current.bind fun {token twin} same => ?_
  rw [same.isKeyword]
  exact .ite (fun _ => tracks_advance) fun _ => .throw _ _

theorem tracks_acceptKeyword (word : String) :
    Tracks Eq (acceptKeyword word) (acceptKeyword word) := by
  refine tracks_current.bind fun {token twin} same => ?_
  rw [same.isKeyword]
  exact .ite (fun _ => tracks_advance.bind fun _ => .pure rfl) fun _ => .pure rfl

section Items

variable {α : Type} {R : α → α → Prop} {item : Parser α}

theorem tracks_itemsUntil (each : Tracks R item item) (closing : Punctuator) (rounds : Nat) :
    Tracks (List.Forall₂ R) (itemsUntil item closing rounds) (itemsUntil item closing rounds) := by
  induction rounds with
  | zero => exact tracks_current.bind fun _ => .throw _ _
  | succ rounds ih =>
    refine (tracks_accept closing).bind ?_
    rintro closed _ rfl
    refine .ite (fun _ => .pure .nil) fun _ => ?_
    exact each.bind fun first => ih.bind fun rest => .pure (.cons first rest)

theorem tracks_enclosed (each : Tracks R item item) (opening closing : Punctuator) :
    Tracks (List.Forall₂ R) (enclosed opening item closing) (enclosed opening item closing) := by
  refine (tracks_expect opening).bind fun _ => tracks_remaining.bind ?_
  rintro rounds _ rfl
  exact tracks_itemsUntil each closing rounds

theorem tracks_enclosedSome (each : Tracks R item item) (opening closing : Punctuator) :
    Tracks (List.Forall₂ R) (enclosedSome opening item closing)
      (enclosedSome opening item closing) := by
  refine (tracks_expect opening).bind fun _ => each.bind fun first => tracks_remaining.bind ?_
  rintro rounds _ rfl
  exact (tracks_itemsUntil each closing rounds).bind fun rest => .pure (.cons first rest)

theorem tracks_enclosedIfOpen (each : Tracks R item item) (opening closing : Punctuator) :
    Tracks (List.Forall₂ R) (enclosedIfOpen opening item closing)
      (enclosedIfOpen opening item closing) := by
  refine (tracks_peek opening).bind ?_
  rintro isOpen _ rfl
  exact .ite (fun _ => tracks_enclosedSome each opening closing) fun _ => .pure .nil

end Items

theorem tracks_description : Tracks Eq description description := by
  refine tracks_current.bind fun {token twin} same => ?_
  rw [same.lexeme]
  cases token.lexeme with
  | string text block => exact tracks_advance.bind fun _ => .pure rfl
  | _ => exact .pure rfl

theorem tracks_typeReference (depth : Nat) :
    Tracks Eq (typeReference depth) (typeReference depth) := by
  have finish (type : TypeReference) : Tracks Eq
      (do if ← accept .bang then return type.nonNull else return type)
      (do if ← accept .bang then return type.nonNull else return type) := by
    refine (tracks_accept .bang).bind ?_
    rintro required _ rfl
    exact .ite (fun _ => .pure rfl) fun _ => .pure rfl
  induction depth with
  | zero => exact tracks_current.bind fun _ => .throw _ _
  | succ depth ih =>
    refine (tracks_accept .bracketOpen).bind ?_
    rintro isList _ rfl
    refine .ite (fun _ => ?_) fun _ => ?_
    · refine ih.bind ?_
      rintro item _ rfl
      exact (tracks_expect .bracketClose).bind fun _ => finish (.list item)
    · refine (tracks_name.map fun same => congrArg TypeReference.named same.1).bind ?_
      rintro type _ rfl
      exact finish type

theorem eq_of_forall₂_eq {α : Type} {found twin : List α} (same : List.Forall₂ Eq found twin) :
    found = twin := by
  rwa [List.forall₂_eq_eq_eq] at same

theorem tracks_value (constant : Bool) (depth : Nat) :
    Tracks Eq (value constant depth) (value constant depth) := by
  induction depth with
  | zero => exact tracks_current.bind fun _ => .throw _ _
  | succ depth ih =>
    refine tracks_current.bind fun {token twin} same => ?_
    rw [same.lexeme]
    cases token.lexeme with
    | punctuator mark =>
      cases mark with
      | bracketOpen =>
        refine (tracks_enclosed ih .bracketOpen .bracketClose).bind fun items => .pure ?_
        rw [eq_of_forall₂_eq items]
      | braceOpen =>
        refine (tracks_enclosed (R := Eq) ?_ .braceOpen .braceClose).bind
          fun entries => .pure ?_
        · refine tracks_name.bind ?_
          rintro key _ ⟨rfl, _⟩
          refine (tracks_expect .colon).bind fun _ => ih.bind ?_
          rintro item _ rfl
          exact .pure rfl
        · rw [eq_of_forall₂_eq entries]
      | dollar =>
        refine tracks_advance.bind fun _ => .ite (fun _ => ?_) fun _ => ?_
        · refine tracks_current.bind fun {next other} same => ?_
          cases next.lexeme with
          | name text => exact .throw _ _
          | _ => exact .throw _ _
        · exact tracks_name.bind fun same => .pure (congrArg Value.variable same.1)
      | _ => exact .throw _ _
    | int text => exact tracks_advance.bind fun _ => .pure rfl
    | float text => exact tracks_advance.bind fun _ => .pure rfl
    | string text block => exact tracks_advance.bind fun _ => .pure rfl
    | name text => exact tracks_advance.bind fun _ => .pure rfl
    | _ => exact .throw _ _

theorem tracks_argument (constant : Bool) (depth : Nat) :
    Tracks (Same Argument.unplaced) (argument constant depth) (argument constant depth) := by
  refine tracks_name.bind ?_
  rintro name _ ⟨rfl, _⟩
  refine (tracks_expect .colon).bind fun _ => tracks_current.bind fun _ => ?_
  refine (tracks_value constant depth).bind ?_
  rintro value _ rfl
  exact .pure rfl

theorem same_map {α β : Type} {f : α → β} {found twin : List α}
    (same : List.Forall₂ (Same f) found twin) : Same (List.map f) found twin := by
  induction same with
  | nil => rfl
  | cons first _ ih => exact List.cons_eq_cons.2 ⟨first, ih⟩

theorem tracks_arguments (constant : Bool) (depth : Nat) :
    Tracks (Same (List.map Argument.unplaced)) (arguments constant depth)
      (arguments constant depth) :=
  (tracks_enclosedIfOpen (tracks_argument constant depth) .parenOpen .parenClose).mono same_map

theorem tracks_directivesUpTo (constant : Bool) (depth rounds : Nat) :
    Tracks (Same (List.map Directive.unplaced)) (directivesUpTo constant depth rounds)
      (directivesUpTo constant depth rounds) := by
  induction rounds with
  | zero => exact .pure rfl
  | succ rounds ih =>
    refine tracks_current.bind fun _ => (tracks_accept .atSign).bind ?_
    rintro used _ rfl
    refine .ite (fun _ => ?_) fun _ => .pure rfl
    refine tracks_name.bind ?_
    rintro name _ ⟨rfl, _⟩
    refine (tracks_arguments constant depth).bind fun given => ih.bind fun rest => .pure ?_
    refine List.cons_eq_cons.2 ⟨?_, rest⟩
    rw [Directive.unplaced, Directive.unplaced, given]

theorem tracks_directives (constant : Bool) (depth : Nat) :
    Tracks (Same (List.map Directive.unplaced)) (directives constant depth)
      (directives constant depth) := by
  refine tracks_remaining.bind ?_
  rintro rounds _ rfl
  exact tracks_directivesUpTo constant depth rounds

theorem tracks_fragmentName : Tracks SameName fragmentName fragmentName := by
  refine tracks_current.bind fun {token twin} same => ?_
  rw [same.lexeme]
  exact .ite (fun _ => .throw _ _) fun _ => tracks_name

section Sets

variable {item : Parser Selection}

theorem tracks_setOf (each : Tracks (Same Selection.unplaced) item item) :
    Tracks (Same SelectionSet.unplaced) (setOf item) (setOf item) := by
  refine tracks_current.bind fun _ => ?_
  refine (tracks_enclosedSome each .braceOpen .braceClose).bind fun selections => .pure ?_
  rw [Same, SelectionSet.unplaced, SelectionSet.unplaced, Selection.unplacedAll_eq_map,
    Selection.unplacedAll_eq_map, same_map selections]

theorem tracks_inlineBody (start place : Position) (condition : Option String) (depth : Nat)
    (each : Tracks (Same Selection.unplaced) item item) :
    Tracks (Same Selection.unplaced) (selection.inlineBody start condition item depth)
      (selection.inlineBody place condition item depth) := by
  refine (tracks_directives false depth).bind fun given => (tracks_setOf each).bind fun set => ?_
  refine .pure ?_
  have selections := congrArg SelectionSet.selections set
  rw [Same, Selection.unplaced, Selection.unplaced, InlineFragment.unplaced,
    InlineFragment.unplaced, given]
  exact congrArg _ selections

theorem tracks_fieldBody (start place : Position) (label : Option String) (name : String)
    (depth : Nat) (each : Tracks (Same Selection.unplaced) item item) :
    Tracks (Same Selection.unplaced) (selection.fieldBody start label name item depth)
      (selection.fieldBody place label name item depth) := by
  refine (tracks_arguments false depth).bind fun {given others} arguments => ?_
  refine (tracks_directives false depth).bind fun {used uses} directives => ?_
  have field : Field.unplaced ⟨label, name, given, used, some start⟩ =
      Field.unplaced ⟨label, name, others, uses, some place⟩ := by
    rw [Field.unplaced, arguments, directives]
    rfl
  refine (tracks_peek .braceOpen).bind ?_
  rintro branches _ rfl
  refine .ite (fun _ => ?_) fun _ => .pure (congrArg Selection.leaf field)
  refine (tracks_setOf each).bind fun set => .pure ?_
  have selections := congrArg SelectionSet.selections set
  rw [Same, Selection.unplaced, Selection.unplaced, field]
  exact congrArg _ selections

end Sets

theorem tracks_selection (depth : Nat) :
    Tracks (Same Selection.unplaced) (selection depth) (selection depth) := by
  induction depth with
  | zero => exact tracks_current.bind fun _ => .throw _ _
  | succ depth ih =>
    refine tracks_current.bind fun {start place} _ => (tracks_accept .spread).bind ?_
    rintro spread _ rfl
    refine .ite (fun _ => ?_) fun _ => ?_
    · refine (tracks_acceptKeyword "on").bind ?_
      rintro conditioned _ rfl
      refine .ite (fun _ => ?_) fun _ => ?_
      · refine tracks_name.bind ?_
        rintro condition _ ⟨rfl, _⟩
        exact tracks_inlineBody _ _ _ depth ih
      · refine tracks_current.bind fun {token twin} same => ?_
        rw [same.isName]
        refine .ite (fun _ => ?_) fun _ => tracks_inlineBody _ _ _ depth ih
        refine tracks_fragmentName.bind ?_
        rintro fragment _ ⟨rfl, _⟩
        refine (tracks_directives false depth).bind fun given => .pure ?_
        rw [Same, Selection.unplaced, Selection.unplaced, Spread.unplaced, Spread.unplaced, given]
    · refine tracks_name.bind ?_
      rintro first _ ⟨rfl, _⟩
      refine (tracks_accept .colon).bind ?_
      rintro labelled _ rfl
      refine .ite (fun _ => ?_) fun _ => tracks_fieldBody _ _ _ _ depth ih
      refine tracks_name.bind ?_
      rintro name _ ⟨rfl, _⟩
      exact tracks_fieldBody _ _ _ _ depth ih

theorem tracks_selectionSet (depth : Nat) :
    Tracks (Same SelectionSet.unplaced) (selectionSet depth) (selectionSet depth) :=
  tracks_setOf (tracks_selection depth)

theorem tracks_defaultValue (depth : Nat) :
    Tracks Eq (defaultValue depth) (defaultValue depth) := by
  refine (tracks_accept .equals).bind ?_
  rintro given _ rfl
  exact .ite (fun _ => (tracks_value true depth).bind fun same => .pure (congrArg some same))
    fun _ => .pure rfl

theorem tracks_variableDefinition (depth : Nat) :
    Tracks (Same VariableDefinition.unplaced) (variableDefinition depth)
      (variableDefinition depth) := by
  refine tracks_description.bind ?_
  rintro text _ rfl
  refine (tracks_expect .dollar).bind fun _ => tracks_name.bind ?_
  rintro name _ ⟨rfl, _⟩
  refine (tracks_expect .colon).bind fun _ => (tracks_typeReference depth).bind ?_
  rintro type _ rfl
  refine (tracks_defaultValue depth).bind ?_
  rintro default _ rfl
  refine (tracks_directives true depth).bind fun directives => .pure ?_
  rw [Same, VariableDefinition.unplaced, directives]
  rfl

def HasProperName (definition : Definition) : Prop :=
  match definition.heading with
  | .operation _ none _ => True
  | .operation _ (some name) _ | .fragment name _ => Lexer.IsName name

structure SameDefinition (found twin : Definition) : Prop where
  same : found.unplaced = twin.unplaced
  proper : HasProperName found

def operationBody (start : Position) (text : Option StringLiteral) (kind : OperationKind)
    (operationName : Option String) (depth : Nat) : Parser Definition := do
  let declared ← enclosedIfOpen .parenOpen (variableDefinition depth) .parenClose
  let given ← directives false depth
  return ⟨text, .operation kind operationName declared, given, some start, ← selectionSet depth⟩

theorem tracks_operationBody (start place : Position) (text : Option StringLiteral)
    (kind : OperationKind) (operationName : Option String) (depth : Nat)
    (proper : ∀ name, operationName = some name → Lexer.IsName name) :
    Tracks SameDefinition (operationBody start text kind operationName depth)
      (operationBody place text kind operationName depth) := by
  refine (tracks_enclosedIfOpen (tracks_variableDefinition depth) .parenOpen .parenClose).bind
    fun declared => ?_
  refine (tracks_directives false depth).bind fun directives => ?_
  refine (tracks_selectionSet depth).bind fun set => .pure ⟨?_, ?_⟩
  · rw [Definition.unplaced, set, directives, Heading.unplaced, same_map declared]
    rfl
  · cases operationName with
    | none => trivial
    | some name => exact proper name rfl

theorem tracks_operation (depth : Nat) :
    Tracks SameDefinition (operation depth) (operation depth) := by
  refine tracks_current.bind fun {start place} _ => (tracks_peek .braceOpen).bind ?_
  rintro short _ rfl
  refine .ite (fun _ => ?_) fun _ => ?_
  · refine (tracks_selectionSet depth).bind fun set => .pure ⟨?_, trivial⟩
    rw [Definition.unplaced, set]
    rfl
  · refine tracks_description.bind ?_
    rintro text _ rfl
    refine (tracks_nameFor OperationKind.ofText?).bind ?_
    rintro kind _ rfl
    refine tracks_current.bind fun {token twin} same => ?_
    rw [same.isName]
    refine .ite (fun _ => ?_) fun _ => ?_
    · refine (tracks_name.map (S := fun found twin => found = twin ∧
        ∃ name, found = some name ∧ Lexer.IsName name) ?_).bind ?_
      · rintro name _ ⟨rfl, proper⟩
        exact ⟨rfl, name, rfl, proper⟩
      · rintro _ _ ⟨rfl, name, rfl, proper⟩
        exact tracks_operationBody _ _ _ _ _ depth (by rintro _ ⟨⟩; exact proper)
    · exact tracks_operationBody _ _ _ _ _ depth (by rintro _ ⟨⟩)

theorem tracks_fragment (depth : Nat) :
    Tracks SameDefinition (fragment depth) (fragment depth) := by
  refine tracks_current.bind fun {start place} _ => tracks_description.bind ?_
  rintro text _ rfl
  refine (tracks_expectKeyword "fragment").bind fun _ => tracks_fragmentName.bind ?_
  rintro name _ ⟨rfl, proper⟩
  refine (tracks_expectKeyword "on").bind fun _ => tracks_name.bind ?_
  rintro condition _ ⟨rfl, _⟩
  refine (tracks_directives false depth).bind fun directives => ?_
  refine (tracks_selectionSet depth).bind fun set => .pure ⟨?_, proper⟩
  rw [Definition.unplaced, set, directives]
  rfl

/-- On the same tokens, both parsers read the same operations and fragments. What else they read
does not matter. -/
structure TracksExecutable (parser other : Parser SourceDefinition) : Prop where
  run : ∀ {tokens twins : Tokens} {found : Definition} {rest : Tokens}, tokens.Alike twins →
    parser tokens = .ok (.executable found, rest) →
      ∃ twin further, other twins = .ok (.executable twin, further) ∧ SameDefinition found twin ∧
        rest.Alike further

namespace TracksExecutable

variable {α : Type} {R : α → α → Prop}

theorem throw (error : SyntaxError) (other : Parser SourceDefinition) :
    TracksExecutable (throw error) other := by
  constructor
  intro tokens twins found rest _ read
  cases read

theorem bind {parser other : Parser α} {f g : α → Parser SourceDefinition}
    (h : Tracks R parser other)
    (each : ∀ {found twin}, R found twin → TracksExecutable (f found) (g twin)) :
    TracksExecutable (parser >>= f) (other >>= g) := by
  constructor
  intro tokens twins found rest alike read
  obtain ⟨⟨first, middle⟩, here, there⟩ := exists_of_bind_eq_ok read
  obtain ⟨twin, between, same, related, further⟩ := h.run alike here
  obtain ⟨last, behind, done, fits, aligned⟩ := (each related).run further there
  exact ⟨last, behind, (bind_of_ok same).trans done, fits, aligned⟩

theorem executable {parser other : Parser Definition} (h : Tracks SameDefinition parser other) :
    TracksExecutable (.executable <$> parser) (.executable <$> other) := by
  constructor
  intro tokens twins found rest alike read
  obtain ⟨⟨first, middle⟩, here, there⟩ := exists_of_bind_eq_ok read
  cases there
  obtain ⟨twin, between, same, related, further⟩ := h.run alike here
  refine ⟨twin, between, ?_, related, further⟩
  simp only [Functor.map, StateT.map, same]
  rfl

theorem typeSystem (parser : Parser α) (f : α → TypeSystemDefinition)
    (other : Parser SourceDefinition) :
    TracksExecutable (parser >>= fun found => pure (.typeSystem (f found))) other := by
  constructor
  intro tokens twins found rest _ read
  obtain ⟨⟨first, middle⟩, _, there⟩ := exists_of_bind_eq_ok read
  cases there

theorem typeSystem_map (parser : Parser TypeSystemDefinition) (other : Parser SourceDefinition) :
    TracksExecutable (.typeSystem <$> parser) other :=
  typeSystem parser id other

theorem ite {c : Prop} [Decidable c] {p q p' q' : Parser SourceDefinition}
    (yes : TracksExecutable p q) (no : TracksExecutable p' q') :
    TracksExecutable (if c then p else p') (if c then q else q') := by
  split
  · exact yes
  · exact no

end TracksExecutable

theorem tracks_definitionAt {word : String} {depth : Nat} {parser : Parser SourceDefinition}
    (announced : definitionAt word depth = some parser) : TracksExecutable parser parser := by
  unfold definitionAt at announced
  split at announced
  · cases announced
    exact .bind tracks_description fun _ => .typeSystem _ _ _
  · cases announced
    exact .bind tracks_description fun _ => .typeSystem _ _ _
  · cases announced
    exact .executable (tracks_operation depth)
  · cases announced
    exact .executable (tracks_operation depth)
  · cases announced
    exact .executable (tracks_operation depth)
  · cases announced
    exact .executable (tracks_fragment depth)
  · obtain ⟨kind, _, rfl⟩ := Option.map_eq_some_iff.1 announced
    exact .bind tracks_description fun _ => .typeSystem _ _ _

theorem tracks_announcedDefinition {first twin announced other : Token}
    (alike : SameToken announced other) (described : Bool) (depth : Nat) :
    TracksExecutable (announcedDefinition first announced described depth)
      (announcedDefinition twin other described depth) := by
  unfold announcedDefinition
  rw [alike.lexeme]
  cases announced.lexeme with
  | punctuator mark =>
    cases mark with
    | braceOpen => exact .ite (.throw _ _) (.executable (tracks_operation depth))
    | _ => exact .throw _ _
  | name word =>
    dsimp only
    cases known : definitionAt word depth with
    | none => exact .ite (.throw _ _) (.ite (.typeSystem_map _ _) (.throw _ _))
    | some parser => exact tracks_definitionAt known
  | _ => exact .throw _ _

theorem tracks_sourceDefinition (depth : Nat) :
    TracksExecutable (sourceDefinition depth) (sourceDefinition depth) := by
  refine .bind tracks_current fun {first twin} same => ?_
  rw [same.lexeme]
  cases first.lexeme with
  | string text block =>
    exact .bind tracks_lookahead fun alike => tracks_announcedDefinition alike true depth
  | _ => exact tracks_announcedDefinition same false depth

def definitionsBehind (first : SourceDefinition) (token : Token) (depth rounds : Nat) :
    Parser (List SourceDefinition) :=
  match token.lexeme with
  | .endOfText => return [first]
  | _ => return first :: (← sourceDefinitions depth rounds)

theorem sourceDefinitions_succ (depth rounds : Nat) :
    sourceDefinitions depth (rounds + 1) = (do
      let first ← sourceDefinition depth
      definitionsBehind first (← current) depth rounds) :=
  rfl

theorem definitionsBehind_eq_ok {first : SourceDefinition} {token : Token} {depth rounds : Nat}
    {tokens rest : Tokens} {found : List SourceDefinition} :
    definitionsBehind first token depth rounds tokens = .ok (found, rest) ↔
      ∃ others, found = first :: others ∧
        (token.lexeme = .endOfText ∧ others = [] ∧ rest = tokens ∨
          token.lexeme ≠ .endOfText ∧
            sourceDefinitions depth rounds tokens = .ok (others, rest)) := by
  obtain ⟨lexeme, position⟩ := token
  cases lexeme with
  | endOfText =>
    constructor
    · intro read
      cases read
      exact ⟨[], rfl, .inl ⟨rfl, rfl, rfl⟩⟩
    · rintro ⟨_, rfl, ⟨_, rfl, rfl⟩ | ⟨goesOn, _⟩⟩
      · rfl
      · exact absurd rfl goesOn
  | _ =>
    constructor
    · intro read
      obtain ⟨⟨others, further⟩, more, same⟩ := exists_of_bind_eq_ok read
      cases same
      exact ⟨others, rfl, .inr ⟨fun ending => (nomatch ending), more⟩⟩
    · rintro ⟨others, rfl, ⟨ending, _⟩ | ⟨_, more⟩⟩
      · cases ending
      · exact bind_of_ok more

theorem tracks_sourceDefinitions (depth : Nat) {rounds : Nat} {tokens twins rest : Tokens}
    {found : List Definition} (alike : tokens.Alike twins)
    (read : sourceDefinitions depth rounds tokens = .ok (found.map .executable, rest)) :
    ∃ twin further, sourceDefinitions depth rounds twins = .ok (twin.map .executable, further) ∧
      List.Forall₂ SameDefinition found twin := by
  -- The result says that all that is read is executable, so each round is one that tracks.
  induction rounds generalizing tokens twins found with
  | zero =>
    cases found with
    | nil => exact ⟨[], twins, rfl, .nil⟩
    | cons => cases read
  | succ rounds ih =>
    rw [sourceDefinitions_succ] at read ⊢
    obtain ⟨⟨_, middle⟩, one, read⟩ := exists_of_bind_eq_ok read
    obtain ⟨⟨token, behind⟩, here, read⟩ := exists_of_bind_eq_ok read
    obtain ⟨_, all, rest_read⟩ := definitionsBehind_eq_ok.1 read
    obtain ⟨definition, others, rfl, rfl, rfl⟩ := List.map_eq_cons_iff.1 all
    obtain ⟨twin, between, there, same, aligned⟩ := (tracks_sourceDefinition depth).run alike one
    obtain ⟨other, further, next, sameToken, aligned⟩ := tracks_current.run aligned here
    obtain ⟨more, last, done, fits⟩ : ∃ more last,
        definitionsBehind (.executable twin) other depth rounds further =
          .ok (.executable twin :: more.map .executable, last) ∧
        List.Forall₂ SameDefinition others more := by
      rcases rest_read with ⟨ending, nothing, _⟩ | ⟨goesOn, read⟩
      · obtain rfl := List.map_eq_nil_iff.1 nothing
        exact ⟨[], further,
          definitionsBehind_eq_ok.2 ⟨[], rfl, .inl ⟨sameToken.lexeme.trans ending, rfl, rfl⟩⟩, .nil⟩
      · obtain ⟨more, last, done, fits⟩ := ih aligned read
        refine ⟨more, last, definitionsBehind_eq_ok.2 ⟨_, rfl, .inr ⟨?_, done⟩⟩, fits⟩
        rwa [sameToken.lexeme]
    exact ⟨twin :: more, last, (bind_of_ok there).trans ((bind_of_ok next).trans done),
      .cons same fits⟩

theorem tracks_parseSource {text other : String} {found : List Definition}
    (alike : (Tokens.ofText text).Alike (Tokens.ofText other))
    (read : parseSource text = .ok (found.map .executable)) :
    ∃ twin, parseSource other = .ok (twin.map .executable) ∧
      List.Forall₂ SameDefinition found twin := by
  unfold parseSource at read ⊢
  obtain ⟨⟨_, rest⟩, read, same⟩ := exists_of_bind_eq_ok read
  cases same
  obtain ⟨twin, further, done, fits⟩ := tracks_sourceDefinitions _ alike read
  refine ⟨twin, ?_, fits⟩
  dsimp only
  rw [← alike.following.length_eq, StateT.run', done]
  rfl

end Parser

/-- A line end behind a text changes nothing but places in what is read of it. -/
theorem parseSource_extend {text : String} {found : List Definition}
    (read : parseSource text = .ok (found.map .executable)) :
    ∃ twin, parseSource (text ++ "\n") = .ok (twin.map .executable) ∧
      List.Forall₂ Parser.SameDefinition found twin := by
  exact Parser.tracks_parseSource (Tokens.ofText_alike_extend text) read

theorem hasProperName_of_parseSource {text : String} {found : List Definition}
    (read : parseSource text = .ok (found.map .executable)) :
    ∀ definition ∈ found, Parser.HasProperName definition := by
  obtain ⟨twin, _, fits⟩ := Parser.tracks_parseSource (Tokens.ofText_alike_self text) read
  have each : List.Forall₂ (fun found twin => Parser.HasProperName found ∧
      Parser.SameDefinition found twin) found twin :=
    fits.imp fun _ _ same => ⟨same.proper, same⟩
  exact ((List.forall₂_and_left _ _).1 each).1

end DocumentNormalizer
