import DocumentNormalizer.Language.Lexer
import DocumentNormalizer.Proofs.Outcome
import Mathlib.Data.List.Forall2
import Mathlib.Data.List.TakeWhile

namespace DocumentNormalizer

namespace Cursor

/-- The same place in a text that has a line end behind it. -/
def extend (cursor : Cursor) : Cursor := ⟨cursor.position, cursor.rest ++ ['\n']⟩

theorem advance_extend {cursor : Cursor} {count : Nat} (fits : count ≤ cursor.rest.length) :
    cursor.extend.advance count = (cursor.advance count).extend := by
  rw [advance, extend, List.drop_append_of_le_length fits]
  rfl

end Cursor

namespace Lexer

/-- Two scans that come to the same, one of them in a text with a line end behind it. What is left
of the text is shorter than a bound. -/
inductive Extends {α : Type} (bound : Nat) : Scan (α × Cursor) → Scan (α × Cursor) → Prop
  | found (value : α) {next : Cursor} (shorter : next.rest.length < bound) :
    Extends bound (.ok (value, next)) (.ok (value, next.extend))
  | fault (cause other : LexicalFault × Position) : Extends bound (.error cause) (.error other)

namespace Extends

variable {α β : Type} {bound further : Nat} {scan other : Scan (α × Cursor)}

theorem mono (h : Extends bound scan other) (larger : bound ≤ further) :
    Extends further scan other := by
  cases h with
  | found value shorter => exact .found value (Nat.lt_of_lt_of_le shorter larger)
  | fault cause other => exact .fault cause other

theorem bind {f g : α × Cursor → Scan (β × Cursor)} (h : Extends bound scan other)
    (each : ∀ value next, next.rest.length < bound →
      Extends further (f (value, next)) (g (value, next.extend))) :
    Extends further (scan >>= f) (other >>= g) := by
  cases h with
  | found value shorter => exact each value _ shorter
  | fault cause other => exact .fault cause other

end Extends

theorem takeWhile_extend {p : Char → Bool} (stops : p '\n' = false) (chars : List Char) :
    (chars ++ ['\n']).takeWhile p = chars.takeWhile p := by
  induction chars with
  | nil => simp [stops]
  | cons c rest ih => simp only [List.cons_append, List.takeWhile_cons, ih]

theorem digits_extends (cursor : Cursor) :
    Extends cursor.rest.length (digits cursor) (digits cursor.extend) := by
  have same : cursor.extend.rest.takeWhile Char.isDigit = cursor.rest.takeWhile Char.isDigit :=
    takeWhile_extend rfl cursor.rest
  have fits := (List.takeWhile_prefix (l := cursor.rest) Char.isDigit).length_le
  rw [digits, digits, same]
  cases run : cursor.rest.takeWhile Char.isDigit with
  | nil => exact .fault _ _
  | cons d ds =>
    rw [run, List.length_cons] at fits
    have shorter : (cursor.advance (d :: ds).length).rest.length < cursor.rest.length := by
      rw [Cursor.advance, List.length_drop, List.length_cons]
      omega
    dsimp only
    rw [Cursor.advance_extend (by simpa using fits)]
    exact .found _ shorter

theorem length_rest_advance_le (cursor : Cursor) (count : Nat) :
    (cursor.advance count).rest.length ≤ cursor.rest.length := by
  rw [Cursor.advance, List.length_drop]
  exact Nat.sub_le _ _

theorem digits_advance_extends (cursor : Cursor) {count : Nat} (fits : count ≤ cursor.rest.length) :
    Extends cursor.rest.length (digits (cursor.advance count))
      (digits (cursor.extend.advance count)) := by
  rw [Cursor.advance_extend fits]
  exact (digits_extends _).mono (length_rest_advance_le cursor count)

theorem advance_extends {α : Type} {bound : Nat} {cursor : Cursor} {count : Nat} (value : α)
    (fits : count ≤ cursor.rest.length) (shorter : cursor.rest.length - count < bound) :
    Extends bound (.ok (value, cursor.advance count))
      (.ok (value, cursor.extend.advance count)) := by
  rw [Cursor.advance_extend fits]
  refine .found value ?_
  rw [Cursor.advance, List.length_drop]
  exact shorter

theorem wholePart_of_ne {cursor : Cursor} (other : cursor.rest.head? ≠ some '0') :
    wholePart cursor = digits cursor := by
  unfold wholePart
  split
  · next same => simp [same] at other
  · next same => simp [same] at other
  · rfl

theorem wholePart_extends (cursor : Cursor) :
    Extends cursor.rest.length (wholePart cursor) (wholePart cursor.extend) := by
  by_cases zero : cursor.rest.head? = some '0'
  · obtain ⟨position, chars⟩ := cursor
    cases chars with
    | nil => cases zero
    | cons c rest =>
      cases zero
      cases rest with
      | nil => exact advance_extends _ (Nat.le_refl 1) Nat.zero_lt_one
      | cons d rest =>
        simp only [wholePart, Cursor.extend, List.cons_append]
        split
        · exact .fault _ _
        · exact advance_extends _ (by simp) (by simp)
  · have other : cursor.extend.rest.head? ≠ some '0' := by
      rw [Cursor.extend]
      cases rest : cursor.rest with
      | nil => simp
      | cons c rest => simpa [rest] using zero
    rw [wholePart_of_ne zero, wholePart_of_ne other]
    exact digits_extends cursor

theorem Extends.same {bound : Nat} {cursor : Cursor} (value : List Char)
    (shorter : cursor.rest.length < bound) :
    Extends bound (pure (value, cursor)) (pure (value, cursor.extend)) :=
  .found value shorter

theorem fractionPart_extends (cursor : Cursor) :
    Extends (cursor.rest.length + 1) (fractionPart cursor) (fractionPart cursor.extend) := by
  obtain ⟨position, chars⟩ := cursor
  cases chars with
  | nil => exact .same [] Nat.zero_lt_one
  | cons c rest =>
    by_cases point : c = '.'
    · subst point
      have behind : 1 ≤ ('.' :: rest).length := Nat.le_add_left 1 _
      refine (digits_advance_extends ⟨position, '.' :: rest⟩ behind).bind
        fun run next shorter => .same _ ?_
      exact Nat.lt_succ_of_lt shorter
    · have absent (chars : List Char) :
          fractionPart ⟨position, c :: chars⟩ = pure ([], ⟨position, c :: chars⟩) := by
        unfold fractionPart
        split
        · next same => cases same; exact absurd rfl point
        · rfl
      rw [absent, Cursor.extend, List.cons_append, absent]
      exact .same [] (Nat.lt_succ_self _)

theorem filter_take_one_extend {p : Char → Bool} (stops : p '\n' = false) (chars : List Char) :
    ((chars ++ ['\n']).take 1).filter p = (chars.take 1).filter p := by
  cases chars with
  | nil => simp [stops]
  | cons c rest => rfl

theorem length_filter_take_one_le (p : Char → Bool) (chars : List Char) :
    ((chars.take 1).filter p).length ≤ chars.length :=
  Nat.le_trans (List.length_filter_le _ _) (List.length_take_le' _ _)

theorem exponentPart_extends (cursor : Cursor) :
    Extends (cursor.rest.length + 1) (exponentPart cursor) (exponentPart cursor.extend) := by
  obtain ⟨position, chars⟩ := cursor
  cases chars with
  | nil => exact .same [] Nat.zero_lt_one
  | cons e rest =>
    simp only [exponentPart, Cursor.extend, List.cons_append]
    split
    · rw [filter_take_one_extend rfl]
      have signed := length_filter_take_one_le (fun c => c = '+' || c = '-') rest
      have fits : 1 + ((rest.take 1).filter fun c => c = '+' || c = '-').length ≤
          (e :: rest).length := by
        rw [List.length_cons]
        omega
      refine (digits_advance_extends ⟨position, e :: rest⟩ fits).bind
        fun run next shorter => .same _ ?_
      exact Nat.lt_succ_of_lt shorter
    · exact .same [] (Nat.lt_succ_self _)

theorem number_extends (cursor : Cursor) :
    Extends cursor.rest.length (number cursor) (number cursor.extend) := by
  have signed : ((cursor.extend.rest.take 1).filter (· = '-')) =
      (cursor.rest.take 1).filter (· = '-') := filter_take_one_extend rfl cursor.rest
  have fits := length_filter_take_one_le (· = '-') cursor.rest
  have bound := length_rest_advance_le cursor ((cursor.rest.take 1).filter (· = '-')).length
  rw [number, number, signed, Cursor.advance_extend fits]
  refine (wholePart_extends _).bind fun whole behind shorter => ?_
  refine (fractionPart_extends behind).bind fun fraction next shorter' => ?_
  refine (exponentPart_extends next).bind fun exponent last shorter'' => ?_
  have short : last.rest.length < cursor.rest.length := by omega
  dsimp only
  obtain ⟨position, chars⟩ := last
  cases chars with
  | nil =>
    have stops : ¬(decide ('\n' = '.') || isNameStart '\n') = true := by decide
    simp only [Cursor.extend, List.nil_append]
    rw [if_neg stops]
    split
    · exact .found _ short
    · exact .found _ short
  | cons c rest =>
    simp only [Cursor.extend, List.cons_append]
    split
    · exact .fault _ _
    · split
      · exact .found _ short
      · exact .found _ short

/-- An escape comes to the same with a line end behind the text, and lies within the text. -/
inductive EscapeExtends (length : Nat) :
    Except LexicalFault (Char × Nat) → Except LexicalFault (Char × Nat) → Prop
  | found (c : Char) {size : Nat} (positive : 0 < size) (fits : size ≤ length + 1) :
    EscapeExtends length (.ok (c, size)) (.ok (c, size))
  | fault (cause other : LexicalFault) : EscapeExtends length (.error cause) (.error other)

theorem take_extend (chars : List Char) (count : Nat) :
    (chars ++ ['\n']).take count = chars.take count ∨
      chars.length < count ∧ (chars ++ ['\n']).take count = chars.take count ++ ['\n'] := by
  rcases Nat.lt_or_ge chars.length count with short | long
  · rw [List.take_of_length_le (by simpa using Nat.succ_le_of_lt short),
      List.take_of_length_le (Nat.le_of_lt short)]
    exact .inr ⟨short, rfl⟩
  · rw [List.take_append_of_le_length long]
    exact .inl rfl

theorem getElem?_extend_eq_some_iff {c : Char} (other : c ≠ '\n') (chars : List Char) (i : Nat) :
    (chars ++ ['\n'])[i]? = some c ↔ chars[i]? = some c := by
  rcases Nat.lt_trichotomy i chars.length with inside | rfl | outside
  · rw [List.getElem?_append_left inside]
  · simpa using other.symm
  · rw [List.getElem?_eq_none (by simpa using Nat.succ_le_of_lt outside),
      List.getElem?_eq_none (Nat.le_of_lt outside)]

theorem bracedEscape_extends (rest : List Char) :
    EscapeExtends (rest.length + 2) (bracedEscape rest) (bracedEscape (rest ++ ['\n'])) := by
  have run : ((rest ++ ['\n']).take 9).takeWhile (fun c => (Text.hexDigit? c).isSome) =
      (rest.take 9).takeWhile fun c => (Text.hexDigit? c).isSome := by
    rcases take_extend rest 9 with same | ⟨_, longer⟩
    · rw [same]
    · rw [longer, takeWhile_extend rfl]
  have closing (i : Nat) :
      ((rest ++ ['\n']).take 9)[i]? = some '}' ↔ (rest.take 9)[i]? = some '}' := by
    rcases take_extend rest 9 with same | ⟨_, longer⟩
    · rw [same]
    · rw [longer, getElem?_extend_eq_some_iff (by decide)]
  simp only [bracedEscape, run, closing]
  split
  · next closed =>
    split
    · have found := of_decide_eq_true (Bool.and_eq_true_iff.1 closed).1
      have inside := (List.getElem?_eq_some_iff.1 found).1
      rw [List.length_take] at inside
      exact .found _ (Nat.succ_pos _) (by omega)
    · exact .fault _ _
  · exact .fault _ _

theorem ofHexDigits?_extend (chars : List Char) : Text.ofHexDigits? (chars ++ ['\n']) = none := by
  rw [Text.ofHexDigits?, List.foldlM_append]
  cases chars.foldlM (fun value c => (16 * value + ·) <$> Text.hexDigit? c) 0 <;> rfl

def fourDigits? (digits : List Char) : Option Nat :=
  if digits.length = 4 then Text.ofHexDigits? digits else none

theorem fourDigits?_extend (chars : List Char) :
    fourDigits? ((chars ++ ['\n']).take 4) = fourDigits? (chars.take 4) := by
  rcases take_extend chars 4 with same | ⟨short, longer⟩
  · rw [same]
  · have missing : fourDigits? (chars.take 4) = none := by
      rw [fourDigits?, if_neg]
      rw [List.length_take]
      omega
    rw [longer, missing, fourDigits?, ofHexDigits?_extend, ite_self]

theorem length_of_fourDigits? {chars : List Char} {code : Nat}
    (found : fourDigits? (chars.take 4) = some code) : 4 ≤ chars.length := by
  rw [fourDigits?] at found
  split at found
  · next four =>
    rw [List.length_take] at four
    omega
  · cases found

theorem fixedEscape_extends (rest : List Char) :
    EscapeExtends (rest.length + 1) (fixedEscape rest) (fixedEscape (rest ++ ['\n'])) := by
  have code (digits : List Char) :
      (if digits.length = 4 then Text.ofHexDigits? digits else none) = fourDigits? digits := rfl
  simp only [fixedEscape, code, fourDigits?_extend]
  cases first : fourDigits? (rest.take 4) with
  | none => exact .fault _ _
  | some code =>
    have four := length_of_fourDigits? first
    dsimp only
    cases charOfPoint? code with
    | some c => exact .found c (Nat.succ_pos _) (by omega)
    | none =>
      have behind : (rest ++ ['\n']).drop 6 = ((rest.drop 4) ++ ['\n']).drop 2 := by
        rw [← List.drop_append_of_le_length four, List.drop_drop]
      have further : rest.drop 6 = (rest.drop 4).drop 2 := by rw [List.drop_drop]
      rw [behind, further, List.drop_append_of_le_length four]
      have length : (rest.drop 4).length = rest.length - 4 := List.length_drop
      generalize rest.drop 4 = tail at length
      match tail, length with
      | [], _ => exact .fault _ _
      | [x], _ => simpa using EscapeExtends.fault _ _
      | x :: y :: more, length =>
        simp only [List.cons_append, List.take_succ_cons, List.take_zero, List.drop_succ_cons,
          List.drop_zero, fourDigits?_extend]
        by_cases pair : x = '\\' ∧ y = 'u'
        · obtain ⟨rfl, rfl⟩ := pair
          cases second : fourDigits? (more.take 4) with
          | none => exact .fault _ _
          | some low =>
            have four' := length_of_fourDigits? second
            simp only [List.length_cons] at length
            change EscapeExtends _ (ite _ _ _) (ite _ _ _)
            split
            · refine .found _ (Nat.succ_pos _) ?_
              omega
            · exact .fault _ _
        · have unlike : [x, y] ≠ ['\\', 'u'] := by simpa using pair
          split
          · next same _ => exact absurd same unlike
          · exact .fault _ _

theorem escape_of_ne {c : Char} (other : c ≠ 'u') (rest : List Char) :
    escape (c :: rest) = match shortEscape? c with
      | some c => .ok (c, 2)
      | none => .error (.characterEscape (String.ofList ('\\' :: [c]))) := by
  unfold escape
  split
  · next same => cases same; exact absurd rfl other
  · next same => cases same; exact absurd rfl other
  · rfl

theorem escape_u_of_ne {c : Char} (other : c ≠ '{') (rest : List Char) :
    escape ('u' :: c :: rest) = fixedEscape (c :: rest) := by
  unfold escape
  split
  · next same => cases same; exact absurd rfl other
  · next same => cases same; rfl
  · next impossible => exact absurd rfl (impossible _)

theorem escape_extends (rest : List Char) :
    EscapeExtends rest.length (escape rest) (escape (rest ++ ['\n'])) := by
  match rest with
  | [] => exact .fault _ _
  | [c] =>
    by_cases hexadecimal : c = 'u'
    · subst hexadecimal
      exact fixedEscape_extends []
    · rw [List.cons_append, escape_of_ne hexadecimal, escape_of_ne hexadecimal]
      cases shortEscape? c with
      | none => exact .fault _ _
      | some written => exact .found written (Nat.succ_pos _) (Nat.le_refl 2)
  | c :: d :: more =>
    by_cases hexadecimal : c = 'u'
    · subst hexadecimal
      by_cases braced : d = '{'
      · subst braced
        exact bracedEscape_extends more
      · rw [List.cons_append, List.cons_append, escape_u_of_ne braced, escape_u_of_ne braced]
        exact fixedEscape_extends (d :: more)
    · rw [List.cons_append, escape_of_ne hexadecimal, escape_of_ne hexadecimal]
      cases shortEscape? c with
      | none => exact .fault _ _
      | some written =>
        refine .found written (Nat.succ_pos _) ?_
        rw [List.length_cons]
        omega

/-- A string ends where it did, however many rounds are left over. -/
theorem stringText_extends {steps further : Nat} {cursor : Cursor}
    (enough : cursor.rest.length < steps) (more : cursor.rest.length < further) :
    Extends cursor.rest.length (stringText steps cursor) (stringText further cursor.extend) := by
  induction steps generalizing further cursor with
  | zero => exact absurd enough (Nat.not_lt_zero _)
  | succ steps ih =>
    cases further with
    | zero => exact absurd more (Nat.not_lt_zero _)
    | succ further =>
      have onward (size : Nat) (positive : 0 < size) (fits : size ≤ cursor.rest.length) :
          Extends cursor.rest.length (stringText steps (cursor.advance size))
            (stringText further (cursor.extend.advance size)) := by
        have length : (cursor.advance size).rest.length = cursor.rest.length - size :=
          List.length_drop
        rw [Cursor.advance_extend fits]
        exact (ih (by omega) (by omega)).mono (by omega)
      cases chars : cursor.rest with
      | nil =>
        simp only [stringText, Cursor.extend, chars, List.nil_append]
        exact .fault _ _
      | cons c rest =>
        have extended : cursor.extend.rest = c :: (rest ++ ['\n']) := by
          rw [Cursor.extend, chars]
          rfl
        have one : 1 ≤ cursor.rest.length := by rw [chars]; exact Nat.le_add_left 1 _
        have length : cursor.rest.length = rest.length + 1 := by rw [chars]; rfl
        simp only [stringText, chars, extended]
        rw [← chars]
        split
        · exact advance_extends _ one (by omega)
        · split
          · exact .fault _ _
          · split
            · have written := escape_extends rest
              generalize escape rest = found at written
              generalize escape (rest ++ ['\n']) = other at written
              cases written with
              | fault => exact .fault _ _
              | found c positive fits =>
                exact (onward _ positive (by omega)).bind fun text next shorter =>
                  .same _ shorter
            · exact (onward 1 Nat.one_pos one).bind fun text next shorter => .same _ shorter

theorem of_extend_eq_cons {c : Char} {chars rest : List Char} (other : c ≠ '\n')
    (same : chars ++ ['\n'] = c :: rest) :
    ∃ before, chars = c :: before ∧ before ++ ['\n'] = rest := by
  cases chars with
  | nil => cases same; exact absurd rfl other
  | cons d before => cases same; exact ⟨before, rfl, rfl⟩

/-- What is put in front of the lines of a block does not matter to where the block ends. -/
theorem Extends.prepend {bound : Nat} {scan other : Scan (List (List Char) × Cursor)}
    (h : Extends bound scan other) (f : List (List Char) → List (List Char)) {more : Nat}
    (larger : bound ≤ more) :
    Extends more (scan >>= fun found => pure (f found.1, found.2))
      (other >>= fun found => pure (f found.1, found.2)) :=
  h.bind fun lines _ shorter => .found (f lines) (Nat.lt_of_lt_of_le shorter larger)

theorem blockLines_extends (position : Position) (rest : List Char) :
    Extends rest.length (blockLines position rest) (blockLines position (rest ++ ['\n'])) := by
  have le_cons (c : Char) (rest : List Char) : rest.length ≤ (c :: rest).length :=
    Nat.le_succ _
  fun_induction blockLines position rest with
  | case1 position => exact .fault _ _
  | case2 position rest =>
    refine .found _ ?_
    simp only [List.length_cons]
    omega
  | case3 position rest ih =>
    refine ih.prepend (fun lines => consLine '"' (consLine '"' (consLine '"' lines))) ?_
    simp only [List.length_cons]
    omega
  | case4 position rest ih =>
    exact ih.prepend _ (Nat.le_trans (le_cons _ _) (le_cons _ _))
  | case5 position rest single ih =>
    cases rest with
    | nil => exact .fault _ _
    | cons c rest =>
      rw [List.cons_append, blockLines]
      · exact ih.prepend _ (le_cons _ _)
      · intro behind same
        obtain ⟨rfl, _⟩ := List.cons_eq_cons.1 same
        exact single rest rfl
  | case6 position rest ih => exact ih.prepend _ (le_cons _ _)
  | case7 position c rest quotes escaped pair back line ih =>
    rw [List.cons_append, blockLines]
    · exact ih.prepend _ (le_cons _ _)
    · intro behind quote same
      obtain ⟨first, here, same⟩ := of_extend_eq_cons (by decide) same
      obtain ⟨second, there, _⟩ := of_extend_eq_cons (by decide) same
      exact quotes second quote (by rw [here, there])
    · intro behind slash same
      obtain ⟨first, here, same⟩ := of_extend_eq_cons (by decide) same
      obtain ⟨second, there, same⟩ := of_extend_eq_cons (by decide) same
      obtain ⟨third, yonder, _⟩ := of_extend_eq_cons (by decide) same
      exact escaped third slash (by rw [here, there, yonder])
    · exact fun _ return_ _ => back return_
    · exact back
    · exact line

theorem word_extends {cursor : Cursor} {c : Char} {rest : List Char}
    (same : cursor.rest = c :: rest) :
    Extends cursor.rest.length (word cursor c rest) (word cursor.extend c (rest ++ ['\n'])) := by
  have one : 1 ≤ cursor.rest.length := by rw [same]; exact Nat.le_add_left 1 _
  unfold word
  cases Punctuator.ofChar? c with
  | some mark => exact advance_extends _ one (by omega)
  | none =>
    dsimp only
    split
    · exact number_extends cursor
    · split
      · have fits := (List.takeWhile_prefix (l := rest) isNameContinue).length_le
        have length : cursor.rest.length = rest.length + 1 := by rw [same]; rfl
        rw [takeWhile_extend rfl]
        refine advance_extends _ ?_ ?_
        · rw [List.length_cons]
          omega
        · rw [List.length_cons]
          omega
      · split
        · exact .fault _ _
        · exact .fault _ _

/-- The token at a character is the same with a line end behind the text. -/
theorem lexeme_extends {cursor : Cursor} (more : cursor.rest ≠ []) :
    Extends cursor.rest.length (lexeme cursor) (lexeme cursor.extend) := by
  have extended : cursor.extend.rest = cursor.rest ++ ['\n'] := rfl
  rw [lexeme, lexeme, extended]
  split
  · next none => exact absurd none more
  · next tail same =>
    have three : 3 ≤ cursor.rest.length := by rw [same]; exact Nat.le_add_left 3 _
    simp only [same, List.cons_append]
    rw [← same]
    exact advance_extends _ three (by omega)
  · next tail same =>
    rw [same]
    refine (blockLines_extends (cursor.position.advance 3) tail).bind fun lines next shorter =>
      .found _ ?_
    simp only [List.length_cons]
    omega
  · next tail single same =>
    have one : 1 ≤ cursor.rest.length := by rw [same]; exact Nat.le_add_left 1 _
    have length : (cursor.advance 1).rest.length = tail.length := by
      rw [Cursor.advance, same]
      rfl
    rw [same, List.cons_append]
    split
    · next impossible => cases impossible
    · next impossible => cases impossible
    · next behind both =>
      obtain ⟨first, here, rest⟩ := of_extend_eq_cons (by decide) (List.cons_eq_cons.1 both).2
      obtain ⟨second, there, _⟩ := of_extend_eq_cons (by decide) rest
      exact absurd (by rw [here, there]) (single second)
    · next behind _ both =>
      obtain ⟨_, rfl⟩ := List.cons_eq_cons.1 both
      rw [Cursor.advance_extend one]
      refine (stringText_extends (by omega) ?_).bind fun text next shorter => .found _ ?_
      · rw [List.length_append]
        omega
      · rw [List.length_cons]
        omega
    · next quote both => exact absurd (List.cons_eq_cons.1 both).1.symm quote
  · next c rest dots quotes quote same =>
    have plain := word_extends same
    rw [same, List.cons_append]
    split
    · next impossible => cases impossible
    · next behind both =>
      obtain ⟨first, both⟩ := List.cons_eq_cons.1 both
      obtain ⟨second, here, both⟩ := of_extend_eq_cons (by decide) both
      obtain ⟨third, there, _⟩ := of_extend_eq_cons (by decide) both
      exact absurd (by rw [here, there]) (dots third first)
    · next behind both => exact absurd (List.cons_eq_cons.1 both).1 quote
    · next behind _ both => exact absurd (List.cons_eq_cons.1 both).1 quote
    · next both =>
      obtain ⟨rfl, rfl⟩ := List.cons_eq_cons.1 both
      rw [← same]
      exact plain

/-- Skipping stops where it did, or goes on to the end of both texts. -/
theorem skipIgnored_extend (inComment : Bool) (position : Position) (chars : List Char) :
    (skipIgnored inComment position chars).rest ≠ [] ∧
        skipIgnored inComment position (chars ++ ['\n']) =
          (skipIgnored inComment position chars).extend ∨
      (skipIgnored inComment position chars).rest = [] ∧
        (skipIgnored inComment position (chars ++ ['\n'])).rest = [] := by
  fun_induction skipIgnored inComment position chars with
  | case1 inComment position => exact .inr ⟨rfl, rfl⟩
  | case2 inComment position rest ih => exact ih
  | case3 inComment position rest single ih =>
    cases rest with
    | nil => exact .inr ⟨rfl, rfl⟩
    | cons c rest =>
      rw [List.cons_append, skipIgnored]
      · exact ih
      · intro behind same
        obtain ⟨rfl, _⟩ := List.cons_eq_cons.1 same
        exact single rest rfl
  | case4 inComment position rest ih => exact ih
  | case5 inComment position c rest _ back line skipped ih =>
    rw [List.cons_append, skipIgnored, if_pos skipped]
    · exact ih
    · exact fun _ return_ _ => back return_
    · exact back
    · exact line
  | case6 inComment position rest _ back line kept ih =>
    rw [List.cons_append, skipIgnored, if_neg kept, if_pos rfl]
    · exact ih
    · exact fun _ return_ _ => back return_
    · exact back
    · exact line
  | case7 inComment position c rest _ back line kept mark =>
    rw [List.cons_append, skipIgnored, if_neg kept, if_neg mark]
    · exact .inl ⟨List.cons_ne_nil _ _, rfl⟩
    · exact fun _ return_ _ => back return_
    · exact back
    · exact line

theorem length_skipIgnored_le (inComment : Bool) (position : Position) (chars : List Char) :
    (skipIgnored inComment position chars).rest.length ≤ chars.length := by
  fun_induction skipIgnored inComment position chars with
  | case1 => exact Nat.le_refl _
  | case2 inComment position rest ih =>
    simp only [List.length_cons]
    omega
  | case3 inComment position rest _ ih => exact Nat.le_succ_of_le ih
  | case4 inComment position rest ih => exact Nat.le_succ_of_le ih
  | case5 inComment position c rest _ _ _ _ ih => exact Nat.le_succ_of_le ih
  | case6 inComment position rest _ _ _ _ ih => exact Nat.le_succ_of_le ih
  | case7 => exact Nat.le_refl _

/-- Letters, digits and underscores. -/
def IsName (text : String) : Prop := ∀ c ∈ text.toList, isNameContinue c = true

/-- Two lexemes that are the same, or two faults. -/
inductive Alike : Lexeme → Lexeme → Prop
  | same {found : Lexeme} (proper : ∀ text, found = .name text → IsName text) : Alike found found
  | fault (cause other : LexicalFault) : Alike (.fault cause) (.fault other)

theorem value_of_number {cursor next : Cursor} {found : Lexeme}
    (read : number cursor = .ok (found, next)) :
    ∃ text, found = .int text ∨ found = .float text := by
  obtain ⟨whole, _, read⟩ := exists_of_bind_eq_ok read
  obtain ⟨fraction, _, read⟩ := exists_of_bind_eq_ok read
  obtain ⟨⟨exponent, last⟩, _, read⟩ := exists_of_bind_eq_ok read
  have value {bare : Bool} {text : String} (read : (if bare then pure (.int text, last)
      else pure (.float text, last) : Scan (Lexeme × Cursor)) = .ok (found, next)) :
      ∃ text, found = .int text ∨ found = .float text := by
    cases bare with
    | true => cases read; exact ⟨text, .inl rfl⟩
    | false => cases read; exact ⟨text, .inr rfl⟩
  dsimp only at read
  split at read
  · split at read
    · cases read
    · exact value read
  · exact value read

theorem isNameContinue_of_isNameStart {c : Char} (start : isNameStart c = true) :
    isNameContinue c = true := by
  unfold isNameStart at start
  unfold isNameContinue Char.isAlphanum
  rcases Bool.or_eq_true_iff.1 start with letter | underscore
  · rw [letter]
    rfl
  · rw [underscore, Bool.or_true]

theorem isName_of_lexeme {cursor next : Cursor} {text : String}
    (found : lexeme cursor = .ok (.name text, next)) : IsName text := by
  unfold lexeme at found
  split at found
  · cases found
  · cases found
  · next rest _ =>
    cases lines : blockLines (cursor.position.advance 3) rest with
    | error fault => rw [lines] at found; cases found
    | ok read => rw [lines] at found; cases found
  · next rest _ _ =>
    cases read : stringText (rest.length + 1) (cursor.advance 1) with
    | error fault => rw [read] at found; cases found
    | ok read' => rw [read] at found; cases found
  · unfold word at found
    split at found
    · cases found
    · split at found
      · obtain ⟨text, impossible | impossible⟩ := value_of_number found
        · cases impossible
        · cases impossible
      · split at found
        · next start =>
          cases found
          intro c member
          rw [String.toList_ofList] at member
          rcases List.mem_cons.1 member with rfl | later
          · exact isNameContinue_of_isNameStart start
          · exact List.mem_takeWhile_imp later
        · split at found
          · cases found
          · cases found

theorem tokensFrom_alike {steps further : Nat} {cursor : Cursor}
    (enough : cursor.rest.length < steps) (more : cursor.rest.length < further) :
    List.Forall₂ (fun token other => Alike token.lexeme other.lexeme) (tokensFrom steps cursor)
      (tokensFrom further cursor.extend) := by
  induction steps generalizing further cursor with
  | zero => exact absurd enough (Nat.not_lt_zero _)
  | succ steps ih =>
    cases further with
    | zero => exact absurd more (Nat.not_lt_zero _)
    | succ further =>
      simp only [tokensFrom]
      have shorter := length_skipIgnored_le false cursor.position cursor.rest
      rcases skipIgnored_extend false cursor.position cursor.rest with
        ⟨nonempty, same⟩ | ⟨here, there⟩
      · have extended : skipIgnored false cursor.extend.position cursor.extend.rest =
            (skipIgnored false cursor.position cursor.rest).extend := same
        have found := lexeme_extends nonempty
        rw [extended]
        generalize skipIgnored false cursor.position cursor.rest = start at shorter found ⊢
        generalize read : lexeme start = scan at found ⊢
        generalize lexeme start.extend = other at found ⊢
        cases found with
        | fault cause other => exact .cons (.fault _ _) .nil
        | @found token next smaller =>
          have proper : ∀ text, token = .name text → IsName text := by
            rintro text rfl
            exact isName_of_lexeme read
          have rest := ih (Nat.lt_of_lt_of_le smaller (by omega) : next.rest.length < steps)
            (Nat.lt_of_lt_of_le smaller (by omega) : next.rest.length < further)
          cases token with
          | endOfText => exact .cons (.same proper) .nil
          | _ => exact .cons (.same proper) rest
      · -- Nothing but the line end is left, and that is skipped.
        have extended : (skipIgnored false cursor.extend.position cursor.extend.rest).rest = [] :=
          there
        simp only [lexeme, here, extended]
        exact .cons (.same fun _ impossible => nomatch impossible) .nil

theorem isName_of_mem_tokensFrom {steps : Nat} {cursor : Cursor} {token : Token} {text : String}
    (member : token ∈ tokensFrom steps cursor) (name : token.lexeme = .name text) :
    IsName text := by
  induction steps generalizing cursor with
  | zero => cases member
  | succ steps ih =>
    simp only [tokensFrom] at member
    split at member
    · rw [List.mem_singleton.1 member] at name
      cases name
    · rw [List.mem_singleton.1 member] at name
      cases name
    · next found next _ read =>
      rcases List.mem_cons.1 member with rfl | later
      · dsimp only at name
        rw [name] at read
        exact isName_of_lexeme read
      · exact ih later

end Lexer

/-- Tokens that say the same, wherever they stand. -/
structure Tokens.Alike (tokens other : Tokens) : Prop where
  current : Lexer.Alike tokens.current.lexeme other.current.lexeme
  following : List.Forall₂ (fun token twin => Lexer.Alike token.lexeme twin.lexeme)
    tokens.following other.following

namespace Tokens

theorem ofText_alike_self (text : String) : (ofText text).Alike (ofText text) := by
  have alike (token : Token)
      (member : token ∈ Lexer.tokensFrom (text.toList.length + 1) ⟨.start, text.toList⟩) :
      Lexer.Alike token.lexeme token.lexeme :=
    .same fun _ name => Lexer.isName_of_mem_tokensFrom member name
  rw [ofText]
  cases tokens : Lexer.tokensFrom (text.toList.length + 1) ⟨.start, text.toList⟩ with
  | nil => exact ⟨.same fun _ impossible => (nomatch impossible), .nil⟩
  | cons first rest =>
    rw [tokens, List.forall_mem_cons] at alike
    exact ⟨alike.1, List.forall₂_same.2 alike.2⟩

/-- A line end behind a text changes nothing about its tokens. -/
theorem ofText_alike_extend (text : String) : (ofText text).Alike (ofText (text ++ "\n")) := by
  have chars : (text ++ "\n").toList = text.toList ++ ['\n'] := String.toList_append
  have more : text.toList.length < (text.toList ++ ['\n']).length + 1 := by
    rw [List.length_append]
    omega
  have alike : List.Forall₂ (fun token other => Lexer.Alike token.lexeme other.lexeme)
      (Lexer.tokensFrom (text.toList.length + 1) ⟨.start, text.toList⟩)
      (Lexer.tokensFrom ((text.toList ++ ['\n']).length + 1) ⟨.start, text.toList ++ ['\n']⟩) :=
    Lexer.tokensFrom_alike (Nat.lt_succ_self _) more
  rw [ofText, ofText, chars]
  revert alike
  generalize Lexer.tokensFrom (text.toList.length + 1) _ = tokens
  generalize Lexer.tokensFrom ((text.toList ++ ['\n']).length + 1) _ = others
  intro alike
  cases alike with
  | nil => exact ⟨.same fun _ impossible => (nomatch impossible), .nil⟩
  | cons first rest => exact ⟨first, rest⟩

end Tokens

end DocumentNormalizer
