import DocumentNormalizer.Console.Screen
import DocumentNormalizer.Proofs.Anchoring
import DocumentNormalizer.Proofs.Building

namespace DocumentNormalizer

namespace Text

/-- The columns that a text takes if each character takes one or more. -/
def room : List Char → Nat
  | [] => 0
  | c :: rest => max 1 (columns c) + room rest

theorem room_cons (c : Char) (text : List Char) : room (c :: text) = max 1 (columns c) + room text := rfl

theorem room_append (text rest : List Char) : room (text ++ rest) = room text + room rest := by
  induction text with
  | nil => exact (Nat.zero_add _).symm
  | cons c text ih => rw [List.cons_append, room_cons, ih, room_cons, Nat.add_assoc]

theorem length_le_room (text : List Char) : text.length ≤ room text := by
  induction text with
  | nil => exact Nat.le_refl _
  | cons c rest ih =>
    rw [room_cons, List.length_cons]
    omega

theorem widthFrom_le_room (last : Option Char) (text : List Char) :
    widthFrom last text ≤ room text := by
  fun_induction widthFrom last text with
  | case1 => exact Nat.zero_le _
  | case2 => exact Nat.zero_le _
  | case3 last c rest ih =>
    rw [room_cons, room_cons]
    omega
  | case4 last rest ih =>
    rw [room_cons]
    split <;> omega
  | case5 last c rest _ _ ih =>
    rw [room_cons]
    omega

theorem width_le_room (text : List Char) : width text ≤ room text := widthFrom_le_room none text

theorem room_trimRight_le (text : List Char) : room (trimRight text) ≤ room text := by
  have front : trimRight text <+: text := by
    rw [trimRight, ← List.reverse_suffix, List.reverse_reverse]
    exact List.dropWhile_suffix _
  obtain ⟨rest, whole⟩ := front
  have parted := congrArg room whole
  rw [room_append] at parted
  omega

theorem expandTabs_of_not_mem {text : List Char} (plain : '\t' ∉ text) : expandTabs text = text := by
  have each : ∀ line ∈ parts '\n' text, joinTabbed 0 (parts '\t' line) = line := by
    intro line member
    have absent : '\t' ∉ line := fun tab => plain ((of_mem_parts member).2 tab)
    rw [parts_of_not_mem absent]
    rfl
  rw [expandTabs, List.map_congr_left each, List.map_id']
  exact intercalate_parts '\n' text

end Text

namespace Wrap

theorem flatten_prependToWords (c : Char) (words : List (List Char)) :
    (prependToWords c words).flatten = c :: words.flatten := by
  cases words with
  | nil => rfl
  | cons word others =>
    rw [prependToWords]
    split <;> rfl

theorem flatten_words (line : List Char) : (words line).flatten = line := by
  have folded : (line.foldr prependToWords []).flatten = line := by
    induction line with
    | nil => rfl
    | cons c rest ih => rw [List.foldr_cons, flatten_prependToWords, ih]
  rw [words]
  split
  · next first second others same =>
    rw [same] at folded
    split
    · rw [← folded]
      simp
    · exact folded
  · exact folded

theorem breakWords_of_room {limit : Nat} {line : List Char} {used : Nat} {words : List (List Char)}
    (short : used + Text.room words.flatten ≤ limit) :
    breakWords limit line used words = [line ++ words.flatten] := by
  induction words generalizing line used with
  | nil => rw [breakWords, List.flatten_nil, List.append_nil]
  | cons word rest ih =>
    rw [List.flatten_cons, Text.room_append] at short
    have whole := Text.width_le_room word
    have trimmed := Text.width_le_room (Text.trimRight word)
    have less := Text.room_trimRight_le word
    rw [breakWords]
    dsimp only
    rw [if_pos (by omega), ih (by omega), List.append_assoc]
    rfl

theorem fitted_of_room {limit : Nat} {line : List Char} (short : Text.room line ≤ limit) :
    fitted limit line = line := by
  have length := Nat.le_trans (Text.length_le_room line) short
  have kept : trimmed limit line = line := by
    rw [trimmed, Nat.sub_eq_zero_of_le length, Nat.min_zero, Nat.sub_zero, List.take_length]
  rw [fitted, kept]
  exact if_pos (Nat.le_trans (Text.width_le_room line) short)

theorem lines_of_room {limit : Nat} {line : List Char} (short : Text.room line ≤ limit) :
    lines limit line = [line] := by
  have whole := flatten_words line
  rw [lines, breakWords_of_room (by rw [whole]; omega), whole]
  exact congrArg ([·]) (fitted_of_room short)

end Wrap

namespace Pictograph

/-- No name of a pictograph stands between colons. -/
def IsFree (text : List Char) : Prop :=
  ∀ rest, ':' :: rest <:+ text → ∀ found, name? rest = some found → ofName? found.1 = none

theorem IsFree.of_suffix {text rest : List Char} (free : IsFree text) (behind : rest <:+ text) :
    IsFree rest :=
  fun others suffix => free others (suffix.trans behind)

theorem expand_of_isFree {text : List Char} (free : IsFree text) : expand text = text := by
  fun_induction expand text with
  | case1 => rfl
  | case2 c rest _ ih => rw [ih (free.of_suffix (List.suffix_cons c rest))]
  | case3 c rest name form taken found ih =>
    have behind : rest.drop taken <:+ c :: rest :=
      (List.drop_suffix taken rest).trans (List.suffix_cons c rest)
    have none : ofName? name = none := by
      split at found
      · next colon =>
        rw [colon] at free
        exact free rest List.suffix_rfl _ found
      · cases found
    rw [none, ih (free.of_suffix behind)]
    show c :: rest.take taken ++ rest.drop taken = c :: rest
    rw [List.cons_append, List.take_append_drop]

end Pictograph

namespace Screen

/-- A text that a console with the given number of columns shows as it stands. -/
structure IsPlain (columns : Nat) (text : String) : Prop where
  visible : ∀ c ∈ text.toList, isLeftOut c = false ∧ c ≠ '\t'
  free : Pictograph.IsFree text.toList
  wide : 0 < columns
  short : ∀ line ∈ Text.parts '\n' text.toList, Text.room line ≤ columns

theorem plain_of_isPlain {columns : Nat} {text : String} (fits : IsPlain columns text) :
    plain text = text := by
  have kept : text.toList.filter (!isLeftOut ·) = text.toList := by
    apply List.filter_eq_self.2
    intro c member
    rw [(fits.visible c member).1]
    rfl
  have untabbed : '\t' ∉ text.toList := fun member => (fits.visible _ member).2 rfl
  rw [plain, Pictograph.expand_of_isFree fits.free, String.ofList_toList, visible, kept,
    Text.expandTabs_of_not_mem untabbed, String.ofList_toList]

theorem drawn_of_isPlain {columns : Nat} {text : String} (fits : IsPlain columns text) :
    drawn columns text = text ++ "\n" := by
  have whole : (Text.parts '\n' text.toList).flatMap (Wrap.lines columns) =
      Text.parts '\n' text.toList := by
    have each : ∀ line ∈ Text.parts '\n' text.toList, Wrap.lines columns line = [line] :=
      fun line member => Wrap.lines_of_room (fits.short line member)
    rw [List.flatMap_congr each, List.flatMap_singleton']
  rw [drawn, if_neg (Nat.ne_of_gt fits.wide), wrapped, whole, Text.intercalate_parts,
    String.ofList_toList]

example : drawn 8 "query Page" = "query \nPage\n" := by decide +kernel

end Screen

end DocumentNormalizer
