import ChartScript.Proofs.RangeValues
import Mathlib.Data.Int.Range

/-!
# Written lists are read back

A list line is written from an operation, a name and at least one item, with blanks, tabs and
commas between them.  An item is a token or a range.  Reading the line gives the operation, the
name and the items in order, with the values of a range in its place.

The ranges are replaced one after the other in the text, before it is cut into tokens, although
a range holds a comma itself.  What stands in front of the next range never holds the opening of
a range, so the next range is the one that is found.
-/

namespace ChartScript

theorem Range.not_separator_of_mem_opening {c : Char} (hc : c ∈ opening) :
    ¬ Separators.contains .blanksAndCommas c = true := by
  have hopening : opening.all (!Separators.contains .blanksAndCommas ·) = true := by decide
  simpa using List.all_eq_true.1 hopening c hc

namespace Text

/-! ## Gaps -/

/-- Blanks, tabs and commas between two parts of a line. -/
structure Gap where
  text : Text
  ne_nil : text ≠ []
  separates : ∀ c ∈ text, Separators.contains .blanksAndCommas c = true

namespace Gap

def ofAll (text : Text) (hne : text ≠ [])
    (hall : text.all (Separators.contains .blanksAndCommas) = true) : Gap :=
  ⟨text, hne, List.all_eq_true.1 hall⟩

def blank : Gap := .ofAll [' '] (List.cons_ne_nil _ _) (by decide)

theorem tokens_append (gap : Gap) (rest : Text) :
    tokens .blanksAndCommas (gap.text ++ rest) = tokens .blanksAndCommas rest :=
  tokens_append_of_separators gap.separates rest

theorem contains_of_head?_append
    (gap : Gap) {rest : Text} {c : Char} (hc : (gap.text ++ rest).head? = some c) :
    Separators.contains .blanksAndCommas c = true := by
  rw [List.head?_append_of_ne_nil _ gap.ne_nil] at hc
  exact gap.separates c (List.mem_of_head? hc)

/-- No range begins in front of a gap and ends behind it. -/
theorem passes (gap : Gap) {front : Text} (hfront : ¬ Range.opening <:+: front) :
    Passes Range.opening (front ++ gap.text) := by
  refine .append_of_forall_not_mem hfront gap.ne_nil fun c hc hmem => ?_
  exact Range.not_separator_of_mem_opening hmem (gap.separates c hc)

theorem not_infix (gap : Gap) {front : Text} (hfront : ¬ Range.opening <:+: front) :
    ¬ Range.opening <:+: front ++ gap.text := by
  have hnil : ¬ Range.opening <:+: [] := by decide
  rwa [← (gap.passes hfront).infix_append_iff, List.append_nil] at hnil

end Gap

end Text

/-! ## Items -/

/-- What a list line holds behind its name. -/
inductive ListItem where
  | plain (word : Text) (hword : word.IsPlainWord)
  | spelled (range : Range) (inner : Text) (hspells : range.Spells inner)
      (hordered : range.low ≤ range.high) (hshort : range.high - range.low + 1 ≤ 100000)

namespace ListItem

def text : ListItem → Text
  | .plain word _ => word
  | .spelled _ inner _ _ _ => Range.opening ++ (inner ++ [')'])

def values : ListItem → List Text
  | .plain word _ => [word]
  | .spelled range _ _ _ _ => (Int.range range.low (range.high + 1)).map Decimal.ofInt

/-- The bounds of a range fit in 64 bits. -/
def Fits : ListItem → Prop
  | .plain _ _ => True
  | .spelled range _ _ _ _ => Range.FitsWord range.low ∧ Range.FitsWord range.high

instance : DecidablePred Fits
  | .plain _ _ => .isTrue trivial
  | .spelled range _ _ _ _ =>
    inferInstanceAs (Decidable (Range.FitsWord range.low ∧ Range.FitsWord range.high))

end ListItem

theorem Range.values_eq_map_range (range : Range) :
    range.values = (Int.range range.low (range.high + 1)).map Decimal.ofInt := by
  have hlength : range.length = range.high + 1 - range.low := by
    unfold length
    omega
  unfold values Int.range
  rw [hlength, List.map_map]
  rfl

namespace ListItem

section

variable (range : Range) (inner : Text) (hspells : range.Spells inner)
    (hordered : range.low ≤ range.high) (hshort : range.high - range.low + 1 ≤ 100000)

@[simp] theorem text_spelled :
    (spelled range inner hspells hordered hshort).text = Range.opening ++ (inner ++ [')']) :=
  rfl

/-- The values of a range are those that the reader takes from it. -/
@[simp] theorem values_spelled :
    (spelled range inner hspells hordered hshort).values = range.values :=
  range.values_eq_map_range.symm

@[simp] theorem fits_spelled :
    (spelled range inner hspells hordered hshort).Fits ↔
      Range.FitsWord range.low ∧ Range.FitsWord range.high :=
  Iff.rfl

end

section

variable {word : Text} (hword : word.IsPlainWord)

@[simp] theorem text_plain : (plain word hword).text = word := rfl

@[simp] theorem values_plain : (plain word hword).values = [word] := rfl

@[simp] theorem fits_plain : (plain word hword).Fits := trivial

end

theorem isWord_of_mem_values (item : ListItem) :
    ∀ word ∈ item.values, Text.IsWord .blanksAndCommas word := by
  intro word hmem
  cases item with
  | plain other hother =>
      rw [values_plain, List.mem_singleton] at hmem
      rw [hmem]
      exact hother.1
  | spelled range inner hspells hordered hshort =>
      rw [values_spelled] at hmem
      exact range.isWord_of_mem_values word hmem

theorem values_ne_nil (item : ListItem) : item.values ≠ [] := by
  cases item with
  | plain word hword => exact List.cons_ne_nil word []
  | spelled range inner hspells hordered hshort =>
      rw [values_spelled]
      exact fun hnil => absurd (Range.values_eq_nil_iff.1 hnil) (Int.not_lt.2 hordered)

theorem not_infix_values (item : ListItem) :
    ¬ Range.opening <:+: Text.joinTokens item.values := by
  cases item with
  | plain word hword =>
      rw [values_plain, Text.joinTokens_singleton]
      exact hword.2
  | spelled range inner hspells hordered hshort =>
      rw [values_spelled]
      exact fun hinside => range.paren_not_mem_joinTokens_values (hinside.subset (by decide))

end ListItem

namespace Range

/-! ## Replacing the ranges -/

theorem firstIn_append
    {front : Text} (hfront : ¬ opening <:+: front) {range : Range} {inner : Text}
    (hspells : range.Spells inner) (rest : Text) :
    FirstIn (front ++ (opening ++ (inner ++ [')']) ++ rest)) front inner rest := by
  refine ⟨?_, hfront, hspells.not_mem (by decide) (by decide) (by decide)⟩
  rw [List.append_assoc, List.append_assoc, List.singleton_append]

/-- Bounds that are spelled are refused for their size only. -/
theorem ofInner_eq_error
    {range : Range} {inner : Text} (hspells : range.Spells inner)
    (hfits : ¬ (FitsWord range.low ∧ FitsWord range.high)) (start inside : Nat) :
    ∃ bound, ofInner start inside inner = .error ⟨some inside, .rangeBoundSize bound⟩ := by
  obtain ⟨low, high, hbounds, hlow, hhigh⟩ := hspells.exists_boundTexts?
  have hbound : ∀ {text : Text} {n : Int}, Decimal.Spells text n → ¬ FitsWord n →
      bound inside text = .error ⟨some inside, .rangeBoundSize text⟩ := by
    intro text n htext hn
    unfold bound
    cases hbetween : Decimal.between? minBound maxBound text with
    | none => rfl
    | some m =>
        obtain ⟨hm, hmin, hmax⟩ := Decimal.between?_eq_some_iff.1 hbetween
        obtain rfl := hm.unique htext
        exact absurd ⟨hmin, hmax⟩ hn
  unfold ofInner
  by_cases hlowFits : FitsWord range.low
  · have hreadLow : bound inside low = .ok range.low :=
      bound_eq_ok_iff.2 ⟨hlow, hlowFits.1, hlowFits.2⟩
    have hreadHigh := hbound hhigh fun hhighFits => hfits ⟨hlowFits, hhighFits⟩
    simp only [hbounds, hreadLow, hreadHigh, bind, Except.bind]
    exact ⟨high, rfl⟩
  · simp only [hbounds, hbound hlow hlowFits, bind, Except.bind]
    exact ⟨low, rfl⟩

theorem expandAll_item
    {item : ListItem} (hfits : item.Fits) {front : Text} (hfront : ¬ opening <:+: front)
    (rest : Text) :
    expandAll (front ++ (item.text ++ rest)) =
      expandAll (front ++ Text.joinTokens item.values ++ rest) := by
  cases item with
  | plain word hword =>
      rw [ListItem.text_plain, ListItem.values_plain, Text.joinTokens_singleton, List.append_assoc]
  | spelled range inner hspells hordered hshort =>
      obtain ⟨hlow, hhigh⟩ := hfits
      have hreadable : range.Readable := readable_iff.2 ⟨hlow, hhigh, hshort⟩
      have hlocate : locate (front ++ (opening ++ (inner ++ [')']) ++ rest)) =
          .ok (some ⟨front, range, rest⟩) :=
        locate_eq_some_iff.2 ⟨inner, firstIn_append hfront hspells rest, hspells, hreadable⟩
      rw [ListItem.text_spelled, ListItem.values_spelled, expandAll_of_locate_eq_some hlocate]
      rfl

/-- The line is refused at an item that does not fit. -/
theorem expandAll_item_eq_error
    {item : ListItem} (hfits : ¬ item.Fits) {front : Text} (hfront : ¬ opening <:+: front)
    (rest : Text) :
    ∃ column bound,
      expandAll (front ++ (item.text ++ rest)) = .error ⟨some column, .rangeBoundSize bound⟩ := by
  cases item with
  | plain word hword => exact absurd (ListItem.fits_plain hword) hfits
  | spelled range inner hspells hordered hshort =>
      rw [ListItem.fits_spelled] at hfits
      obtain ⟨bound, herror⟩ := ofInner_eq_error hspells hfits (front.length + 1)
        (front.length + 1 + opening.length)
      have hlocate := (firstIn_append hfront hspells rest).locate_eq
      rw [herror] at hlocate
      exact ⟨_, bound, expandAll_of_locate_eq_error hlocate⟩

end Range

/-! ## List lines -/

/-- The parts of a list line, each item with the gap in front of it. -/
structure WrittenList where
  operation : ListOperation
  gap : Text.Gap
  name : Text
  name_plain : name.IsPlainWord
  parts : List (Text.Gap × ListItem)
  parts_ne_nil : parts ≠ []

namespace WrittenList

def partsText (parts : List (Text.Gap × ListItem)) : Text :=
  parts.flatMap fun part => part.1.text ++ part.2.text

def expandedText (parts : List (Text.Gap × ListItem)) : Text :=
  parts.flatMap fun part => part.1.text ++ Text.joinTokens part.2.values

def front (list : WrittenList) : Text :=
  ListStatement.keyword ++ ' ' :: (list.operation.word ++ (list.gap.text ++ list.name))

def text (list : WrittenList) : Text := list.front ++ partsText list.parts

def Fits (list : WrittenList) : Prop := ∀ part ∈ list.parts, part.2.Fits

instance (list : WrittenList) : Decidable list.Fits :=
  decidable_of_iff (list.parts.all (fun part => decide part.2.Fits) = true)
    (by simp only [List.all_eq_true, decide_eq_true_eq, Fits])

def statement (list : WrittenList) (number : Nat) : ListStatement :=
  { line := number, operation := list.operation, name := list.name
    tokens := list.parts.flatMap fun part => part.2.values }

/-! ## The text of a list line -/

theorem partsText_cons (gap : Text.Gap) (item : ListItem) (parts : List (Text.Gap × ListItem)) :
    partsText ((gap, item) :: parts) = gap.text ++ (item.text ++ partsText parts) := by
  unfold partsText
  rw [List.flatMap_cons, List.append_assoc]

theorem expandedText_cons
    (gap : Text.Gap) (item : ListItem) (parts : List (Text.Gap × ListItem)) :
    expandedText ((gap, item) :: parts) =
      gap.text ++ (Text.joinTokens item.values ++ expandedText parts) := by
  unfold expandedText
  rw [List.flatMap_cons, List.append_assoc]

theorem not_infix_append_part
    {front : Text} (hfront : ¬ Range.opening <:+: front) (gap : Text.Gap) (item : ListItem) :
    ¬ Range.opening <:+: front ++ gap.text ++ Text.joinTokens item.values := by
  rw [(gap.passes hfront).infix_append_iff]
  exact item.not_infix_values

/-- The text in front grows by the part that was read, and holds no range. -/
theorem expandAll_partsText
    {parts : List (Text.Gap × ListItem)} (hfits : ∀ part ∈ parts, part.2.Fits) {front : Text}
    (hfront : ¬ Range.opening <:+: front) :
    Range.expandAll (front ++ partsText parts) = .ok (front ++ expandedText parts) := by
  induction parts generalizing front with
  | nil =>
      have hdone : ¬ Range.opening <:+: front ++ partsText [] := by
        rw [partsText, List.flatMap_nil, List.append_nil]
        exact hfront
      exact Range.expandAll_of_locate_eq_none (Range.locate_eq_none_iff.2 hdone)
  | cons part parts ih =>
      obtain ⟨gap, item⟩ := part
      obtain ⟨hitem, hrest⟩ := List.forall_mem_cons.1 hfits
      rw [partsText_cons, ← List.append_assoc,
        Range.expandAll_item hitem (gap.not_infix hfront),
        ih hrest (not_infix_append_part hfront gap item), expandedText_cons]
      simp only [List.append_assoc]

theorem expandAll_partsText_eq_error
    {parts : List (Text.Gap × ListItem)} (hfits : ¬ ∀ part ∈ parts, part.2.Fits) {front : Text}
    (hfront : ¬ Range.opening <:+: front) :
    ∃ column bound,
      Range.expandAll (front ++ partsText parts) = .error ⟨some column, .rangeBoundSize bound⟩ := by
  induction parts generalizing front with
  | nil => exact absurd (List.forall_mem_nil _) hfits
  | cons part parts ih =>
      obtain ⟨gap, item⟩ := part
      rw [partsText_cons, ← List.append_assoc]
      by_cases hitem : item.Fits
      · rw [Range.expandAll_item hitem (gap.not_infix hfront)]
        have hrest : ¬ ∀ part ∈ parts, part.2.Fits := fun hrest =>
          hfits (List.forall_mem_cons.2 ⟨hitem, hrest⟩)
        exact ih hrest (not_infix_append_part hfront gap item)
      · exact Range.expandAll_item_eq_error hitem (gap.not_infix hfront) _

theorem not_infix_front (list : WrittenList) : ¬ Range.opening <:+: list.front := by
  have hblank : ' ' ∉ Range.opening := by decide
  have hkeyword := Text.Passes.of_not_infix ListStatement.isPlainWord_keyword.2 hblank
  have hoperation := list.gap.passes list.operation.isPlainWord_word.2
  unfold front
  rw [← List.singleton_append, ← List.append_assoc, hkeyword.infix_append_iff, ← List.append_assoc,
    hoperation.infix_append_iff]
  exact list.name_plain.2

/-! ## The tokens of a list line -/

theorem contains_of_head?_expandedText
    {parts : List (Text.Gap × ListItem)} {c : Char}
    (hc : (expandedText parts).head? = some c) :
    Separators.contains .blanksAndCommas c = true := by
  cases parts with
  | nil => cases hc
  | cons part parts =>
      obtain ⟨gap, item⟩ := part
      rw [expandedText_cons] at hc
      exact gap.contains_of_head?_append hc

theorem tokens_expandedText (parts : List (Text.Gap × ListItem)) :
    Text.tokens .blanksAndCommas (expandedText parts) =
      parts.flatMap fun part => part.2.values := by
  induction parts with
  | nil => rfl
  | cons part parts ih =>
      obtain ⟨gap, item⟩ := part
      rw [expandedText_cons, gap.tokens_append,
        Text.tokens_append_of_head _ fun _ hc => contains_of_head?_expandedText hc,
        Text.tokens_joinTokens item.isWord_of_mem_values, ih, List.flatMap_cons]

theorem tokens_front_append (list : WrittenList) :
    Text.tokens .blanksAndCommas (list.front ++ expandedText list.parts) =
      ListStatement.keyword :: list.operation.word :: list.name ::
        list.parts.flatMap fun part => part.2.values := by
  have hblank : Separators.contains .blanksAndCommas ' ' = true := by decide
  unfold front
  rw [List.append_assoc, List.cons_append,
    Text.tokens_append_separator ListStatement.isPlainWord_keyword.1 hblank, List.append_assoc,
    List.append_assoc,
    Text.tokens_append_of_head _ fun _ hc => list.gap.contains_of_head?_append hc,
    Text.tokens_of_isWord list.operation.isPlainWord_word.1, list.gap.tokens_append,
    Text.tokens_append_of_head _ fun _ hc => contains_of_head?_expandedText hc,
    Text.tokens_of_isWord list.name_plain.1, tokens_expandedText]
  rfl

theorem exists_values_eq_cons (list : WrittenList) :
    ∃ token tokens, (list.parts.flatMap fun part => part.2.values) = token :: tokens := by
  apply List.exists_cons_of_ne_nil
  obtain ⟨part, parts, hparts⟩ := List.exists_cons_of_ne_nil list.parts_ne_nil
  rw [hparts, List.flatMap_cons]
  exact List.append_ne_nil_of_left_ne_nil part.2.values_ne_nil _

end WrittenList

theorem ListOperation.ofWord?_word (operation : ListOperation) :
    ofWord? operation.word = some operation := by
  cases operation <;> rfl

namespace WrittenList

/-- A written list is read back if its bounds fit in 64 bits, and refused for the size of a
bound otherwise. -/
theorem read_writtenList (list : WrittenList) (number : Nat) :
    (list.Fits → ListStatement.read ⟨number, list.text⟩ = .ok (list.statement number)) ∧
      (¬ list.Fits → ∃ column bound, ListStatement.read ⟨number, list.text⟩ =
        .error (.malformed number ⟨some column, .rangeBoundSize bound⟩)) := by
  refine ⟨fun hfits => ?_, fun hfits => ?_⟩
  · have hexpanded := expandAll_partsText hfits list.not_infix_front
    have htokens := list.tokens_front_append
    obtain ⟨token, tokens, hvalues⟩ := list.exists_values_eq_cons
    rw [hvalues] at htokens
    unfold ListStatement.read text statement
    simp only [hexpanded, htokens, ListOperation.ofWord?_word, hvalues]
  · obtain ⟨column, bound, herror⟩ := expandAll_partsText_eq_error hfits list.not_infix_front
    refine ⟨column, bound, ?_⟩
    unfold ListStatement.read text
    simp only [herror]

theorem isPlainWord_listName : Text.IsPlainWord ['L'] :=
  ⟨Text.isWord_of_all (by decide) (by decide), by decide⟩

/-- Items of both kinds, with signs, zeros and white space in a range, and mixed gaps. -/
def mixedList : WrittenList where
  operation := .add
  gap := .ofAll [' '] (List.cons_ne_nil _ _) (by decide)
  name := ['L']
  name_plain := isPlainWord_listName
  parts :=
    [(.ofAll [',', '\t'] (List.cons_ne_nil _ _) (by decide),
        .spelled ⟨-1, 2⟩ " -01\t,+2 ".toList
          (Range.ofInner_eq_ok_iff.1 (rfl : Range.ofInner 0 0 _ = .ok _)).1 (by decide)
          (by decide)),
      (.ofAll [',', ' ', ','] (List.cons_ne_nil _ _) (by decide),
        .plain ['L'] isPlainWord_listName)]
  parts_ne_nil := List.cons_ne_nil _ _

/-- A range of one value, which does not fit in 64 bits. -/
def oversizedList : WrittenList where
  operation := .new
  gap := .ofAll [' '] (List.cons_ne_nil _ _) (by decide)
  name := ['L']
  name_plain := isPlainWord_listName
  parts :=
    [(.ofAll [' '] (List.cons_ne_nil _ _) (by decide),
        .spelled ⟨9223372036854775808, 9223372036854775808⟩ _ (Range.spells_innerText _)
          (by decide) (by decide))]
  parts_ne_nil := List.cons_ne_nil _ _

theorem read_writtenList_mixedList :
    (mixedList.Fits ∧ mixedList.text = "LIST ADD L,\tRANGE( -01\t,+2 ), ,L".toList ∧
      ListStatement.read ⟨3, mixedList.text⟩ =
        .ok ⟨3, .add, ['L'], [['-', '1'], ['0'], ['1'], ['2'], ['L']]⟩) ∧
      ¬ oversizedList.Fits ∧ ∃ column bound, ListStatement.read ⟨1, oversizedList.text⟩ =
        .error (.malformed 1 ⟨some column, .rangeBoundSize bound⟩) := by
  have hfits : mixedList.Fits := by decide
  have hoversized : ¬ oversizedList.Fits := by decide
  have hstatement : mixedList.statement 3 =
      ⟨3, .add, ['L'], [['-', '1'], ['0'], ['1'], ['2'], ['L']]⟩ := by
    decide +kernel
  refine ⟨⟨hfits, by decide +kernel, ?_⟩, hoversized,
    (read_writtenList oversizedList 1).2 hoversized⟩
  rw [← hstatement]
  exact (read_writtenList mixedList 3).1 hfits

/-- A range may be short and still hold numbers that are too large. -/
theorem not_forall_read_writtenList :
    oversizedList.text =
        "LIST NEW L RANGE(9223372036854775808,9223372036854775808)".toList ∧
      ¬ ∀ (list : WrittenList) (number : Nat),
        ListStatement.read ⟨number, list.text⟩ = .ok (list.statement number) := by
  refine ⟨by decide +kernel, fun hall => ?_⟩
  have hoversized : ¬ oversizedList.Fits := by decide
  obtain ⟨column, bound, herror⟩ :=
    expandAll_partsText_eq_error hoversized oversizedList.not_infix_front
  have hread := hall oversizedList 1
  unfold ListStatement.read text at hread
  simp only [herror] at hread
  cases hread

end WrittenList

end ChartScript
