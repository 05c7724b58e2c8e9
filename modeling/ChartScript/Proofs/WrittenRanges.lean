import ChartScript.Proofs.ExpressionShape
import ChartScript.Proofs.SpelledBounds
import ChartScript.Proofs.Substitution
import ChartScript.Proofs.WrittenDirectives
import ChartScript.Segment

/-!
# Ranges are read back

A range whose bounds fit in 64 bits and that is not too long is found where it is written,
unless the text in front of it holds the opening of a range itself.  So the header

    FOR variable IN RANGE(low,high)

is read as a loop over the values of the range.
-/

namespace ChartScript

/-! ## The first occurrence -/

namespace Text

theorem cut?_go_eq (pattern passed text : Text) :
    cut?.go pattern passed text =
      (cut?.go pattern [] text).map fun found => (passed.reverse ++ found.1, found.2) := by
  induction text generalizing passed with
  | nil =>
      unfold cut?.go
      cases after? pattern [] <;> simp
  | cons c rest ih =>
      unfold cut?.go
      cases after? pattern (c :: rest) with
      | some after => simp
      | none =>
          simp only
          rw [ih (c :: passed), ih [c], Option.map_map]
          congr 1
          funext found
          simp

theorem cut?_append_self (pattern rest : Text) :
    cut? pattern (pattern ++ rest) = some ([], rest) := by
  unfold cut? cut?.go
  rw [after?_eq_some_iff.2 rfl]
  rfl

theorem cut?_cons_of_not_begins
    {pattern rest : Text} {c : Char} (hnot : ¬ pattern <+: c :: rest) :
    cut? pattern (c :: rest) = (cut? pattern rest).map fun found => (c :: found.1, found.2) := by
  have hafter : after? pattern (c :: rest) = none := by
    rw [Option.eq_none_iff_forall_ne_some]
    intro after hsome
    exact hnot ⟨after, (after?_eq_some_iff.1 hsome).symm⟩
  unfold cut?
  rw [cut?.go, hafter]
  exact cut?_go_eq pattern [c] rest

theorem cut?_eq_none_iff {pattern text : Text} :
    cut? pattern text = none ↔ ¬ pattern <:+: text := by
  induction text with
  | nil =>
      unfold cut? cut?.go
      cases pattern <;> simp [after?]
  | cons c rest ih =>
      rw [List.infix_cons_iff]
      by_cases hbegins : pattern <+: c :: rest
      · obtain ⟨after, htext⟩ := hbegins
        rw [← htext, cut?_append_self]
        simp
      · rw [cut?_cons_of_not_begins hbegins, Option.map_eq_none_iff, ih]
        simp [hbegins]

/-- The search goes on behind a text without an occurrence and a character that is in none. -/
theorem cut?_append_cons
    {pattern : Text} {c : Char} (hc : c ∉ pattern) {front : Text} (hfront : ¬ pattern <:+: front)
    (rest : Text) :
    cut? pattern (front ++ c :: rest) =
      (cut? pattern rest).map fun found => (front ++ c :: found.1, found.2) := by
  induction front with
  | nil =>
      have hnot : ¬ pattern <+: c :: rest := fun hbegins =>
        hfront (begins_of_begins_append_cons hc [] rest hbegins).isInfix
      exact cut?_cons_of_not_begins hnot
  | cons d front ih =>
      have hnot : ¬ pattern <+: d :: (front ++ c :: rest) := fun hbegins =>
        hfront (begins_of_begins_append_cons hc (d :: front) rest hbegins).isInfix
      have hrest := ih fun hinside => hfront (hinside.trans (List.suffix_cons d front).isInfix)
      rw [List.cons_append, cut?_cons_of_not_begins hnot, hrest, Option.map_map]
      rfl

/-! ## Words in front of a text -/

/-- A token of a line in which no range is left: it holds no separator and no opening of a
range. -/
def IsPlainWord (word : Text) : Prop :=
  IsWord .blanksAndCommas word ∧ ¬ Range.opening <:+: word

/-- Words with a blank behind each of them, and then a text. -/
def leading (words : List Text) (rest : Text) : Text :=
  words.foldr (fun word rest => word ++ ' ' :: rest) rest

theorem leading_append (words : List Text) (first second : Text) :
    leading words first ++ second = leading words (first ++ second) := by
  induction words with
  | nil => rfl
  | cons word words ih =>
      unfold leading at ih ⊢
      rw [List.foldr_cons, List.append_assoc, List.cons_append, ih]
      rfl

theorem tokens_leading
    {words : List Text} (hwords : ∀ word ∈ words, word.IsPlainWord) (rest : Text) :
    tokens .blanksAndCommas (leading words rest) = words ++ tokens .blanksAndCommas rest := by
  have hblank : Separators.contains .blanksAndCommas ' ' = true := by decide
  induction words with
  | nil => rfl
  | cons word words ih =>
      have hrest := ih fun other hother => hwords other (List.mem_cons_of_mem word hother)
      unfold leading at hrest ⊢
      rw [List.foldr_cons, tokens_append_separator (hwords word List.mem_cons_self).1 hblank,
        hrest, List.cons_append]

/-- No range begins in the words. -/
theorem cut?_leading
    {words : List Text} (hwords : ∀ word ∈ words, word.IsPlainWord) (rest : Text) :
    cut? Range.opening (leading words rest) =
      (cut? Range.opening rest).map fun found => (leading words found.1, found.2) := by
  have hblank : ' ' ∉ Range.opening := by decide
  induction words with
  | nil =>
      unfold leading
      simp
  | cons word words ih =>
      have hrest := ih fun other hother => hwords other (List.mem_cons_of_mem word hother)
      unfold leading at hrest ⊢
      rw [List.foldr_cons, cut?_append_cons hblank (hwords word List.mem_cons_self).2, hrest,
        Option.map_map]
      rfl

end Text

/-! ## Reading the bounds -/

namespace Range

/-- The bounds fit in 64 bits, and there are not too many values. -/
structure Readable (range : Range) : Prop where
  minBound_le : minBound ≤ range.low ∧ minBound ≤ range.high
  le_maxBound : range.low ≤ maxBound ∧ range.high ≤ maxBound
  length_le : range.length ≤ maxLength

theorem bound_eq_ok_iff {column : Nat} {text : Text} {n : Int} :
    bound column text = .ok n ↔ Decimal.Spells text n ∧ minBound ≤ n ∧ n ≤ maxBound := by
  rw [← Decimal.between?_eq_some_iff]
  unfold bound
  cases Decimal.between? minBound maxBound text <;> simp

theorem ofInner_eq_ok_iff {start inside : Nat} {inner : Text} {range : Range} :
    ofInner start inside inner = .ok range ↔ range.Spells inner ∧ range.Readable := by
  unfold ofInner
  constructor
  · intro hread
    split at hread
    · cases hread
    · next lowText highText hbounds =>
      obtain ⟨low, hlow, hread⟩ := bind_eq_ok_iff.1 hread
      obtain ⟨high, hhigh, hread⟩ := bind_eq_ok_iff.1 hread
      dsimp only at hread
      split at hread
      · cases hread
      · next hlength =>
        obtain rfl := Except.ok.inj hread
        obtain ⟨hspellsLow, hminLow, hmaxLow⟩ := bound_eq_ok_iff.1 hlow
        obtain ⟨hspellsHigh, hminHigh, hmaxHigh⟩ := bound_eq_ok_iff.1 hhigh
        obtain ⟨before, behind, ahead, after, hbefore, hbehind, hahead, hafter, rfl⟩ :=
          eq_append_of_boundTexts? hbounds
        exact ⟨.mk hbefore hspellsLow hbehind hahead hspellsHigh hafter,
          ⟨⟨hminLow, hminHigh⟩, ⟨hmaxLow, hmaxHigh⟩, Int.not_lt.1 hlength⟩⟩
  · rintro ⟨hspells, ⟨hminLow, hminHigh⟩, ⟨hmaxLow, hmaxHigh⟩, hlength⟩
    obtain ⟨lowText, highText, hbounds, hlow, hhigh⟩ := hspells.exists_boundTexts?
    have hreadLow : bound inside lowText = .ok range.low :=
      bound_eq_ok_iff.2 ⟨hlow, hminLow, hmaxLow⟩
    have hreadHigh : bound inside highText = .ok range.high :=
      bound_eq_ok_iff.2 ⟨hhigh, hminHigh, hmaxHigh⟩
    simp only [hbounds, hreadLow, hreadHigh, bind, Except.bind]
    exact if_neg (Int.not_lt.2 hlength)

def innerText (range : Range) : Text :=
  Decimal.ofInt range.low ++ ',' :: Decimal.ofInt range.high

def text (range : Range) : Text := opening ++ range.innerText ++ [')']

theorem spells_innerText (range : Range) : range.Spells range.innerText := by
  have hspace : Text.IsSpace [] := by decide
  have hspells := Spells.mk hspace (.ofInt range.low) hspace hspace (.ofInt range.high) hspace
  rw [List.append_nil] at hspells
  exact hspells

theorem ofInner_innerText {range : Range} (hrange : range.Readable) (start inside : Nat) :
    ofInner start inside range.innerText = .ok range :=
  ofInner_eq_ok_iff.2 ⟨range.spells_innerText, hrange⟩

theorem paren_not_mem_innerText (range : Range) : ')' ∉ range.innerText :=
  range.spells_innerText.not_mem (by decide) (by decide) (by decide)

theorem locate_eq_none_iff {line : Text} : locate line = .ok none ↔ ¬ opening <:+: line := by
  rw [← Text.cut?_eq_none_iff]
  unfold locate
  cases Text.cut? opening line with
  | none => simp
  | some found =>
      simp only [reduceCtorEq, iff_false]
      intro hnone
      split at hnone
      · cases hnone
      · obtain ⟨range, _, heq⟩ := map_eq_ok_iff.1 hnone
        cases heq

/-- What is found is read from the text up to the first closing parenthesis. -/
theorem exists_of_locate
    {line : Text} {occurrence : RangeOccurrence}
    (hlocate : locate line = .ok (some occurrence)) :
    ∃ start inside inner, ')' ∉ inner ∧ ofInner start inside inner = .ok occurrence.range ∧
      Text.cut? opening line = some (occurrence.before, inner ++ ')' :: occurrence.after) := by
  unfold locate at hlocate
  split at hlocate
  · cases Except.ok.inj hlocate
  · next before rest hcut =>
      simp only at hlocate
      split at hlocate
      · cases hlocate
      · next c after hafter =>
          obtain ⟨range, hrange, heq⟩ := map_eq_ok_iff.1 hlocate
          obtain rfl := Option.some.inj heq
          refine ⟨_, _, _, Text.not_mem_takeWhile_bne ')' rest, hrange, ?_⟩
          rw [hcut, ← Text.eq_of_dropWhile_ne hafter]

/-- The first range of a line is found and read. -/
theorem locate_append_text
    {range : Range} (hrange : range.Readable) {line front : Text}
    (hcut : Text.cut? opening line = some (front, range.innerText ++ [')'])) :
    locate line = .ok (some { before := front, range, after := [] }) := by
  have hparen := range.paren_not_mem_innerText
  have htake := Text.takeWhile_bne_append hparen []
  have hdrop := Text.dropWhile_bne_append hparen []
  unfold locate
  simp only [hcut, htake, hdrop, ofInner_innerText hrange]
  rfl

theorem valuesIn_append_text
    {range : Range} (hrange : range.Readable) {line front : Text}
    (hcut : Text.cut? opening line = some (front, range.innerText ++ [')'])) :
    valuesIn line = .ok range.values := by
  unfold valuesIn
  rw [locate_append_text hrange hcut]

end Range

/-! ## Headers -/

namespace Loop

def headerWord : Text := ['F', 'O', 'R']

/-- The header of a loop over what `source` stands for. -/
def headerOver (var source : Text) : Text :=
  Text.leading [headerWord, var, LoopSource.inWord] source

/-- The header of a loop over a range. -/
def headerText (var : Text) (range : Range) : Text :=
  headerWord ++ ' ' :: (var ++ ' ' :: (LoopSource.inWord ++ ' ' :: range.text))

theorem headerOver_text (var : Text) (range : Range) :
    headerOver var range.text = headerText var range :=
  rfl

theorem isWord_ofInt (n : Int) : Text.IsWord .blanksAndCommas (Decimal.ofInt n) :=
  Text.isWord_blanksAndCommas_iff.2
    ⟨Directive.isWord_ofInt n, Decimal.not_mem_ofInt (by decide) (by decide) n⟩

theorem isPlainWord_of_mem_header
    {var word : Text} (hvar : var.IsPlainWord)
    (hword : word ∈ [headerWord, var, LoopSource.inWord]) :
    word.IsPlainWord := by
  simp only [List.mem_cons, List.not_mem_nil, or_false] at hword
  rcases hword with rfl | rfl | rfl
  · exact ⟨Text.isWord_of_all (by decide) (by decide), by decide⟩
  · exact hvar
  · exact ⟨Text.isWord_of_all (by decide) (by decide), by decide⟩

theorem tokens_headerOver {var : Text} (hvar : var.IsPlainWord) (source : Text) :
    Text.tokens .blanksAndCommas (headerOver var source) =
      [headerWord, var, LoopSource.inWord] ++ Text.tokens .blanksAndCommas source :=
  Text.tokens_leading (fun _ hword => isPlainWord_of_mem_header hvar hword) source

theorem tokens_rangeText (range : Range) :
    Text.tokens .blanksAndCommas range.text =
      [Range.opening ++ Decimal.ofInt range.low, Decimal.ofInt range.high ++ [')']] := by
  have hcomma : Separators.contains .blanksAndCommas ',' = true := by decide
  have hlow : Text.IsWord .blanksAndCommas (Range.opening ++ Decimal.ofInt range.low) :=
    (Text.isWord_of_all (by decide) (by decide)).append (isWord_ofInt range.low)
  have hhigh : Text.IsWord .blanksAndCommas (Decimal.ofInt range.high ++ [')']) :=
    (isWord_ofInt range.high).append (Text.isWord_of_all (by decide) (by decide))
  have htext : range.text = (Range.opening ++ Decimal.ofInt range.low) ++
      ',' :: (Decimal.ofInt range.high ++ [')']) := by
    simp [Range.text, Range.innerText]
  rw [htext, Text.tokens_append_separator hlow hcomma, Text.tokens_of_isWord hhigh]

theorem readHeader_headerText
    {var : Text} (hvar : Text.IsWord .blanksAndCommas var) (hopening : ¬ Range.opening <:+: var)
    {range : Range} (hrange : range.Readable) :
    readHeader (headerText var range) = .ok (var, .range range.values) := by
  have hcut : Text.cut? Range.opening (headerOver var range.text) =
      some (headerOver var [], range.innerText ++ [')']) := by
    unfold headerOver
    rw [Text.cut?_leading fun _ hword => isPlainWord_of_mem_header ⟨hvar, hopening⟩ hword,
      Range.text, List.append_assoc, Text.cut?_append_self]
    rfl
  have hvalues := Range.valuesIn_append_text hrange hcut
  have hprefix : Range.opening.isPrefixOf (Range.opening ++ Decimal.ofInt range.low) = true :=
    List.isPrefixOf_iff_prefix.2 (List.prefix_append _ _)
  rw [← headerOver_text]
  unfold readHeader
  simp only [tokens_headerOver ⟨hvar, hopening⟩, tokens_rangeText, List.cons_append,
    List.nil_append, if_true, LoopSource.ofTokens, hprefix, hvalues]
  rfl

theorem ofLine_headerOver (var source : Text) : Keyword.ofLine (headerOver var source) = .loop := by
  have hheader : Text.IsWord .blanks headerWord := Text.isWord_of_all (by decide) (by decide)
  exact Keyword.ofLine_of_tokens (Text.tokens_append_separator hheader (by decide) _)

theorem ofLine_headerText (var : Text) (range : Range) :
    Keyword.ofLine (headerText var range) = .loop :=
  ofLine_headerOver var range.text

end Loop

end ChartScript
