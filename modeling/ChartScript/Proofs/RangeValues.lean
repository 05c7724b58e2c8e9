import ChartScript.Proofs.RangesInOnePass

/-!
# The values of a range

The values of a line are those of its first range.  They are there exactly if the parentheses of
that range hold two numbers of 64 bits that span at most 100000 values; the span itself is
computed without a limit, so that no pair of bounds wraps around.  The values are the numbers
from the lower bound to the upper one, each of them once and in its shortest spelling.
-/

namespace ChartScript

namespace Text

/-- The first occurrence of a pattern that holds its first character once. -/
theorem cut?_append_head
    {x : Char} {name : Text} (hx : x ∉ name) {front : Text} (hfront : ¬ x :: name <:+: front)
    (rest : Text) :
    cut? (x :: name) (front ++ (x :: name ++ rest)) = some (front, rest) := by
  induction front with
  | nil => exact cut?_append_self (x :: name) rest
  | cons c front ih =>
      rw [List.infix_cons_iff, not_or] at hfront
      have hnot : ¬ x :: name <+: c :: (front ++ (x :: name ++ rest)) := fun hbegins =>
        hfront.1 (begins_of_begins_append_head hx (List.cons_ne_nil c front) hbegins)
      rw [List.cons_append, cut?_cons_of_not_begins hnot, ih hfront.2]
      rfl

end Text

namespace Range

/-! ## The first range of a line -/

theorem cut?_opening {front : Text} (hfront : ¬ opening <:+: front) (rest : Text) :
    Text.cut? opening (front ++ (opening ++ rest)) = some (front, rest) :=
  Text.cut?_append_head (by decide) hfront rest

/-- What stands in front of the first range of a line, between its parentheses, and behind. -/
structure FirstIn (line before inner after : Text) : Prop where
  line_eq : line = before ++ (opening ++ (inner ++ ')' :: after))
  not_infix : ¬ opening <:+: before
  closes : ')' ∉ inner

namespace FirstIn

variable {line before inner after : Text}

theorem cut?_eq (hfirst : FirstIn line before inner after) :
    Text.cut? opening line = some (before, inner ++ ')' :: after) := by
  rw [hfirst.line_eq]
  exact cut?_opening hfirst.not_infix _

theorem unique
    (hfirst : FirstIn line before inner after) {before' inner' after' : Text}
    (hother : FirstIn line before' inner' after') :
    before = before' ∧ inner = inner' ∧ after = after' := by
  have hsame := hfirst.cut?_eq.symm.trans hother.cut?_eq
  obtain ⟨hbefore, hrest⟩ := Prod.mk.inj (Option.some.inj hsame)
  have hinner := congrArg (List.takeWhile (· != ')')) hrest
  rw [Text.takeWhile_bne_append hfirst.closes, Text.takeWhile_bne_append hother.closes] at hinner
  subst hinner
  exact ⟨hbefore, rfl, (List.cons.inj (List.append_cancel_left hrest)).2⟩

theorem locate_eq (hfirst : FirstIn line before inner after) :
    locate line =
      (ofInner (before.length + 1) (before.length + 1 + opening.length) inner).map
        fun range => some { before, range, after } := by
  unfold locate
  simp only [hfirst.cut?_eq, Text.dropWhile_bne_append hfirst.closes,
    Text.takeWhile_bne_append hfirst.closes]

end FirstIn

/-! ## Reading the first range -/

/-- A range is found exactly if it is the first one and can be read. -/
theorem locate_eq_some_iff {line : Text} {occurrence : RangeOccurrence} :
    locate line = .ok (some occurrence) ↔
      ∃ inner, FirstIn line occurrence.before inner occurrence.after ∧
        occurrence.range.Spells inner ∧ occurrence.range.Readable := by
  constructor
  · intro hlocate
    obtain ⟨start, inside, inner, hinner, hread, hcut⟩ := exists_of_locate hlocate
    have hline := Text.eq_of_cut?_eq_some hcut
    rw [List.append_assoc] at hline
    exact ⟨inner, ⟨hline, Text.not_infix_of_cut?_eq_some opening_ne_nil hcut, hinner⟩,
      ofInner_eq_ok_iff.1 hread⟩
  · rintro ⟨inner, hfirst, hreads⟩
    rw [hfirst.locate_eq, ofInner_eq_ok_iff.2 hreads]
    rfl

theorem valuesIn_eq_ok_iff {line : Text} {values : List Text} :
    valuesIn line = .ok values ↔
      ∃ occurrence, locate line = .ok (some occurrence) ∧ values = occurrence.range.values := by
  unfold valuesIn
  constructor
  · intro hvalues
    split at hvalues
    · cases hvalues
    · cases hvalues
    · next occurrence hlocate => exact ⟨occurrence, hlocate, (Except.ok.inj hvalues).symm⟩
  · rintro ⟨occurrence, hlocate, rfl⟩
    rw [hlocate]

theorem FirstIn.valuesIn_eq
    {line before inner after : Text} {range : Range} (hfirst : FirstIn line before inner after)
    (hspells : range.Spells inner) (hreadable : range.Readable) :
    valuesIn line = .ok range.values := by
  have hlocate : locate line = .ok (some { before, range, after }) :=
    locate_eq_some_iff.2 ⟨inner, hfirst, hspells, hreadable⟩
  exact valuesIn_eq_ok_iff.2 ⟨_, hlocate, rfl⟩

/-! ## The values -/

/-- A signed number of 64 bits. -/
def FitsWord (n : Int) : Prop := -9223372036854775808 ≤ n ∧ n ≤ 9223372036854775807

instance (n : Int) : Decidable (FitsWord n) := inferInstanceAs (Decidable (_ ∧ _))

theorem readable_iff {range : Range} :
    range.Readable ↔
      FitsWord range.low ∧ FitsWord range.high ∧ range.high - range.low + 1 ≤ 100000 := by
  unfold FitsWord
  constructor
  · rintro ⟨⟨hlow, hhigh⟩, ⟨hlow', hhigh'⟩, hlength⟩
    unfold minBound at hlow hhigh
    unfold maxBound at hlow' hhigh'
    unfold length maxLength at hlength
    omega
  · rintro ⟨⟨hlow, hlow'⟩, ⟨hhigh, hhigh'⟩, hlength⟩
    refine ⟨?_, ?_, ?_⟩
    · unfold minBound
      omega
    · unfold maxBound
      omega
    · unfold length maxLength
      omega

/-- The texts are the numbers from `low` to `high` in order, each in its shortest spelling. -/
structure ListsFrom (low high : Int) (values : List Text) : Prop where
  length_eq : (values.length : Int) = max 0 (high - low + 1)
  getElem_eq : ∀ i (hi : i < values.length), values[i] = Decimal.ofInt (low + i)
  shortest : ∀ i (hi : i < values.length), Decimal.Shortest values[i] (low + i)

theorem listsFrom_values (range : Range) : ListsFrom range.low range.high range.values := by
  have hvalue : ∀ i (hi : i < range.values.length),
      range.values[i] = Decimal.ofInt (range.low + i) := by
    intro i hi
    simp [values]
  refine ⟨?_, hvalue, ?_⟩
  · unfold values length
    rw [List.length_map, List.length_range, Int.ofNat_toNat, Int.max_comm]
  · intro i hi
    rw [hvalue i hi]
    exact Decimal.shortest_ofInt _

/-- Where the first range of a line holds two numbers, its values are read exactly if both fit in
64 bits and do not span too much; any other line is refused.  For a line is read as the one range
that it spells, or not at all. -/
theorem valuesIn_first (line : Text) :
    (∀ before inner after (range : Range), FirstIn line before inner after → range.Spells inner →
      ((∃ values, valuesIn line = .ok values) ↔
          FitsWord range.low ∧ FitsWord range.high ∧ range.high - range.low + 1 ≤ 100000) ∧
        ∀ values, valuesIn line = .ok values → ListsFrom range.low range.high values) ∧
      ((¬ ∃ before inner after, ∃ range : Range, FirstIn line before inner after ∧
          range.Spells inner) →
        ∃ error, valuesIn line = .error error) := by
  refine ⟨?_, ?_⟩
  · intro before inner after range hfirst hspells
    have hread : ∀ values, valuesIn line = .ok values ↔
        range.Readable ∧ values = range.values := by
      intro values
      rw [valuesIn_eq_ok_iff]
      constructor
      · rintro ⟨occurrence, hlocate, rfl⟩
        obtain ⟨inner', hfirst', hspells', hreadable⟩ := locate_eq_some_iff.1 hlocate
        obtain ⟨_, rfl, _⟩ := hfirst.unique hfirst'
        obtain rfl := hspells.unique hspells'
        exact ⟨hreadable, rfl⟩
      · rintro ⟨hreadable, rfl⟩
        exact valuesIn_eq_ok_iff.1 (hfirst.valuesIn_eq hspells hreadable)
    refine ⟨?_, ?_⟩
    · rw [← readable_iff]
      constructor
      · rintro ⟨values, hvalues⟩
        exact ((hread values).1 hvalues).1
      · exact fun hreadable => ⟨range.values, (hread _).2 ⟨hreadable, rfl⟩⟩
    · intro values hvalues
      obtain ⟨_, rfl⟩ := (hread values).1 hvalues
      exact listsFrom_values range
  · intro hnone
    cases hvalues : valuesIn line with
    | error error => exact ⟨error, rfl⟩
    | ok values =>
        obtain ⟨occurrence, hlocate, _⟩ := valuesIn_eq_ok_iff.1 hvalues
        obtain ⟨inner, hfirst, hspells, _⟩ := locate_eq_some_iff.1 hlocate
        exact absurd ⟨_, _, _, _, hfirst, hspells⟩ hnone

/-- The two largest numbers, with a plus sign, with zeros in front and with white space. -/
def largestNumbers : Text :=
  "FOR I IN RANGE( +9223372036854775806\t,0009223372036854775807 ) RANGE(".toList

/-- All numbers of 64 bits: their count does not fit in 64 bits. -/
def allNumbers : Text := "RANGE(-9223372036854775808,9223372036854775807)".toList

theorem valuesIn_first_largestNumbers :
    (∃ values, valuesIn largestNumbers = .ok values ∧
        ListsFrom 9223372036854775806 9223372036854775807 values) ∧
      (¬ ∃ values, valuesIn allNumbers = .ok values) ∧
      ∃ error, valuesIn "RANGE(1;5)".toList = .error error := by
  refine ⟨?_, ?_, ?_⟩
  · have hfirst : FirstIn largestNumbers "FOR I IN ".toList
        " +9223372036854775806\t,0009223372036854775807 ".toList " RANGE(".toList :=
      ⟨by decide +kernel, by decide +kernel, by decide +kernel⟩
    have hspells : Spells ⟨9223372036854775806, 9223372036854775807⟩
        " +9223372036854775806\t,0009223372036854775807 ".toList :=
      (ofInner_eq_ok_iff.1 (rfl : ofInner 0 0 _ = .ok _)).1
    obtain ⟨hread, hvalues⟩ := (valuesIn_first largestNumbers).1 _ _ _ _ hfirst hspells
    obtain ⟨values, hok⟩ := hread.2 (by decide)
    exact ⟨values, hok, hvalues values hok⟩
  · have hfirst : FirstIn allNumbers [] "-9223372036854775808,9223372036854775807".toList [] :=
      ⟨by decide +kernel, by decide +kernel, by decide +kernel⟩
    have hspells := spells_innerText ⟨minBound, maxBound⟩
    rw [((valuesIn_first allNumbers).1 _ _ _ _ hfirst hspells).1]
    decide
  · have hfirst : FirstIn "RANGE(1;5)".toList [] "1;5".toList [] :=
      ⟨by decide +kernel, by decide +kernel, by decide +kernel⟩
    refine (valuesIn_first "RANGE(1;5)".toList).2 ?_
    rintro ⟨before, inner, after, range, hother, hspells⟩
    obtain ⟨_, rfl, _⟩ := hfirst.unique hother
    obtain ⟨_, _, hbounds, _⟩ := hspells.exists_boundTexts?
    have hnone : boundTexts? "1;5".toList = none := by decide +kernel
    cases hnone.symm.trans hbounds

end Range

end ChartScript
