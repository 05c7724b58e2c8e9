import ChartScript.Proofs.RangeValues

/-!
# Malformed ranges

A list line is refused at the first range that cannot be read: it is not closed, its parentheses
do not hold two numbers of 64 bits, or these span too much.  By then the ranges in front of it
have been replaced by their values, and the column is counted in the line with the values.  It is
the column of the line as it was written exactly if all these values together are as long as the
ranges that they replace.

No range may be empty here, since the two halves of another range can meet where one disappears.
-/

namespace ChartScript

namespace Range

/-- What stands behind an opening is no range, and the error points so many characters behind the
first one of the opening. -/
inductive Malformed : Text → Nat → Prop
  | unclosed {rest : Text} (hclose : ')' ∉ rest) : Malformed rest 0
  | bounds {inner : Text} (hclose : ')' ∉ inner)
      (hbounds : ∀ range : Range, range.Spells inner →
        ¬ (FitsWord range.low ∧ FitsWord range.high)) (after : Text) :
      Malformed (inner ++ ')' :: after) opening.length
  | tooLong {inner : Text} {range : Range} (hspells : range.Spells inner)
      (hlow : FitsWord range.low) (hhigh : FitsWord range.high)
      (hlength : 100000 < range.high - range.low + 1) (after : Text) :
      Malformed (inner ++ ')' :: after) 0

/-- A range with what stands between its parentheses, and the text in front of it. -/
structure Literal where
  before : Text
  inner : Text
  range : Range

namespace Literal

def text (literal : Literal) : Text := literal.before ++ (opening ++ (literal.inner ++ [')']))

/-- The values in the place of the range. -/
def expanded (literal : Literal) : Text :=
  literal.before ++ Text.joinTokens literal.range.values

structure IsRead (literal : Literal) : Prop where
  not_infix : ¬ opening <:+: literal.before
  spells : literal.range.Spells literal.inner
  readable : literal.range.Readable

end Literal

/-- An opening with no range behind it, with the ranges and the gap in front of it. -/
structure Culprit where
  literals : List Literal
  gap : Text
  rest : Text
  shift : Nat

namespace Culprit

def front (culprit : Culprit) : Text := culprit.literals.flatMap Literal.text ++ culprit.gap

def text (culprit : Culprit) : Text := culprit.front ++ (opening ++ culprit.rest)

/-- What stands in front of the opening when the ranges there are replaced. -/
def expandedFront (culprit : Culprit) : Text :=
  culprit.literals.flatMap Literal.expanded ++ culprit.gap

/-- Where the error points in the line as it is written. -/
def column (culprit : Culprit) : Nat := culprit.front.length + culprit.shift + 1

def expandedColumn (culprit : Culprit) : Nat := culprit.expandedFront.length + culprit.shift + 1

/-- All ranges in front of the opening are read. -/
structure IsFirst (culprit : Culprit) : Prop where
  literals_read : ∀ literal ∈ culprit.literals, literal.IsRead
  gap_free : ¬ opening <:+: culprit.gap
  malformed : Malformed culprit.rest culprit.shift

end Culprit

/-- Of the ranges that are read from left to right, none is empty. -/
def NoneEmpty (line : Text) : Prop :=
  ∀ literals : List Literal, ∀ rest, line = literals.flatMap Literal.text ++ rest →
    (∀ literal ∈ literals, literal.IsRead) →
      ∀ literal ∈ literals, literal.range.low ≤ literal.range.high

/-! ## Reading what stands between the parentheses -/

theorem ofInner_eq_error_of_tooLong
    {inner : Text} {range : Range} (hspells : range.Spells inner) (hlow : FitsWord range.low)
    (hhigh : FitsWord range.high) (hlength : 100000 < range.high - range.low + 1)
    (start inside : Nat) :
    ofInner start inside inner = .error ⟨some start, .rangeLength⟩ := by
  obtain ⟨lowText, highText, hbounds, hspellsLow, hspellsHigh⟩ := hspells.exists_boundTexts?
  have hreadLow : bound inside lowText = .ok range.low := bound_eq_ok_iff.2 ⟨hspellsLow, hlow⟩
  have hreadHigh : bound inside highText = .ok range.high :=
    bound_eq_ok_iff.2 ⟨hspellsHigh, hhigh⟩
  unfold ofInner
  simp only [hbounds, hreadLow, hreadHigh, bind, Except.bind]
  exact if_pos hlength

/-- If both bounds are read, what stands between the parentheses spells a range. -/
theorem exists_ofInner_eq_error
    {inner : Text}
    (hnone : ∀ range : Range, range.Spells inner → ¬ (FitsWord range.low ∧ FitsWord range.high))
    (start inside : Nat) :
    ∃ fault, ofInner start inside inner = .error ⟨some inside, fault⟩ := by
  have hbound : ∀ text, (∃ n, bound inside text = .ok n) ∨
      bound inside text = .error ⟨some inside, .rangeBoundSize text⟩ := by
    intro text
    unfold bound
    cases Decimal.between? minBound maxBound text with
    | some n => exact .inl ⟨n, rfl⟩
    | none => exact .inr rfl
  unfold ofInner
  cases hbounds : boundTexts? inner with
  | none => exact ⟨_, rfl⟩
  | some texts =>
      obtain ⟨lowText, highText⟩ := texts
      rcases hbound lowText with ⟨low, hlow⟩ | hlow
      · rcases hbound highText with ⟨high, hhigh⟩ | hhigh
        · obtain ⟨before, behind, ahead, after, hbefore, hbehind, hahead, hafter, rfl⟩ :=
            eq_append_of_boundTexts? hbounds
          obtain ⟨hspellsLow, hfitsLow⟩ := bound_eq_ok_iff.1 hlow
          obtain ⟨hspellsHigh, hfitsHigh⟩ := bound_eq_ok_iff.1 hhigh
          exact absurd ⟨hfitsLow, hfitsHigh⟩
            (hnone ⟨low, high⟩ (.mk hbefore hspellsLow hbehind hahead hspellsHigh hafter))
        · simp only [hlow, hhigh, bind, Except.bind]
          exact ⟨_, rfl⟩
      · simp only [hlow, bind, Except.bind]
        exact ⟨_, rfl⟩

/-! ## The first opening of a line -/

theorem exists_locate_eq_error
    {line before rest : Text} (hcut : Text.cut? opening line = some (before, rest)) {shift : Nat}
    (hmalformed : Malformed rest shift) :
    ∃ fault, locate line = .error ⟨some (before.length + shift + 1), fault⟩ := by
  unfold locate
  simp only [hcut]
  cases hmalformed with
  | unclosed hclose =>
      have hdrop := List.dropWhile_eq_nil_iff.2 (Text.bne_of_not_mem hclose)
      simp only [hdrop]
      exact ⟨_, rfl⟩
  | bounds hclose hbounds after =>
      obtain ⟨fault, hinner⟩ := exists_ofInner_eq_error hbounds (before.length + 1)
        (before.length + 1 + opening.length)
      simp only [Text.dropWhile_bne_append hclose, Text.takeWhile_bne_append hclose, hinner]
      refine ⟨fault, ?_⟩
      rw [Nat.add_right_comm]
      rfl
  | tooLong hspells hlow hhigh hlength after =>
      have hclose := hspells.not_mem (by decide : Text.isWhite ')' = false) (by decide) (by decide)
      have hinner := ofInner_eq_error_of_tooLong hspells hlow hhigh hlength (before.length + 1)
        (before.length + 1 + opening.length)
      simp only [Text.dropWhile_bne_append hclose, Text.takeWhile_bne_append hclose, hinner]
      exact ⟨_, rfl⟩

/-- An opening begins a range that is read, or none. -/
theorem malformed_or_read (rest : Text) :
    (∃ shift, Malformed rest shift) ∨
      ∃ inner after, ∃ range : Range, rest = inner ++ ')' :: after ∧ range.Spells inner ∧
        range.Readable := by
  by_cases hclosed : ')' ∈ rest
  · obtain ⟨inner, after, rfl, hclose⟩ := List.eq_append_cons_of_mem hclosed
    by_cases hspelled : ∃ range : Range, range.Spells inner ∧
        FitsWord range.low ∧ FitsWord range.high
    · obtain ⟨range, hspells, hlow, hhigh⟩ := hspelled
      by_cases hlength : range.high - range.low + 1 ≤ 100000
      · exact .inr ⟨inner, after, range, rfl, hspells, readable_iff.2 ⟨hlow, hhigh, hlength⟩⟩
      · exact .inl ⟨0, .tooLong hspells hlow hhigh (Int.not_le.1 hlength) after⟩
    · refine .inl ⟨opening.length, .bounds hclose ?_ after⟩
      exact fun range hspells hfits => hspelled ⟨range, hspells, hfits⟩
  · exact .inl ⟨0, .unclosed hclosed⟩

theorem firstIn_of_cut?
    {line before inner after : Text} {range : Range} (hspells : range.Spells inner)
    (hcut : Text.cut? opening line = some (before, inner ++ ')' :: after)) :
    FirstIn line before inner after := by
  refine ⟨?_, Text.not_infix_of_cut?_eq_some opening_ne_nil hcut, ?_⟩
  · rw [Text.eq_of_cut?_eq_some hcut, List.append_assoc]
  · exact hspells.not_mem (by decide) (by decide) (by decide)

theorem exists_malformed_of_locate_eq_error
    {line : Text} {error : SyntaxError} (hlocate : locate line = .error error) :
    ∃ before rest shift, Text.cut? opening line = some (before, rest) ∧ Malformed rest shift := by
  cases hcut : Text.cut? opening line with
  | none =>
      have hnone := locate_eq_none_iff.2 (Text.cut?_eq_none_iff.1 hcut)
      cases hlocate.symm.trans hnone
  | some found =>
      obtain ⟨before, rest⟩ := found
      rcases malformed_or_read rest with ⟨shift, hmalformed⟩ | ⟨inner, after, range, rfl, hread⟩
      · exact ⟨before, rest, shift, rfl, hmalformed⟩
      · have hfound : locate line = .ok (some ⟨before, range, after⟩) :=
          locate_eq_some_iff.2 ⟨inner, firstIn_of_cut? hread.1 hcut, hread⟩
        cases hlocate.symm.trans hfound

namespace Malformed

variable {rest : Text} {shift : Nat}

theorem unique (hmalformed : Malformed rest shift) {other : Nat} (hother : Malformed rest other) :
    other = shift := by
  have hcut := Text.cut?_append_self opening rest
  obtain ⟨_, herror⟩ := exists_locate_eq_error hcut hmalformed
  obtain ⟨_, hsame⟩ := exists_locate_eq_error hcut hother
  have hcolumn := congrArg SyntaxError.column (Except.error.inj (hsame.symm.trans herror))
  simpa using hcolumn

theorem not_readable
    {inner after : Text} (hmalformed : Malformed (inner ++ ')' :: after) shift) {range : Range}
    (hspells : range.Spells inner) :
    ¬ range.Readable := by
  intro hreadable
  have hcut := Text.cut?_append_self opening (inner ++ ')' :: after)
  obtain ⟨_, herror⟩ := exists_locate_eq_error hcut hmalformed
  have hfound : locate (opening ++ (inner ++ ')' :: after)) = .ok (some ⟨[], range, after⟩) :=
    locate_eq_some_iff.2 ⟨inner, firstIn_of_cut? hspells hcut, hspells, hreadable⟩
  cases herror.symm.trans hfound

end Malformed

/-! ## The ranges in front of the first malformed one -/

theorem Literal.text_append (literal : Literal) (rest : Text) :
    literal.text ++ rest =
      literal.before ++ (opening ++ (literal.inner ++ ')' :: rest)) := by
  simp [Literal.text]

theorem Literal.IsRead.firstIn
    {literal : Literal} (hread : literal.IsRead) {front : Text}
    (hfront : Text.Passes opening front) (rest : Text) :
    FirstIn (front ++ (literal.text ++ rest)) (front ++ literal.before) literal.inner rest := by
  refine ⟨?_, ?_, hread.spells.not_mem (by decide) (by decide) (by decide)⟩
  · rw [literal.text_append, List.append_assoc]
  · rw [hfront.infix_append_iff]
    exact hread.not_infix

theorem Literal.IsRead.eq_of_texts
    {literal other : Literal} (hread : literal.IsRead) (hother : other.IsRead)
    (hbefore : literal.before = other.before) (hinner : literal.inner = other.inner) :
    literal = other := by
  obtain ⟨before, inner, range⟩ := literal
  obtain ⟨before', inner', range'⟩ := other
  obtain rfl : before = before' := hbefore
  obtain rfl : inner = inner' := hinner
  obtain rfl : range = range' := hread.spells.unique hother.spells
  rfl

/-- The first of several ranges from the left is the first range of the line. -/
theorem firstIn_of_text_eq
    {line rest : Text} {literal : Literal} {literals : List Literal}
    (hline : line = (literal :: literals).flatMap Literal.text ++ rest)
    (hread : ∀ other ∈ literal :: literals, other.IsRead) :
    FirstIn line literal.before literal.inner (literals.flatMap Literal.text ++ rest) := by
  have hliteral := hread literal List.mem_cons_self
  rw [hline, List.flatMap_cons, List.append_assoc]
  exact hliteral.firstIn (Text.Passes.nil opening) _

namespace Culprit

def cons (literal : Literal) (culprit : Culprit) : Culprit :=
  { culprit with literals := literal :: culprit.literals }

/-- The literals of a culprit from the left. -/
@[elab_as_elim]
theorem cons_induction
    {motive : Culprit → Prop} (nil : ∀ gap rest shift, motive ⟨[], gap, rest, shift⟩)
    (cons : ∀ literal culprit, motive culprit → motive (culprit.cons literal))
    (culprit : Culprit) :
    motive culprit := by
  obtain ⟨literals, gap, rest, shift⟩ := culprit
  induction literals with
  | nil => exact nil gap rest shift
  | cons literal literals ih => exact cons literal _ ih

variable {literal : Literal} {culprit : Culprit}

theorem text_eq (culprit : Culprit) :
    culprit.text = culprit.literals.flatMap Literal.text ++
      (culprit.gap ++ (opening ++ culprit.rest)) := by
  unfold text front
  rw [List.append_assoc]

theorem text_cons : (culprit.cons literal).text = literal.text ++ culprit.text := by
  simp [text, front, cons]

theorem expandedColumn_cons :
    (culprit.cons literal).expandedColumn = literal.expanded.length + culprit.expandedColumn := by
  simp only [expandedColumn, expandedFront, cons, List.flatMap_cons, List.length_append]
  omega

theorem isFirst_cons_iff : (culprit.cons literal).IsFirst ↔ literal.IsRead ∧ culprit.IsFirst := by
  constructor
  · rintro ⟨hread, hgap, hmalformed⟩
    obtain ⟨hliteral, hliterals⟩ := List.forall_mem_cons.1 hread
    exact ⟨hliteral, hliterals, hgap, hmalformed⟩
  · rintro ⟨hliteral, hliterals, hgap, hmalformed⟩
    exact ⟨List.forall_mem_cons.2 ⟨hliteral, hliterals⟩, hgap, hmalformed⟩

namespace IsFirst

theorem cut?_gap (hfirst : culprit.IsFirst) :
    Text.cut? opening (culprit.gap ++ (opening ++ culprit.rest)) =
      some (culprit.gap, culprit.rest) :=
  cut?_opening hfirst.gap_free culprit.rest

/-- Ranges that are read from the left all stand in front of the culprit. -/
theorem literals_begin
    (hfirst : culprit.IsFirst) {literals : List Literal} {rest : Text}
    (htext : culprit.text = literals.flatMap Literal.text ++ rest)
    (hread : ∀ literal ∈ literals, literal.IsRead) :
    literals <+: culprit.literals := by
  induction culprit using cons_induction generalizing literals with
  | nil gap inside shift =>
      cases literals with
      | nil => exact List.nil_prefix
      | cons literal literals =>
          have hhere := firstIn_of_text_eq htext hread
          have hcut := hfirst.cut?_gap.symm.trans hhere.cut?_eq
          obtain ⟨_, rfl⟩ := Prod.mk.inj (Option.some.inj hcut)
          have hliteral := hread literal List.mem_cons_self
          exact absurd hliteral.readable (hfirst.malformed.not_readable hliteral.spells)
  | cons other culprit ih =>
      cases literals with
      | nil => exact List.nil_prefix
      | cons literal literals =>
          obtain ⟨hliteral, hliterals⟩ := List.forall_mem_cons.1 hread
          obtain ⟨hother, hculprit⟩ := isFirst_cons_iff.1 hfirst
          have hhere := firstIn_of_text_eq htext hread
          have hthere := hother.firstIn (Text.Passes.nil opening) culprit.text
          rw [List.nil_append, List.nil_append, ← text_cons] at hthere
          obtain ⟨hbefore, hinner, hafter⟩ := hthere.unique hhere
          obtain rfl : other = literal :=
            Literal.IsRead.eq_of_texts hother hliteral hbefore hinner
          exact List.cons_prefix_cons.2 ⟨rfl, ih hculprit hafter hliterals⟩

/-- A line has one first malformed range at most. -/
theorem unique
    (hfirst : culprit.IsFirst) {other : Culprit} (hother : other.IsFirst)
    (htext : other.text = culprit.text) :
    other = culprit := by
  have hbegins := hfirst.literals_begin (htext ▸ other.text_eq) hother.literals_read
  have hends := hother.literals_begin (htext ▸ culprit.text_eq) hfirst.literals_read
  have hliterals := hbegins.eq_of_length_le hends.length_le
  rw [text_eq, text_eq, hliterals] at htext
  have hcut := hother.cut?_gap
  rw [List.append_cancel_left htext, hfirst.cut?_gap] at hcut
  obtain ⟨hgap, hrest⟩ := Prod.mk.inj (Option.some.inj hcut)
  have hshift := hfirst.malformed.unique (hrest ▸ hother.malformed)
  obtain ⟨literals, gap, rest, shift⟩ := culprit
  obtain ⟨literals', gap', rest', shift'⟩ := other
  obtain rfl : literals' = literals := hliterals
  obtain rfl : gap = gap' := hgap
  obtain rfl : rest = rest' := hrest
  obtain rfl : shift' = shift := hshift
  rfl

theorem noneEmpty
    (hfirst : culprit.IsFirst)
    (hordered : ∀ literal ∈ culprit.literals, literal.range.low ≤ literal.range.high) :
    NoneEmpty culprit.text := by
  intro literals rest htext hread literal hliteral
  exact hordered literal ((hfirst.literals_begin htext hread).subset hliteral)

end IsFirst

end Culprit

/-! ## Replacing the ranges up to the malformed one -/

theorem NoneEmpty.of_literal
    {literal : Literal} {rest : Text} (hfull : NoneEmpty (literal.text ++ rest))
    (hread : literal.IsRead) :
    literal.range.low ≤ literal.range.high ∧ NoneEmpty rest := by
  constructor
  · refine hfull [literal] rest (by simp) ?_ literal List.mem_cons_self
    exact List.forall_mem_singleton.2 hread
  · rintro literals back rfl hliterals other hother
    refine hfull (literal :: literals) back (by simp) ?_ other (List.mem_cons_of_mem _ hother)
    exact List.forall_mem_cons.2 ⟨hread, hliterals⟩

theorem Literal.IsRead.passes_expanded
    {literal : Literal} (hread : literal.IsRead)
    (hordered : literal.range.low ≤ literal.range.high) {front : Text}
    (hfront : Text.Passes opening front) :
    Text.Passes opening (front ++ literal.expanded) :=
  hfront.append (passes_append_values hordered hread.not_infix)

theorem Literal.IsRead.expandAll_eq
    {literal : Literal} (hread : literal.IsRead) {front : Text}
    (hfront : Text.Passes opening front) (rest : Text) :
    expandAll (front ++ (literal.text ++ rest)) =
      expandAll (front ++ literal.expanded ++ rest) := by
  have hlocate : locate (front ++ (literal.text ++ rest)) =
      .ok (some ⟨front ++ literal.before, literal.range, rest⟩) :=
    locate_eq_some_iff.2 ⟨_, hread.firstIn hfront rest, hread.spells, hread.readable⟩
  rw [expandAll_of_locate_eq_some hlocate, RangeOccurrence.expanded, Literal.expanded,
    List.append_assoc front]

/-- The line is refused at its culprit, behind what the ranges in front of that stand for. -/
theorem Culprit.IsFirst.exists_expandAll_eq_error
    {culprit : Culprit} (hfirst : culprit.IsFirst) {front : Text}
    (hfront : Text.Passes opening front) (hfull : NoneEmpty culprit.text) :
    ∃ fault, expandAll (front ++ culprit.text) =
      .error ⟨some (front.length + culprit.expandedColumn), fault⟩ := by
  induction culprit using Culprit.cons_induction generalizing front with
  | nil gap rest shift =>
      have hcut : Text.cut? opening (front ++ Culprit.text ⟨[], gap, rest, shift⟩) =
          some (front ++ gap, rest) := by
        rw [hfront, Culprit.text_eq, List.flatMap_nil, List.nil_append, hfirst.cut?_gap]
        rfl
      obtain ⟨fault, hlocate⟩ := exists_locate_eq_error hcut hfirst.malformed
      refine ⟨fault, ?_⟩
      rw [expandAll_of_locate_eq_error hlocate, List.length_append, Nat.add_assoc, Nat.add_assoc]
      rfl
  | cons literal culprit ih =>
      obtain ⟨hread, hculprit⟩ := Culprit.isFirst_cons_iff.1 hfirst
      rw [Culprit.text_cons] at hfull ⊢
      obtain ⟨hordered, hfull⟩ := hfull.of_literal hread
      obtain ⟨fault, hexpand⟩ := ih hculprit (hread.passes_expanded hordered hfront) hfull
      refine ⟨fault, ?_⟩
      rw [hread.expandAll_eq hfront, hexpand, List.length_append, Nat.add_assoc,
        Culprit.expandedColumn_cons]

theorem Expands.exists_culprit
    {front rest : Text} {ranges : List Range} {error : SyntaxError}
    (hrun : Expands (front ++ rest) ranges (.error error)) (hfront : Text.Passes opening front)
    (hfull : NoneEmpty rest) :
    ∃ culprit : Culprit, culprit.IsFirst ∧ culprit.text = rest := by
  generalize hline : front ++ rest = line at hrun
  generalize hresult : Except.error error = result at hrun
  induction hrun generalizing front rest with
  | done => cases hresult
  | failed _ hlocate =>
      obtain ⟨_, inside, shift, hcut, hmalformed⟩ := exists_malformed_of_locate_eq_error hlocate
      rw [← hline, hfront] at hcut
      obtain ⟨⟨gap, inside⟩, hrest, heq⟩ := Option.map_eq_some_iff.1 hcut
      obtain ⟨_, rfl⟩ := Prod.mk.inj heq
      have hgap := Text.not_infix_of_cut?_eq_some opening_ne_nil hrest
      refine ⟨⟨[], gap, inside, shift⟩, ⟨List.forall_mem_nil _, hgap, hmalformed⟩, ?_⟩
      rw [Text.eq_of_cut?_eq_some hrest, List.append_assoc]
      rfl
  | @replaced line occurrence ranges result _ hlocate _ ih =>
      obtain ⟨inner, hhere, hspells, hreadable⟩ := locate_eq_some_iff.1 hlocate
      have hcut := hhere.cut?_eq
      rw [← hline, hfront] at hcut
      obtain ⟨⟨before, inside⟩, hrest, heq⟩ := Option.map_eq_some_iff.1 hcut
      obtain ⟨hbefore, rfl⟩ := Prod.mk.inj heq
      have hread : Literal.IsRead ⟨before, inner, occurrence.range⟩ :=
        ⟨Text.not_infix_of_cut?_eq_some opening_ne_nil hrest, hspells, hreadable⟩
      have htext : rest = Literal.text ⟨before, inner, occurrence.range⟩ ++ occurrence.after := by
        rw [Literal.text_append, ← List.append_assoc]
        exact Text.eq_of_cut?_eq_some hrest
      rw [htext] at hfull
      obtain ⟨hordered, hfull⟩ := hfull.of_literal hread
      have hexpanded : front ++ Literal.expanded ⟨before, inner, occurrence.range⟩ ++
          occurrence.after = occurrence.expanded := by
        unfold RangeOccurrence.expanded Literal.expanded
        rw [← hbefore]
        simp
      obtain ⟨culprit, hfirst, hafter⟩ :=
        ih (hread.passes_expanded hordered hfront) hfull hexpanded hresult
      refine ⟨culprit.cons ⟨before, inner, occurrence.range⟩,
        Culprit.isFirst_cons_iff.2 ⟨hread, hfirst⟩, ?_⟩
      rw [Culprit.text_cons, hafter, htext]

/-- A line with no empty range is refused at its first malformed range, where that stands when
the ranges in front of it are replaced. -/
theorem expandAll_eq_error_iff {line : Text} (hfull : NoneEmpty line) {column : Nat} :
    (∃ error, expandAll line = .error error ∧ error.column = some column) ↔
      ∃ culprit : Culprit, culprit.IsFirst ∧ culprit.text = line ∧
        column = culprit.expandedColumn := by
  have hstart := Text.Passes.nil opening
  constructor
  · rintro ⟨error, hexpand, hcolumn⟩
    obtain ⟨ranges, hrun⟩ := exists_expands line
    rw [hexpand] at hrun
    have hrun : Expands ([] ++ line) ranges (.error error) := hrun
    obtain ⟨culprit, hfirst, htext⟩ := hrun.exists_culprit hstart hfull
    obtain ⟨fault, herror⟩ := hfirst.exists_expandAll_eq_error hstart (htext ▸ hfull)
    rw [List.nil_append, htext, hexpand] at herror
    obtain rfl := Except.error.inj herror
    refine ⟨culprit, hfirst, htext, ?_⟩
    simpa using hcolumn.symm
  · rintro ⟨culprit, hfirst, rfl, rfl⟩
    obtain ⟨fault, herror⟩ := hfirst.exists_expandAll_eq_error hstart hfull
    rw [List.nil_append, List.length_nil, Nat.zero_add] at herror
    exact ⟨_, herror, rfl⟩

end Range

/-! ## List lines -/

namespace ListStatement

open Range (Culprit Literal NoneEmpty)

/-- Of the errors of a list line, only those of a range have a column. -/
theorem read_eq_error_at_iff {line : SourceLine} {column : Nat} :
    (∃ error, read line = .error error ∧ error.column? = some column) ↔
      ∃ error, Range.expandAll line.text = .error error ∧ error.column = some column := by
  unfold read
  constructor
  · rintro ⟨error, hread, hcolumn⟩
    split at hread
    · next found hexpand =>
        obtain rfl := Except.error.inj hread
        exact ⟨found, hexpand, hcolumn⟩
    · split at hread
      · split at hread
        · cases hread
        · obtain rfl := Except.error.inj hread
          cases hcolumn
      · obtain rfl := Except.error.inj hread
        cases hcolumn
  · rintro ⟨error, hexpand, hcolumn⟩
    exact ⟨.malformed line.number error, by rw [hexpand], hcolumn⟩

/-- A list line is refused at a column exactly if it holds a malformed range.  The column is that
of the first one when the ranges in front of it are replaced; in the line as it was written that
is the same column exactly if these ranges are as long as their values. -/
theorem read_points_at_replaced_iff
    {line : SourceLine} (hfull : NoneEmpty line.text) (column : Nat) :
    (∃ error, read line = .error error ∧ error.column? = some column) ↔
      ∃ culprit : Culprit, culprit.IsFirst ∧ culprit.text = line.text ∧
        column = culprit.expandedColumn ∧
          (column = culprit.column ↔
            (culprit.literals.flatMap Literal.expanded).length =
              (culprit.literals.flatMap Literal.text).length) := by
  rw [read_eq_error_at_iff, Range.expandAll_eq_error_iff hfull]
  refine exists_congr fun culprit => and_congr_right fun _ => and_congr_right fun _ => ?_
  refine ⟨?_, And.left⟩
  rintro rfl
  refine ⟨rfl, ?_⟩
  simp only [Culprit.expandedColumn, Culprit.expandedFront, Culprit.column, Culprit.front,
    List.length_append]
  omega

/-- The second range is not closed. -/
def secondOpen : Text := "LIST NEW L RANGE(1,3) RANGE(2,5".toList

def secondOpenCulprit : Culprit :=
  { literals := [⟨"LIST NEW L ".toList, "1,3".toList, ⟨1, 3⟩⟩]
    gap := [' ']
    rest := "2,5".toList
    shift := 0 }

theorem isFirst_secondOpenCulprit : secondOpenCulprit.IsFirst := by
  refine ⟨?_, by decide, .unclosed (by decide)⟩
  intro literal hliteral
  rw [List.mem_singleton.1 hliteral]
  have hread : Range.ofInner 0 0 "1,3".toList = .ok ⟨1, 3⟩ := rfl
  obtain ⟨hspells, hreadable⟩ := Range.ofInner_eq_ok_iff.1 hread
  exact ⟨by decide +kernel, hspells, hreadable⟩

theorem noneEmpty_secondOpen : NoneEmpty secondOpen :=
  isFirst_secondOpenCulprit.noneEmpty (by decide)

theorem read_points_at_replaced_secondOpen :
    NoneEmpty secondOpen ∧
      ∃ error, read ⟨1, secondOpen⟩ = .error error ∧ error.column? = some 18 := by
  refine ⟨noneEmpty_secondOpen, (read_points_at_replaced_iff noneEmpty_secondOpen 18).2 ?_⟩
  exact ⟨secondOpenCulprit, isFirst_secondOpenCulprit, by decide +kernel, by decide +kernel,
    by decide +kernel⟩

/-- The column need not be one of the line as it was written. -/
theorem not_read_points_at_written :
    ¬ ∀ (line : SourceLine) (error : ExpandError) (column : Nat),
      Keyword.ofLine line.text = .list → NoneEmpty line.text → read line = .error error →
        error.column? = some column →
          ∃ culprit : Culprit, culprit.IsFirst ∧ culprit.text = line.text ∧
            column = culprit.column := by
  intro hall
  have hread : read ⟨1, secondOpen⟩ = .error (.malformed 1 ⟨some 18, .openRange⟩) := by
    decide +kernel
  obtain ⟨culprit, hfirst, htext, hcolumn⟩ :=
    hall ⟨1, secondOpen⟩ _ 18 (by decide +kernel) noneEmpty_secondOpen hread rfl
  have hsame : secondOpenCulprit.text = secondOpen := by decide +kernel
  rw [isFirst_secondOpenCulprit.unique hfirst (htext.trans hsame.symm)] at hcolumn
  have hwritten : secondOpenCulprit.column = 23 := by decide +kernel
  rw [hwritten] at hcolumn
  cases hcolumn

end ListStatement

end ChartScript
