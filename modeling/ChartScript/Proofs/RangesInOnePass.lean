import ChartScript.Proofs.AbsentCharacters
import ChartScript.Proofs.RangeLists
import ChartScript.Proofs.SubstitutionInOnePass

/-!
# Ranges in one pass

The ranges of a list line are replaced one after the other, each time from the start of a line
that has changed.  Every replacement leaves fewer parentheses open, so there are no more of them
than the line has opening parentheses, and at the end no range is left.

A single pass over the line as it was written, which never reads the values again, comes to the
same text unless a range is empty: only the disappearance of a range can bring two characters
together that stood apart, and neither the digits of a value nor the signs and blanks between
them belong to the opening of a range.
-/

namespace ChartScript

namespace Text

theorem not_infix_of_cut?_eq_some
    {pattern text before after : Text} (hpattern : pattern ≠ [])
    (hcut : cut? pattern text = some (before, after)) :
    ¬ pattern <:+: before := by
  induction text generalizing before with
  | nil =>
      have htext := eq_of_cut?_eq_some hcut
      simp [hpattern] at htext
  | cons c rest ih =>
      by_cases hbegins : pattern <+: c :: rest
      · obtain ⟨back, htext⟩ := hbegins
        rw [← htext, cut?_append_self, Option.some_inj] at hcut
        obtain rfl := (Prod.mk.inj hcut).1
        simpa using hpattern
      · rw [cut?_cons_of_not_begins hbegins] at hcut
        obtain ⟨⟨front, back⟩, hrest, heq⟩ := Option.map_eq_some_iff.1 hcut
        obtain ⟨rfl, rfl⟩ := Prod.mk.inj heq
        have hfront : c :: front <+: c :: rest := by
          rw [eq_of_cut?_eq_some hrest, List.append_assoc]
          exact ⟨_, rfl⟩
        rw [List.infix_cons_iff]
        rintro (hinside | hinside)
        · exact hbegins (hinside.trans hfront)
        · exact ih hrest hinside

/-! ## Texts in which no occurrence begins -/

/-- A search goes on behind the text, whatever follows it. -/
def Passes (pattern front : Text) : Prop :=
  ∀ rest, cut? pattern (front ++ rest) =
    (cut? pattern rest).map fun found => (front ++ found.1, found.2)

namespace Passes

variable {pattern : Text}

theorem nil (pattern : Text) : Passes pattern [] := by
  intro rest
  simp

theorem append {front back : Text} (hfront : Passes pattern front) (hback : Passes pattern back) :
    Passes pattern (front ++ back) := by
  intro rest
  rw [List.append_assoc, hfront, hback, Option.map_map]
  congr 1
  funext found
  simp

theorem of_not_infix
    {front : Text} (hfront : ¬ pattern <:+: front) {c : Char} (hc : c ∉ pattern) :
    Passes pattern (front ++ [c]) := by
  intro rest
  rw [List.append_assoc, List.singleton_append, cut?_append_cons hc hfront]
  congr 1
  funext found
  simp

theorem of_forall_not_mem
    (hpattern : pattern ≠ []) {text : Text} (htext : ∀ c ∈ text, c ∉ pattern) :
    Passes pattern text := by
  induction text with
  | nil => exact nil pattern
  | cons c text ih =>
      have hc : Passes pattern ([] ++ [c]) :=
        of_not_infix (by simpa using hpattern) (htext c List.mem_cons_self)
      exact hc.append (ih fun d hd => htext d (List.mem_cons_of_mem c hd))

/-- The first character of a text ends what stood before, and the others begin nothing. -/
theorem append_of_forall_not_mem
    {front : Text} (hfront : ¬ pattern <:+: front) {text : Text} (hne : text ≠ [])
    (htext : ∀ c ∈ text, c ∉ pattern) :
    Passes pattern (front ++ text) := by
  have hpattern : pattern ≠ [] := by
    rintro rfl
    exact hfront List.nil_infix
  obtain ⟨c, rest, rfl⟩ := List.exists_cons_of_ne_nil hne
  rw [← List.singleton_append, ← List.append_assoc]
  have hfirst := of_not_infix hfront (htext c List.mem_cons_self)
  exact hfirst.append (of_forall_not_mem hpattern fun d hd => htext d (List.mem_cons_of_mem c hd))

theorem infix_append_iff {front : Text} (hfront : Passes pattern front) (rest : Text) :
    pattern <:+: front ++ rest ↔ pattern <:+: rest := by
  rw [← not_iff_not, ← cut?_eq_none_iff, ← cut?_eq_none_iff, hfront, Option.map_eq_none_iff]

end Passes

end Text

namespace Range

theorem opening_ne_nil : opening ≠ [] := List.cons_ne_nil _ _

theorem joinTokens_values_ne_nil {range : Range} (hrange : range.low ≤ range.high) :
    Text.joinTokens range.values ≠ [] := by
  intro hnil
  have htokens := Text.tokens_joinTokens range.isWord_of_mem_values
  rw [hnil] at htokens
  exact absurd (values_eq_nil_iff.1 htokens.symm) (Int.not_lt.2 hrange)

theorem passes_append_values
    {range : Range} (hrange : range.low ≤ range.high) {before : Text}
    (hbefore : ¬ opening <:+: before) :
    Text.Passes opening (before ++ Text.joinTokens range.values) := by
  have hnot : ∀ c ∈ Text.joinTokens range.values, c ∉ opening := by
    intro c hc hopening
    have hwritten : opening.all (!isWritten ·) = true := by decide
    have hother : isWritten c = false := by simpa using List.all_eq_true.1 hwritten c hopening
    exact not_mem_joinTokens_values hother range hc
  exact .append_of_forall_not_mem hbefore (joinTokens_values_ne_nil hrange) hnot

/-! ## One pass -/

/-- Reads what stands between the parentheses, wherever that is. -/
def ofInner? (inner : Text) : Option Range := do
  let (lowText, highText) ← boundTexts? inner
  let low ← Decimal.between? minBound maxBound lowText
  let high ← Decimal.between? minBound maxBound highText
  let range : Range := { low, high }
  if range.length > maxLength then none else some range

theorem ofInner?_eq_some
    {start inside : Nat} {inner : Text} {range : Range}
    (hread : ofInner start inside inner = .ok range) :
    ofInner? inner = some range := by
  unfold ofInner at hread
  unfold ofInner?
  cases hbounds : boundTexts? inner with
  | none => simp [hbounds] at hread
  | some bounds =>
      obtain ⟨lowText, highText⟩ := bounds
      simp only [hbounds, bound, bind, Except.bind] at hread
      cases hlow : Decimal.between? minBound maxBound lowText with
      | none => simp [hlow] at hread
      | some low =>
          cases hhigh : Decimal.between? minBound maxBound highText with
          | none => simp [hlow, hhigh] at hread
          | some high =>
              simp only [hlow, hhigh] at hread
              simp only [bind, Option.bind, hlow, hhigh]
              split at hread
              · cases hread
              · next hlength =>
                  rw [if_neg hlength, Except.ok.inj hread]

/-- The line with the values in the place of every range, in one pass from left to right; what
is no range is kept. -/
def expandOnce : Text → Option Text
  | [] => some []
  | c :: rest =>
    match _hopening : Text.after? opening (c :: rest) with
    | none => (expandOnce rest).map (c :: ·)
    | some inside =>
      match _hclose : inside.dropWhile (· != ')') with
      | [] => none
      | _ :: after => do
        let range ← ofInner? (inside.takeWhile (· != ')'))
        let expanded ← expandOnce after
        return Text.joinTokens range.values ++ expanded
termination_by line => line.length
decreasing_by
  · exact Nat.lt_succ_self rest.length
  · have hinside := Text.length_lt_of_after?_eq_some opening_ne_nil _hopening
    have hafter := (List.dropWhile_suffix (l := inside) (· != ')')).length_le
    rw [_hclose, List.length_cons] at hafter
    omega

@[simp] theorem expandOnce_nil : expandOnce [] = some [] := by
  rw [expandOnce]

theorem expandOnce_cons {c : Char} {rest : Text} (hnot : ¬ opening <+: c :: rest) :
    expandOnce (c :: rest) = (expandOnce rest).map (c :: ·) := by
  have hnone := Text.after?_eq_none_iff.2 hnot
  rw [expandOnce]
  split
  · rfl
  · next inside hsome => cases hnone.symm.trans hsome

theorem expandOnce_range
    {inner : Text} (hinner : ')' ∉ inner) {range : Range} (hrange : ofInner? inner = some range)
    (after : Text) :
    expandOnce (opening ++ (inner ++ ')' :: after)) =
      (expandOnce after).map (Text.joinTokens range.values ++ ·) := by
  have hafter := Text.after?_append opening (inner ++ ')' :: after)
  have hcons : opening ++ (inner ++ ')' :: after) =
      'R' :: (opening.tail ++ (inner ++ ')' :: after)) := rfl
  rw [hcons] at hafter ⊢
  rw [expandOnce]
  split
  · next hnone => cases hafter.symm.trans hnone
  · next inside hsome =>
      obtain rfl := Option.some.inj (hafter.symm.trans hsome)
      split
      · next hnil =>
          rw [Text.dropWhile_bne_append hinner] at hnil
          cases hnil
      · next c back hclose =>
          rw [Text.dropWhile_bne_append hinner] at hclose
          obtain ⟨_, rfl⟩ := List.cons.inj hclose
          rw [Text.takeWhile_bne_append hinner, hrange]
          cases expandOnce after <;> rfl

theorem expandOnce_of_not_infix {line : Text} (hline : ¬ opening <:+: line) :
    expandOnce line = some line := by
  induction line with
  | nil => exact expandOnce_nil
  | cons c rest ih =>
      rw [List.infix_cons_iff, not_or] at hline
      rw [expandOnce_cons hline.1, ih hline.2]
      rfl

theorem expandOnce_of_cut?_eq_some
    {line before rest : Text} (hcut : Text.cut? opening line = some (before, rest)) :
    expandOnce line = (expandOnce (opening ++ rest)).map (before ++ ·) := by
  induction line generalizing before with
  | nil =>
      have hline := Text.eq_of_cut?_eq_some hcut
      simp [opening_ne_nil] at hline
  | cons c line ih =>
      by_cases hbegins : opening <+: c :: line
      · obtain ⟨back, hline⟩ := hbegins
        rw [← hline] at hcut ⊢
        rw [Text.cut?_append_self, Option.some_inj] at hcut
        obtain ⟨rfl, rfl⟩ := Prod.mk.inj hcut
        simp
      · rw [Text.cut?_cons_of_not_begins hbegins] at hcut
        obtain ⟨⟨front, back⟩, hrest, heq⟩ := Option.map_eq_some_iff.1 hcut
        obtain ⟨rfl, rfl⟩ := Prod.mk.inj heq
        rw [expandOnce_cons hbegins, ih hrest, Option.map_map]
        rfl

/-! ## The run -/

/-- The replacements up to the result, and the ranges that they replace, in order. -/
inductive Expands : Text → List Range → Except SyntaxError Text → Prop
  | done {line : Text} (hdone : ¬ opening <:+: line) : Expands line [] (.ok line)
  | failed {line : Text} {error : SyntaxError} (hline : opening <:+: line)
      (hlocate : locate line = .error error) : Expands line [] (.error error)
  | replaced {line : Text} {occurrence : RangeOccurrence} {ranges : List Range}
      {result : Except SyntaxError Text} (hline : opening <:+: line)
      (hlocate : locate line = .ok (some occurrence))
      (hrest : Expands occurrence.expanded ranges result) :
      Expands line (occurrence.range :: ranges) result

theorem exists_expands (line : Text) : ∃ ranges, Expands line ranges (expandAll line) := by
  have hopening : ∀ {line}, locate line ≠ .ok none → opening <:+: line := fun hlocate =>
    not_not.1 fun hline => hlocate (locate_eq_none_iff.2 hline)
  fun_induction expandAll line with
  | case1 line error hlocate => exact ⟨[], .failed (hopening (by simp [hlocate])) hlocate⟩
  | case2 line hlocate => exact ⟨[], .done (locate_eq_none_iff.1 hlocate)⟩
  | case3 line occurrence hlocate ih =>
      obtain ⟨ranges, hrest⟩ := ih
      exact ⟨occurrence.range :: ranges, .replaced (hopening (by simp [hlocate])) hlocate hrest⟩

namespace Expands

variable {line : Text} {ranges : List Range} {result : Except SyntaxError Text}

theorem length_le_count (hrun : Expands line ranges result) : ranges.length ≤ line.count '(' := by
  induction hrun with
  | done => exact Nat.zero_le _
  | failed => exact Nat.zero_le _
  | replaced _ hlocate _ ih =>
      have hcount := count_paren_expanded_lt hlocate
      rw [List.length_cons]
      omega

theorem unique
    (hrun : Expands line ranges result) {others : List Range} {other : Except SyntaxError Text}
    (hother : Expands line others other) :
    others = ranges ∧ other = result := by
  induction hrun generalizing others with
  | done hdone =>
      cases hother with
      | done => exact ⟨rfl, rfl⟩
      | failed hline => exact absurd hline hdone
      | replaced hline => exact absurd hline hdone
  | failed hline hlocate =>
      cases hother with
      | done hdone => exact absurd hline hdone
      | failed _ hsame =>
          obtain rfl := Except.error.inj (hlocate.symm.trans hsame)
          exact ⟨rfl, rfl⟩
      | replaced _ hsame => cases hlocate.symm.trans hsame
  | replaced hline hlocate _ ih =>
      cases hother with
      | done hdone => exact absurd hline hdone
      | failed _ hsame => cases hlocate.symm.trans hsame
      | replaced _ hsame hrest =>
          obtain rfl := Option.some.inj (Except.ok.inj (hlocate.symm.trans hsame))
          obtain ⟨rfl, rfl⟩ := ih hrest
          exact ⟨rfl, rfl⟩

/-- What is done already is the front of the result, and the pass goes on with the rest: once a
range is replaced, the line is done up to the end of the values. -/
theorem exists_expandOnce
    {front rest text : Text} (hrun : Expands (front ++ rest) ranges (.ok text))
    (hfront : Text.Passes opening front)
    (hranges : ∀ range ∈ ranges, range.low ≤ range.high) :
    ∃ expanded, text = front ++ expanded ∧ expandOnce rest = some expanded := by
  generalize hline : front ++ rest = line at hrun
  generalize hresult : Except.ok text = result at hrun
  induction hrun generalizing front rest with
  | @done line hdone =>
      obtain rfl := Except.ok.inj hresult
      subst hline
      rw [hfront.infix_append_iff] at hdone
      exact ⟨rest, rfl, expandOnce_of_not_infix hdone⟩
  | failed => cases hresult
  | @replaced line occurrence ranges result _ hlocate _ ih =>
      obtain ⟨_, _, inner, hinner, hrange, hcut⟩ := exists_of_locate hlocate
      rw [← hline, hfront] at hcut
      obtain ⟨⟨before, inside⟩, hrest, heq⟩ := Option.map_eq_some_iff.1 hcut
      obtain ⟨hbefore, rfl⟩ := Prod.mk.inj heq
      have hpass := hfront.append (passes_append_values (hranges _ List.mem_cons_self)
        (Text.not_infix_of_cut?_eq_some opening_ne_nil hrest))
      have hexpanded : front ++ (before ++ Text.joinTokens occurrence.range.values) ++
          occurrence.after = occurrence.expanded := by
        unfold RangeOccurrence.expanded
        rw [← hbefore]
        simp
      obtain ⟨expanded, htext, hafter⟩ := ih hpass
        (fun range hrange => hranges range (List.mem_cons_of_mem _ hrange)) hexpanded hresult
      refine ⟨before ++ (Text.joinTokens occurrence.range.values ++ expanded), ?_, ?_⟩
      · rw [htext]
        simp
      · rw [expandOnce_of_cut?_eq_some hrest,
          expandOnce_range hinner (ofInner?_eq_some hrange), hafter]
        rfl

end Expands

/-- The line holds no range, and replacing its ranges leaves it alone. -/
structure Expanded (line : Text) : Prop where
  not_infix : ¬ opening <:+: line
  expandAll : Range.expandAll line = .ok line
  expandFirst : Range.expandFirst line = .ok line

theorem expanded_of_expandAll {line text : Text} (hexpand : expandAll line = .ok text) :
    Expanded text := by
  have hdone := not_infix_expandAll hexpand
  have hlocate := locate_eq_none_iff.2 hdone
  refine ⟨hdone, expandAll_of_locate_eq_none hlocate, ?_⟩
  unfold expandFirst
  rw [hlocate]

/-- The replacements come to an end, at a text without ranges unless one of them cannot be read.
If none of the ranges was empty, one pass over the line comes to the same text. -/
theorem expandAll_eq_expandOnce (line : Text) :
    ∃ ranges, Expands line ranges (expandAll line) ∧ ranges.length ≤ line.count '(' ∧
      (∀ others result, Expands line others result → others = ranges ∧ result = expandAll line) ∧
      ∀ text, expandAll line = .ok text →
        Expanded text ∧
          ((∀ range ∈ ranges, range.low ≤ range.high) → expandOnce line = some text) := by
  obtain ⟨ranges, hrun⟩ := exists_expands line
  refine ⟨ranges, hrun, hrun.length_le_count, fun _ _ hother => hrun.unique hother, ?_⟩
  intro text htext
  refine ⟨expanded_of_expandAll htext, fun hranges => ?_⟩
  have hstart : Expands ([] ++ line) ranges (.ok text) := htext ▸ hrun
  obtain ⟨expanded, rfl, hpass⟩ := hstart.exists_expandOnce (Text.Passes.nil opening) hranges
  exact hpass

def twoRanges : Text := "LIST NEW L RANGE(1,2) RANGE(8,9)".toList

theorem expandAll_eq_expandOnce_twoRanges :
    Expands twoRanges [⟨1, 2⟩, ⟨8, 9⟩] (.ok "LIST NEW L 1 2 8 9".toList) ∧
      Expanded "LIST NEW L 1 2 8 9".toList ∧
      expandOnce twoRanges = some "LIST NEW L 1 2 8 9".toList := by
  have hfirst : locate twoRanges =
      .ok (some ⟨"LIST NEW L ".toList, ⟨1, 2⟩, " RANGE(8,9)".toList⟩) := by decide +kernel
  have hsecond : locate "LIST NEW L 1 2 RANGE(8,9)".toList =
      .ok (some ⟨"LIST NEW L 1 2 ".toList, ⟨8, 9⟩, []⟩) := by decide +kernel
  have hlast : Expands "LIST NEW L 1 2 RANGE(8,9)".toList [⟨8, 9⟩]
      (.ok "LIST NEW L 1 2 8 9".toList) :=
    .replaced (by decide +kernel) hsecond (.done (by decide +kernel))
  have hrun : Expands twoRanges [⟨1, 2⟩, ⟨8, 9⟩] (.ok "LIST NEW L 1 2 8 9".toList) :=
    .replaced (by decide +kernel) hfirst hlast
  obtain ⟨ranges, _, _, hunique, htext⟩ := expandAll_eq_expandOnce twoRanges
  obtain ⟨rfl, hexpand⟩ := hunique _ _ hrun
  obtain ⟨hexpanded, hpass⟩ := htext _ hexpand.symm
  exact ⟨hrun, hexpanded, hpass (by decide)⟩

/-- An empty range lets the two halves of another one meet. -/
def splitRange : Text := "RANRANGE(3,1)GE(1,2)".toList

example : expandOnce splitRange = some "RANGE(1,2)".toList := by decide +kernel

example : expandAll splitRange = .ok "1 2".toList := by decide +kernel

end Range

end ChartScript
