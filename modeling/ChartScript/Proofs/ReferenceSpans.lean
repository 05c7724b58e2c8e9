import ChartScript.Proofs.BoundReferences

/-!
# References and where they stand

A text can be taken apart exactly if every sigil that is met from left to right, outside the
references before it, begins a reference.  The references then stand in the text one behind
the other, at offsets between two characters, and the gaps around them hold no sigil.  No other
expression describes the text in this way.
-/

namespace ChartScript

/-! ## Offsets -/

namespace Text

@[simp] theorem byteLength_nil : byteLength [] = 0 := rfl

theorem byteLength_cons (c : Char) (rest : Text) :
    byteLength (c :: rest) = c.utf8Size + rest.byteLength := by
  have hfold : ∀ (text : Text) (start : Nat),
      text.foldl (fun n c => n + c.utf8Size) start = start + text.byteLength := by
    intro text
    unfold byteLength
    induction text with
    | nil => simp
    | cons c rest ih =>
        intro start
        rw [List.foldl_cons, List.foldl_cons, ih, ih (0 + c.utf8Size), Nat.zero_add, Nat.add_assoc]
  rw [← hfold, byteLength, List.foldl_cons, Nat.zero_add]

@[simp] theorem byteLength_append (front back : Text) :
    byteLength (front ++ back) = front.byteLength + back.byteLength := by
  induction front with
  | nil => simp
  | cons c front ih => rw [List.cons_append, byteLength_cons, byteLength_cons, ih, Nat.add_assoc]

theorem byteLength_pos {text : Text} (hne : text ≠ []) : 0 < text.byteLength := by
  obtain ⟨c, rest, rfl⟩ := List.exists_cons_of_ne_nil hne
  have hsize := c.utf8Size_pos
  rw [byteLength_cons]
  omega

theorem byteLength_eq_zero_iff {text : Text} : text.byteLength = 0 ↔ text = [] := by
  constructor
  · intro hzero
    by_contra hne
    have hpos := byteLength_pos hne
    omega
  · rintro rfl
    rfl

/-- An offset between two characters has one text in front of it. -/
theorem eq_of_byteLength_eq
    {front back other after : Text} (htext : front ++ back = other ++ after)
    (hlength : front.byteLength = other.byteLength) :
    front = other ∧ back = after := by
  have hfront : front = other := by
    rcases List.append_eq_append_iff.1 htext with ⟨between, rfl, _⟩ | ⟨between, rfl, _⟩
    · rw [byteLength_append] at hlength
      have hnil : between = [] := byteLength_eq_zero_iff.1 (by omega)
      rw [hnil, List.append_nil]
    · rw [byteLength_append] at hlength
      have hnil : between = [] := byteLength_eq_zero_iff.1 (by omega)
      rw [hnil, List.append_nil]
  subst hfront
  exact ⟨rfl, List.append_cancel_left htext⟩

end Text

/-! ## The grammar -/

/-- A reference that is read where it is followed by `after`: one in braces ends at the first
closing brace, and a bare one, which does not begin with a brace, at the next blank or tab or
at the end. -/
inductive Reference.ReadBefore (after : Text) : Reference → Prop
  | braced {body : Text} (hbody : body ≠ []) (hclose : '}' ∉ body) : ReadBefore after ⟨body, true⟩
  | bare {body : Text} (hbody : body ≠ []) (hopen : body.head? ≠ some '{')
      (hblank : ∀ c ∈ body, Text.isBlank c = false) (hends : Text.EndsToken after) :
      ReadBefore after ⟨body, false⟩

/-- From left to right, every sigil outside a reference begins one. -/
inductive WellReferenced : Text → Prop
  | nil : WellReferenced []
  | plain {c : Char} {rest : Text} (hc : c ≠ '$') (hrest : WellReferenced rest) :
      WellReferenced (c :: rest)
  | reference {reference : Reference} {after : Text} (hread : reference.ReadBefore after)
      (hafter : WellReferenced after) : WellReferenced (reference.text ++ after)

namespace Expression

theorem decomposed_nil_iff {rest : Text} : Decomposed [] rest ↔ '$' ∉ rest := by
  constructor
  · rintro ⟨hrest⟩
    exact hrest
  · exact .rest

theorem decomposed_cons_iff
    {before : Text} {reference : Reference} {parts : List (Text × Reference)} {rest : Text} :
    Decomposed ((before, reference) :: parts) rest ↔
      '$' ∉ before ∧ reference.ReadBefore (Expression.text ⟨parts, rest⟩) ∧
        Decomposed parts rest := by
  constructor
  · intro hparts
    cases hparts with
    | braced hbefore hbody hclose hparts => exact ⟨hbefore, .braced hbody hclose, hparts⟩
    | bare hbefore hbody hopen hblank hends hparts =>
        exact ⟨hbefore, .bare hbody hopen hblank hends, hparts⟩
  · rintro ⟨hbefore, hread, hparts⟩
    cases hread with
    | braced hbody hclose => exact .braced hbefore hbody hclose hparts
    | bare hbody hopen hblank hends => exact .bare hbefore hbody hopen hblank hends hparts

theorem Decomposed.sigil_not_mem
    {parts : List (Text × Reference)} {rest : Text} (hparts : Decomposed parts rest) :
    (∀ part ∈ parts, '$' ∉ part.1) ∧ '$' ∉ rest := by
  induction parts with
  | nil => exact ⟨by simp, decomposed_nil_iff.1 hparts⟩
  | cons part parts ih =>
      obtain ⟨before, reference⟩ := part
      obtain ⟨hbefore, _, hparts⟩ := decomposed_cons_iff.1 hparts
      obtain ⟨hgaps, hrest⟩ := ih hparts
      exact ⟨List.forall_mem_cons.2 ⟨hbefore, hgaps⟩, hrest⟩

end Expression

theorem WellReferenced.append_of_not_mem
    {front text : Text} (hfront : '$' ∉ front) (htext : WellReferenced text) :
    WellReferenced (front ++ text) := by
  induction front with
  | nil => exact htext
  | cons c front ih =>
      simp only [List.mem_cons, not_or] at hfront
      exact .plain (Ne.symm hfront.1) (ih hfront.2)

namespace Expression

theorem exists_decomposed_cons
    {c : Char} (hc : c ≠ '$') {parts : List (Text × Reference)} {rest : Text}
    (hparts : Decomposed parts rest) :
    ∃ expression : Expression, Decomposed expression.parts expression.rest ∧
      expression.text = c :: Expression.text ⟨parts, rest⟩ := by
  cases parts with
  | nil =>
      refine ⟨⟨[], c :: rest⟩, decomposed_nil_iff.2 ?_, rfl⟩
      simp [Ne.symm hc, decomposed_nil_iff.1 hparts]
  | cons part parts =>
      obtain ⟨before, reference⟩ := part
      obtain ⟨hbefore, hread, hparts⟩ := decomposed_cons_iff.1 hparts
      refine ⟨⟨(c :: before, reference) :: parts, rest⟩, decomposed_cons_iff.2 ⟨?_, hread, hparts⟩,
        ?_⟩
      · simp [Ne.symm hc, hbefore]
      · rw [text_cons, text_cons]
        rfl

theorem exists_parse_iff {text : Text} :
    (∃ expression, parse text = .ok expression) ↔ WellReferenced text := by
  simp only [parse_eq_ok_iff]
  constructor
  · rintro ⟨⟨parts, rest⟩, hparts, rfl⟩
    simp only at hparts
    induction parts with
    | nil =>
        have hplain := WellReferenced.append_of_not_mem (decomposed_nil_iff.1 hparts) .nil
        simpa [Expression.text] using hplain
    | cons part parts ih =>
        obtain ⟨before, reference⟩ := part
        obtain ⟨hbefore, hread, hparts⟩ := decomposed_cons_iff.1 hparts
        rw [text_cons, List.append_assoc]
        exact .append_of_not_mem hbefore (.reference hread (ih hparts))
  · intro htext
    induction htext with
    | nil => exact ⟨⟨[], []⟩, .rest (by simp), rfl⟩
    | plain hc hrest ih =>
        obtain ⟨⟨parts, rest⟩, hparts, rfl⟩ := ih
        exact exists_decomposed_cons hc hparts
    | @reference reference after hread hafter ih =>
        obtain ⟨⟨parts, rest⟩, hparts, rfl⟩ := ih
        exact ⟨⟨([], reference) :: parts, rest⟩,
          decomposed_cons_iff.2 ⟨by simp, hread, hparts⟩, text_cons _ _ _ _⟩

/-! ## Spans -/

end Expression

/-- The span is that of a reference of the text: it begins and ends between two characters, and
the reference is read there. -/
def ReferenceSpan.StandsIn (text : Text) (span : ReferenceSpan) : Prop :=
  ∃ front after, text = front ++ span.reference.text ++ after ∧
    span.start = front.byteLength ∧ span.stop = (front ++ span.reference.text).byteLength ∧
      span.reference.ReadBefore after

namespace Expression

/-- The spans of references that begin at an offset. -/
def spansFrom (offset : Nat) (parts : List (Text × Reference)) : List ReferenceSpan :=
  spans.go [] offset parts

theorem spans_go_eq (done : List ReferenceSpan) (offset : Nat) (parts : List (Text × Reference)) :
    spans.go done offset parts = done.reverse ++ spansFrom offset parts := by
  unfold spansFrom
  induction parts generalizing done offset with
  | nil => simp [spans.go]
  | cons part parts ih =>
      obtain ⟨before, reference⟩ := part
      rw [spans.go, spans.go, ih (_ :: done), ih [_]]
      simp

theorem spansFrom_cons
    (offset : Nat) (before : Text) (reference : Reference) (parts : List (Text × Reference)) :
    spansFrom offset ((before, reference) :: parts) =
      let start := offset + before.byteLength
      let stop := start + reference.text.byteLength
      ⟨start, stop, reference⟩ :: spansFrom stop parts := by
  unfold spansFrom
  rw [spans.go, spans_go_eq]
  rfl

/-- The expression describes the text: its gaps and references make up the text, the gaps hold
no sigil, and the references stand in the text one behind the other. -/
structure Describes (text : Text) (expression : Expression) : Prop where
  text_eq : expression.text = text
  gap_free : ∀ part ∈ expression.parts, '$' ∉ part.1
  rest_free : '$' ∉ expression.rest
  stands : ∀ span ∈ expression.spans, span.StandsIn text
  nonempty : ∀ span ∈ expression.spans, span.start < span.stop
  ordered : expression.spans.Pairwise fun first second => first.stop ≤ second.start

theorem le_start_of_mem_spansFrom
    {offset : Nat} {parts : List (Text × Reference)} {span : ReferenceSpan}
    (hspan : span ∈ spansFrom offset parts) :
    offset ≤ span.start := by
  induction parts generalizing offset with
  | nil => cases hspan
  | cons part parts ih =>
      obtain ⟨before, reference⟩ := part
      rw [spansFrom_cons] at hspan
      rcases List.mem_cons.1 hspan with rfl | hspan
      · simp
      · have hlater := ih hspan
        omega

theorem pairwise_spansFrom (offset : Nat) (parts : List (Text × Reference)) :
    (spansFrom offset parts).Pairwise fun first second => first.stop ≤ second.start := by
  induction parts generalizing offset with
  | nil => exact .nil
  | cons part parts ih =>
      obtain ⟨before, reference⟩ := part
      rw [spansFrom_cons]
      exact .cons (fun span hspan => le_start_of_mem_spansFrom hspan) (ih _)

theorem start_lt_stop_of_mem_spansFrom
    {offset : Nat} {parts : List (Text × Reference)} {span : ReferenceSpan}
    (hspan : span ∈ spansFrom offset parts) :
    span.start < span.stop := by
  induction parts generalizing offset with
  | nil => cases hspan
  | cons part parts ih =>
      obtain ⟨before, reference⟩ := part
      rw [spansFrom_cons] at hspan
      rcases List.mem_cons.1 hspan with rfl | hspan
      · obtain ⟨inside, hinside⟩ := reference.exists_text_eq_cons
        have hpos : 0 < reference.text.byteLength := Text.byteLength_pos (by simp [hinside])
        simpa using hpos
      · exact ih hspan

/-- References stand in a text exactly if each is read before what the parts behind it make up. -/
theorem decomposed_iff_stands
    (front : Text) {parts : List (Text × Reference)} {rest : Text}
    (hgaps : ∀ part ∈ parts, '$' ∉ part.1) (hrest : '$' ∉ rest) :
    Decomposed parts rest ↔ ∀ span ∈ spansFrom front.byteLength parts,
      span.StandsIn (front ++ Expression.text ⟨parts, rest⟩) := by
  induction parts generalizing front with
  | nil => exact iff_of_true (.rest hrest) (by simp [spansFrom, spans.go])
  | cons part parts ih =>
      obtain ⟨before, reference⟩ := part
      obtain ⟨hbefore, hgaps⟩ := List.forall_mem_cons.1 hgaps
      have hnext := ih (front ++ before ++ reference.text) hgaps
      have htext : front ++ Expression.text ⟨(before, reference) :: parts, rest⟩ =
          front ++ before ++ reference.text ++ Expression.text ⟨parts, rest⟩ := by
        rw [text_cons]
        simp
      have hoffset : front.byteLength + before.byteLength + reference.text.byteLength =
          (front ++ before ++ reference.text).byteLength := by
        simp [Nat.add_assoc]
      rw [decomposed_cons_iff, and_iff_right hbefore, hnext, spansFrom_cons, List.forall_mem_cons,
        hoffset, htext]
      refine and_congr_left' ?_
      constructor
      · intro hread
        exact ⟨front ++ before, Expression.text ⟨parts, rest⟩, rfl, by simp, rfl, hread⟩
      · rintro ⟨other, after, hsame, hstart, _, hread⟩
        have htexts : front ++ before ++ (reference.text ++ Expression.text ⟨parts, rest⟩) =
            other ++ (reference.text ++ after) := by simpa using hsame
        obtain ⟨rfl, hback⟩ := Text.eq_of_byteLength_eq htexts (by simpa using hstart)
        rw [List.append_cancel_left hback]
        exact hread

theorem describes_iff {text : Text} {expression : Expression} :
    expression.Describes text ↔
      Decomposed expression.parts expression.rest ∧ expression.text = text := by
  constructor
  · intro hdescribes
    obtain ⟨rfl, hgaps, hrest, hstands, _⟩ := hdescribes
    exact ⟨(decomposed_iff_stands [] hgaps hrest).2 hstands, rfl⟩
  · rintro ⟨hparts, rfl⟩
    obtain ⟨hgaps, hrest⟩ := hparts.sigil_not_mem
    exact
      { text_eq := rfl
        gap_free := hgaps
        rest_free := hrest
        stands := (decomposed_iff_stands [] hgaps hrest).1 hparts
        nonempty := fun _ hspan => start_lt_stop_of_mem_spansFrom hspan
        ordered := pairwise_spansFrom 0 expression.parts }

/-- Taking apart succeeds exactly on the texts of the grammar, and what it finds is the only
expression that describes the text. -/
theorem parse_describes (text : Text) :
    ((∃ expression, parse text = .ok expression) ↔ WellReferenced text) ∧
      (∀ expression, parse text = .ok expression ↔ expression.Describes text) ∧
      ∀ first second : Expression, first.Describes text → second.Describes text →
        first = second := by
  have hfound : ∀ expression, parse text = .ok expression ↔ expression.Describes text := by
    intro expression
    rw [parse_eq_ok_iff, describes_iff]
  refine ⟨exists_parse_iff, hfound, ?_⟩
  intro first second hfirst hsecond
  rw [← hfound] at hfirst hsecond
  exact Except.ok.inj (hfirst.symm.trans hsecond)

end Expression

end ChartScript
