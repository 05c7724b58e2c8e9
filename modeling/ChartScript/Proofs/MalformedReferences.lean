import ChartScript.Proofs.DefinitionParts
import ChartScript.Proofs.ReferenceSpans

/-!
# Malformed references

A text that cannot be taken apart holds a reference that is empty or that is never closed.  The
error points at the first of these, at its sigil if it is empty and at its brace if that is
never closed; all references in front of it are read.

The expression of a definition stands behind its name, its unit and white space of any kind.
The column of an error is counted from the beginning of the line, in characters, and so is that
of the same reference.
-/

namespace ChartScript

/-- The text behind a sigil begins no reference.  The error says why, and it points so many
characters behind the sigil. -/
inductive Reference.Malformed : Text → Fault → Nat → Prop
  | empty {inside : Text} (hends : Text.EndsToken inside) : Malformed inside .emptyReference 0
  | emptyBraces (rest : Text) : Malformed ('{' :: '}' :: rest) .emptyReference 0
  | unclosed {rest : Text} (hclose : '}' ∉ rest) : Malformed ('{' :: rest) .openReference 1

namespace Expression

/-- Where `rest` follows, the parts are read one after the other. -/
inductive ReadUpTo (rest : Text) : List (Text × Reference) → Prop
  | nil : ReadUpTo rest []
  | cons {before : Text} {reference : Reference} {parts : List (Text × Reference)}
      (hbefore : '$' ∉ before) (hread : reference.ReadBefore (Expression.text ⟨parts, rest⟩))
      (hparts : ReadUpTo rest parts) : ReadUpTo rest ((before, reference) :: parts)

/-- A reference that cannot be read, with the parts and the gap in front of it. -/
structure Culprit where
  parts : List (Text × Reference)
  gap : Text
  inside : Text
  fault : Fault
  shift : Nat

namespace Culprit

/-- What stands in front of the sigil. -/
def front (culprit : Culprit) : Text := Expression.text ⟨culprit.parts, culprit.gap⟩

def text (culprit : Culprit) : Text := culprit.front ++ '$' :: culprit.inside

def column (culprit : Culprit) : Nat := culprit.front.length + culprit.shift + 1

/-- What stands in front of the reference is read, and the reference is not. -/
structure IsFirst (culprit : Culprit) : Prop where
  parts_read : ReadUpTo (culprit.gap ++ '$' :: culprit.inside) culprit.parts
  gap_free : '$' ∉ culprit.gap
  malformed : Reference.Malformed culprit.inside culprit.fault culprit.shift

theorem text_eq (culprit : Culprit) :
    culprit.text = Expression.text ⟨culprit.parts, culprit.gap ++ '$' :: culprit.inside⟩ := by
  simp [text, front, Expression.text]

def cons (before : Text) (reference : Reference) (culprit : Culprit) : Culprit :=
  { culprit with parts := (before, reference) :: culprit.parts }

variable {before : Text} {reference : Reference} {culprit : Culprit}

theorem front_cons :
    (culprit.cons before reference).front = before ++ reference.text ++ culprit.front :=
  Expression.text_cons before reference culprit.parts culprit.gap

theorem text_cons :
    (culprit.cons before reference).text = before ++ reference.text ++ culprit.text := by
  unfold text
  rw [front_cons, List.append_assoc]
  rfl

theorem column_cons :
    (culprit.cons before reference).column =
      before.length + reference.text.length + culprit.column := by
  unfold column
  rw [front_cons, List.length_append, List.length_append]
  simp only [cons]
  omega

theorem IsFirst.cons
    (hfirst : culprit.IsFirst) (hbefore : '$' ∉ before)
    (hread : reference.ReadBefore culprit.text) :
    (culprit.cons before reference).IsFirst := by
  rw [text_eq] at hread
  exact ⟨.cons hbefore hread hfirst.parts_read, hfirst.gap_free, hfirst.malformed⟩

end Culprit

/-! ## The error at a malformed reference -/

theorem parse_go_part
    {before : Text} (hbefore : '$' ∉ before) {reference : Reference} {rest : Text}
    (hread : reference.ReadBefore rest) (done : List (Text × Reference)) (passed : Nat) :
    parse.go done passed (before ++ reference.text ++ rest) =
      parse.go ((before, reference) :: done)
        (passed + (before.length + reference.text.length)) rest := by
  cases hread with
  | braced hbody hclose =>
      rw [parse_go_braced hbefore hbody hclose, Reference.text_braced]
      congr 1
      simp only [List.cons_append, List.length_cons, List.length_append, List.length_nil]
      omega
  | bare hbody hopen hblank hends =>
      rw [parse_go_bare hbefore hbody hopen hblank hends, Reference.text_bare]
      congr 1
      simp only [List.length_cons]
      omega

theorem parse_go_malformed
    {before : Text} (hbefore : '$' ∉ before) {inside : Text} {fault : Fault} {shift : Nat}
    (hmalformed : Reference.Malformed inside fault shift) (done : List (Text × Reference))
    (passed : Nat) :
    parse.go done passed (before ++ '$' :: inside) =
      .error ⟨some (passed + before.length + shift + 1), fault⟩ := by
  cases hmalformed with
  | empty hends => exact parse_go_empty_bare hbefore hends done passed
  | emptyBraces rest => exact parse_go_empty_braced hbefore rest done passed
  | unclosed hclose => exact parse_go_open hbefore hclose done passed

theorem ReadUpTo.parse_go_text
    {gap inside : Text} {parts : List (Text × Reference)}
    (hparts : ReadUpTo (gap ++ '$' :: inside) parts) (hgap : '$' ∉ gap) {fault : Fault}
    {shift : Nat} (hmalformed : Reference.Malformed inside fault shift)
    (done : List (Text × Reference)) (passed : Nat) :
    parse.go done passed (Expression.text ⟨parts, gap ++ '$' :: inside⟩) =
      .error ⟨some (passed + (Culprit.mk parts gap inside fault shift).column), fault⟩ := by
  induction hparts generalizing done passed with
  | nil =>
      have hgo := parse_go_malformed hgap hmalformed done passed
      have hpassed : passed + gap.length + shift + 1 = passed + (gap.length + shift + 1) := by
        omega
      rwa [hpassed] at hgo
  | @cons before reference parts hbefore hread hparts ih =>
      rw [text_cons, parse_go_part hbefore hread, ih]
      have hcolumn : (Culprit.cons before reference ⟨parts, gap, inside, fault, shift⟩).column =
          before.length + reference.text.length +
            Culprit.column ⟨parts, gap, inside, fault, shift⟩ :=
        Culprit.column_cons
      unfold Culprit.cons at hcolumn
      rw [hcolumn]
      congr 3
      omega

theorem Culprit.IsFirst.parse_text {culprit : Culprit} (hfirst : culprit.IsFirst) :
    parse culprit.text = .error ⟨some culprit.column, culprit.fault⟩ := by
  have hgo := hfirst.parts_read.parse_go_text hfirst.gap_free hfirst.malformed [] 0
  rw [Nat.zero_add, ← text_eq] at hgo
  exact hgo

/-! ## What an error points at -/

end Expression

/-- Behind a sigil stands a malformed reference, or one that is read. -/
theorem Reference.malformed_or_read (inside : Text) :
    (∃ fault shift, Malformed inside fault shift) ∨
      ∃ (reference : Reference) (rest : Text),
        '$' :: inside = reference.text ++ rest ∧ reference.ReadBefore rest := by
  by_cases hopen : inside.head? = some '{'
  · obtain ⟨behind, rfl⟩ := List.head?_eq_some_iff.1 hopen
    by_cases hclose : '}' ∈ behind
    · obtain ⟨body, rest, rfl, hfirst⟩ := List.eq_append_cons_of_mem hclose
      by_cases hbody : body = []
      · subst hbody
        exact .inl ⟨_, _, .emptyBraces rest⟩
      · exact .inr ⟨⟨body, true⟩, rest, by simp [text], .braced hbody hfirst⟩
    · exact .inl ⟨_, _, .unclosed hclose⟩
  · have hends := Text.endsToken_splitToken_snd inside
    have hinside := Text.splitToken_fst_append_snd inside
    by_cases hbody : (Text.splitToken inside).1 = []
    · rw [hbody, List.nil_append] at hinside
      rw [hinside] at hends
      exact .inl ⟨_, _, .empty hends⟩
    · refine .inr ⟨⟨(Text.splitToken inside).1, false⟩, (Text.splitToken inside).2, ?_, ?_⟩
      · rw [text_bare, List.cons_append, hinside]
      · refine .bare hbody ?_ (fun c hc => Text.isBlank_of_mem_splitToken_fst hc) hends
        rw [← hinside, List.head?_append_of_ne_nil _ hbody] at hopen
        exact hopen

namespace Expression

/-- A text has a first malformed reference, unless every sigil begins a reference.  The induction
is on the length, since a reference of any length stands in front of the rest. -/
theorem exists_isFirst_or_wellReferenced (text : Text) :
    (∃ culprit : Culprit, culprit.IsFirst ∧ culprit.text = text) ∨ WellReferenced text := by
  induction hlength : text.length using Nat.strongRecOn generalizing text with
  | ind length ih =>
      by_cases hsigil : '$' ∈ text
      · obtain ⟨before, inside, rfl, hbefore⟩ := List.eq_append_cons_of_mem hsigil
        rcases Reference.malformed_or_read inside with
          ⟨fault, shift, hmalformed⟩ | ⟨reference, rest, hinside, hread⟩
        · exact .inl ⟨⟨[], before, inside, fault, shift⟩, ⟨.nil, hbefore, hmalformed⟩, rfl⟩
        · rw [hinside] at hlength ⊢
          obtain ⟨_, hhead⟩ := reference.exists_text_eq_cons
          have hshorter : rest.length < length := by
            rw [← hlength, hhead]
            simp only [List.length_append, List.length_cons]
            omega
          rcases ih _ hshorter rest rfl with ⟨culprit, hfirst, rfl⟩ | hrest
          · refine .inl ⟨culprit.cons before reference, hfirst.cons hbefore hread, ?_⟩
            rw [Culprit.text_cons, List.append_assoc]
          · exact .inr (.append_of_not_mem hbefore (.reference hread hrest))
      · have hplain := WellReferenced.append_of_not_mem hsigil .nil
        rw [List.append_nil] at hplain
        exact .inr hplain

/-- A text is refused exactly at its first malformed reference. -/
theorem parse_eq_error_iff {text : Text} {error : SyntaxError} :
    parse text = .error error ↔
      ∃ culprit : Culprit, culprit.IsFirst ∧ culprit.text = text ∧
        error = ⟨some culprit.column, culprit.fault⟩ := by
  constructor
  · intro hparse
    rcases exists_isFirst_or_wellReferenced text with ⟨culprit, hfirst, rfl⟩ | hread
    · exact ⟨culprit, hfirst, rfl, Except.error.inj (hparse.symm.trans hfirst.parse_text)⟩
    · obtain ⟨expression, hok⟩ := exists_parse_iff.2 hread
      rw [hok] at hparse
      cases hparse
  · rintro ⟨culprit, hfirst, rfl, rfl⟩
    exact hfirst.parse_text

/-- The character that the error points at is a sigil or the brace behind one. -/
theorem Culprit.IsFirst.getElem?_text {culprit : Culprit} (hfirst : culprit.IsFirst) :
    (culprit.fault = .emptyReference ∧ culprit.text[culprit.column - 1]? = some '$') ∨
      culprit.fault = .openReference ∧ culprit.text[culprit.column - 1]? = some '{' := by
  obtain ⟨parts, gap, inside, fault, shift⟩ := culprit
  unfold text column
  rw [Nat.add_sub_cancel, List.getElem?_append_right (Nat.le_add_right _ _),
    Nat.add_sub_cancel_left]
  cases hfirst.malformed with
  | empty => exact .inl ⟨rfl, rfl⟩
  | emptyBraces => exact .inl ⟨rfl, rfl⟩
  | unclosed => exact .inr ⟨rfl, rfl⟩

end Expression

/-! ## Definition lines -/

namespace Definition

/-- The expression of a line, which is trimmed and stands behind an equals sign, and what stands
around it. -/
structure HasExpression (line front expression back : Text) : Prop where
  line_eq : line = front ++ (expression ++ back)
  equals : ∃ head gap : Text, front = head ++ '=' :: gap ∧ gap.IsSpace
  expression_ne_nil : expression ≠ []
  expression_head : ∀ c, expression.head? = some c → Text.isWhite c = false
  expression_last : ∀ c, expression.getLast? = some c → Text.isWhite c = false
  back_space : back.IsSpace
  split_eq : ∃ name unit, split line = .ok (name, unit, expression ++ back)

theorem exists_hasExpression
    {line unit tail : Text} {name : QualifiedName}
    (hsplit : split line = .ok (name, unit, tail)) :
    ∃ front back, HasExpression line front (Text.trimEnd tail) back ∧
      line.length - tail.length = front.length := by
  obtain ⟨afterKeyword, token, afterName, rest, hline, htoken, _, _, hunit, htail, hne⟩ :=
    split_eq_ok_iff.1 hsplit
  obtain rfl : _ = afterName := congrArg Prod.snd htoken
  obtain ⟨head, hhead⟩ := (suffix_of_splitUnit hunit).trans (suffix_of_afterName hline)
  obtain ⟨gap, hgap, hrest⟩ := Text.exists_isSpace_append rest
  obtain ⟨back, hback, hspace⟩ := (Text.dropEndWhile_eq_iff.1 (rfl : Text.trimEnd tail = _)).1
  have hfront : line = head ++ '=' :: gap ++ tail := by
    rw [← hhead, htail, List.append_assoc, List.cons_append, ← hrest]
  refine ⟨head ++ '=' :: gap, back, ?_, ?_⟩
  · exact
      { line_eq := by rw [← hback, ← hfront]
        equals := ⟨head, gap, rfl, hgap⟩
        expression_ne_nil := hne
        expression_head := by
          intro c hc
          rw [Text.head?_eq_of_begins (Text.trimEnd_begins tail) hne, htail] at hc
          exact Text.not_white_of_head?_trimStart hc
        expression_last := fun c hc => Text.not_white_of_getLast?_trimEnd hc
        back_space := hspace
        split_eq := ⟨name, unit, by rw [← hback, hsplit]⟩ }
  · rw [hfront, List.length_append, Nat.add_sub_cancel]

theorem split_of_read_eq_error
    {line : SourceLine} {error : ExpandError} {column : Nat} (hread : read line = .error error)
    (hcolumn : error.column? = some column) :
    ∃ name unit tail found, split line.text = .ok (name, unit, tail) ∧
      Expression.parse (Text.trimEnd tail) = .error found ∧
        error = .malformed line.number (found.shifted (line.text.length - tail.length)) := by
  unfold read at hread
  split at hread
  · obtain rfl := Except.error.inj hread
    cases hcolumn
  · next name unit tail hsplit =>
      split at hread
      · next found hqualify =>
          exact ⟨name, unit, tail, found, hsplit, map_eq_error_iff.1 hqualify,
            (Except.error.inj hread).symm⟩
      · cases hread

theorem HasExpression.read_eq_error
    {line : SourceLine} {front expression back : Text} {error : SyntaxError}
    (hline : HasExpression line.text front expression back)
    (hparse : Expression.parse expression = .error error) :
    read line = .error (.malformed line.number (error.shifted front.length)) := by
  obtain ⟨name, unit, hsplit⟩ := hline.split_eq
  have htrim : Text.trimEnd (expression ++ back) = expression :=
    Text.dropEndWhile_eq_iff.2 ⟨⟨back, rfl, hline.back_space⟩, hline.expression_last⟩
  have hlength : line.text.length - (expression ++ back).length = front.length := by
    rw [hline.line_eq, List.length_append, Nat.add_sub_cancel]
  have hqualify : Expression.qualifyText name.dataset expression = .error error :=
    map_eq_error_iff.2 hparse
  unfold read
  simp only [hsplit, htrim, hqualify, hlength]

theorem HasExpression.getElem?_eq_some
    {text front expression back : Text} (hline : HasExpression text front expression back)
    {i : Nat} {c : Char} (hc : expression[i]? = some c) :
    text[front.length + i]? = some c := by
  obtain ⟨hi, _⟩ := List.getElem?_eq_some_iff.1 hc
  rw [hline.line_eq, List.getElem?_append_right (Nat.le_add_right _ _), Nat.add_sub_cancel_left,
    List.getElem?_append_left hi, hc]

/-- A line is refused at a column exactly if its expression holds a malformed reference.  The
column is then that of the first one in the line: of its sigil if it is empty, and of its brace
if that is never closed. -/
theorem read_points_at_culprit_iff {line : SourceLine} {error : ExpandError} {column : Nat} :
    (read line = .error error ∧ error.column? = some column) ↔
      ∃ front back, ∃ culprit : Expression.Culprit,
        HasExpression line.text front culprit.text back ∧ culprit.IsFirst ∧
          error = .malformed line.number ⟨some column, culprit.fault⟩ ∧
            column = front.length + culprit.column ∧
              (culprit.fault = .emptyReference ∧ line.text[column - 1]? = some '$' ∨
                culprit.fault = .openReference ∧ line.text[column - 1]? = some '{') := by
  constructor
  · rintro ⟨hread, hcolumn⟩
    obtain ⟨name, unit, tail, found, hsplit, hparse, rfl⟩ := split_of_read_eq_error hread hcolumn
    obtain ⟨front, back, hline, hlength⟩ := exists_hasExpression hsplit
    obtain ⟨culprit, hfirst, htext, rfl⟩ := Expression.parse_eq_error_iff.1 hparse
    rw [← htext] at hline
    rw [hlength] at hcolumn ⊢
    have hsum : column = front.length + culprit.column := by
      rw [Nat.add_comm]
      exact (Option.some.inj hcolumn).symm
    have hoffset : column - 1 = front.length + (culprit.column - 1) := by
      rw [hsum]
      exact Nat.add_sub_assoc (Nat.le_add_left 1 _) _
    refine ⟨front, back, culprit, hline, hfirst, ?_, hsum, ?_⟩
    · rw [hsum, Nat.add_comm]
      rfl
    · rw [hoffset]
      rcases hfirst.getElem?_text with ⟨hfault, hc⟩ | ⟨hfault, hc⟩
      · exact .inl ⟨hfault, hline.getElem?_eq_some hc⟩
      · exact .inr ⟨hfault, hline.getElem?_eq_some hc⟩
  · rintro ⟨front, back, culprit, hline, hfirst, rfl, rfl, _⟩
    refine ⟨?_, rfl⟩
    rw [hline.read_eq_error hfirst.parse_text, Nat.add_comm]
    rfl

/-- Wide white space, letters of two bytes and a reference that is read in front of the brace. -/
def unclosedLine : Text := "DEFINE 1:é m³ =\u2003$å * $\x7bø".toList

example : read ⟨4, unclosedLine⟩ = .error (.malformed 4 ⟨some 23, .openReference⟩) := by
  decide +kernel

end Definition

end ChartScript
