import ChartScript.Proofs.NothingLeft

/-!
# The number of datasets in every line

`$NUM_CASES` begins with a character that it holds once, so no two occurrences overlap, and a
line is made up of its occurrences and the parts between them.  Putting in the number of
datasets keeps the parts.  No digit belongs to the variable, so none of the numbers makes a new
occurrence with what stands around it, and a second time changes nothing.
-/

namespace ChartScript

/-! ## The parts between the occurrences -/

namespace Text

/-- The text is made up of the parts with the pattern between them, and none of the parts holds
the pattern. -/
structure CutInto (pattern text : Text) (parts : List Text) : Prop where
  ne_nil : parts ≠ []
  text_eq : text = pattern.intercalate parts
  not_infix : ∀ part ∈ parts, ¬ pattern <:+: part

theorem begins_intercalate (pattern first : Text) (parts : List Text) :
    first <+: pattern.intercalate (first :: parts) := by
  cases parts with
  | nil => simp
  | cons next parts =>
      rw [List.intercalate_cons_cons, List.append_assoc]
      exact List.prefix_append _ _

/-- Replacing a pattern puts the value between the parts. -/
theorem exists_cutInto {pattern : Text} (hpattern : pattern ≠ []) (value text : Text) :
    ∃ parts, CutInto pattern text parts ∧
      replaceAll pattern value text = value.intercalate parts := by
  induction text using replaceAll_induction hpattern with
  | nil => exact ⟨[[]], ⟨List.cons_ne_nil _ _, rfl, by simp [hpattern]⟩, rfl⟩
  | occurrence rest ih =>
      obtain ⟨parts, hcut, hreplaced⟩ := ih
      refine ⟨[] :: parts, ⟨List.cons_ne_nil _ _, ?_, ?_⟩, ?_⟩
      · rw [List.intercalate_cons_of_ne_nil hcut.ne_nil, ← hcut.text_eq, List.nil_append]
      · exact List.forall_mem_cons.2 ⟨by simpa using hpattern, hcut.not_infix⟩
      · rw [List.intercalate_cons_of_ne_nil hcut.ne_nil, ← hreplaced, replaceAll_append hpattern,
          List.nil_append]
  | kept c rest hc ih =>
      obtain ⟨parts, hcut, hreplaced⟩ := ih
      obtain ⟨first, parts, rfl⟩ := List.exists_cons_of_ne_nil hcut.ne_nil
      obtain ⟨hfirst, hothers⟩ := List.forall_mem_cons.1 hcut.not_infix
      refine ⟨(c :: first) :: parts, ⟨List.cons_ne_nil _ _, ?_, ?_⟩, ?_⟩
      · rw [List.intercalate_cons_cons_left, ← hcut.text_eq]
      · refine List.forall_mem_cons.2 ⟨?_, hothers⟩
        have hlonger : c :: first <+: c :: rest := by
          rw [hcut.text_eq, List.prefix_cons_inj]
          exact begins_intercalate pattern first parts
        rw [List.infix_cons_iff]
        rintro (hbegins | hinside)
        · exact hc (hbegins.trans hlonger)
        · exact hfirst hinside
      · rw [replaceAll_cons value hc, List.intercalate_cons_cons_left, hreplaced]

/-- Two occurrences of a pattern that holds its first character once do not overlap. -/
theorem eq_or_exists_of_occurrence
    {x : Char} {name : Text} (hx : x ∉ name) {first : Text} (hfirst : ¬ x :: name <:+: first)
    {rest front back : Text}
    (htext : first ++ (x :: name ++ rest) = front ++ (x :: name ++ back)) :
    (front = first ∧ back = rest) ∨
      ∃ after, front = first ++ (x :: name ++ after) ∧ rest = after ++ (x :: name ++ back) := by
  rcases List.append_eq_append_iff.1 htext with ⟨inside, rfl, hrest⟩ | ⟨inside, rfl, hback⟩
  · rcases List.append_eq_append_iff.1 hrest with ⟨after, rfl, hafter⟩ | ⟨after, hpattern, hback⟩
    · exact .inr ⟨after, rfl, hafter⟩
    · cases inside with
      | nil =>
          rw [List.nil_append, List.append_cancel_left_eq] at hrest
          exact .inl ⟨List.append_nil first, hrest.symm⟩
      | cons d inside =>
          rw [List.cons_append] at hpattern
          obtain ⟨rfl, hname⟩ := List.cons.inj hpattern
          cases after with
          | nil =>
              rw [List.append_nil] at hname
              exact .inr ⟨[], by rw [hname, List.append_nil], hback.symm⟩
          | cons e after =>
              obtain rfl := (List.cons.inj hback).1
              exact absurd (by simp [hname]) hx
  · cases inside with
    | nil =>
        rw [List.nil_append, List.append_cancel_left_eq] at hback
        exact .inl ⟨(List.append_nil front).symm, hback⟩
    | cons d inside =>
        have hbegins : x :: name <+: d :: inside ++ x :: (name ++ rest) := ⟨back, hback⟩
        have hinside := begins_of_begins_append_head hx (List.cons_ne_nil d inside) hbegins
        exact absurd (hinside.isInfix.trans (List.suffix_append front _).isInfix) hfirst

/-- The pattern occurs nowhere but between two parts. -/
theorem CutInto.exists_append
    {x : Char} {name : Text} (hx : x ∉ name) {text : Text} {parts : List Text}
    (hcut : CutInto (x :: name) text parts) {front back : Text}
    (htext : text = front ++ (x :: name ++ back)) :
    ∃ left right, parts = left ++ right ∧ CutInto (x :: name) front left ∧
      CutInto (x :: name) back right := by
  induction parts generalizing text front with
  | nil => exact absurd rfl hcut.ne_nil
  | cons first parts ih =>
      obtain ⟨hfirst, hothers⟩ := List.forall_mem_cons.1 hcut.not_infix
      have hparts := hcut.text_eq
      by_cases hlast : parts = []
      · subst hlast
        rw [List.intercalate_singleton] at hparts
        rw [← hparts, htext] at hfirst
        exact absurd ⟨front, back, List.append_assoc _ _ _⟩ hfirst
      · have hrest : CutInto (x :: name) ((x :: name).intercalate parts) parts :=
          ⟨hlast, rfl, hothers⟩
        rw [htext, List.intercalate_cons_of_ne_nil hlast, List.append_assoc] at hparts
        rcases eq_or_exists_of_occurrence hx hfirst hparts.symm with
          ⟨rfl, rfl⟩ | ⟨after, rfl, hafter⟩
        · exact ⟨[front], parts, rfl,
            ⟨List.cons_ne_nil _ _, by simp, List.forall_mem_singleton.2 hfirst⟩, hrest⟩
        · obtain ⟨left, right, rfl, hleft, hright⟩ := ih hrest hafter
          refine ⟨first :: left, right, rfl, ⟨List.cons_ne_nil _ _, ?_, ?_⟩, hright⟩
          · rw [List.intercalate_cons_of_ne_nil hleft.ne_nil, ← hleft.text_eq, List.append_assoc]
          · exact List.forall_mem_cons.2 ⟨hfirst, hleft.not_infix⟩

/-- The value stands in the place of the occurrences of the pattern, and all else is kept: what
stands before an occurrence and what stands behind it are parts of the text. -/
def Replaced (pattern value before after : Text) : Prop :=
  ∃ parts, CutInto pattern before parts ∧
    (∀ front back, before = front ++ (pattern ++ back) →
      ∃ left right, parts = left ++ right ∧ CutInto pattern front left ∧
        CutInto pattern back right) ∧
    after = value.intercalate parts

theorem replaced_replaceAll {x : Char} {name : Text} (hx : x ∉ name) (value text : Text) :
    Replaced (x :: name) value text (replaceAll (x :: name) value text) := by
  obtain ⟨parts, hcut, hreplaced⟩ := exists_cutInto (List.cons_ne_nil x name) value text
  exact ⟨parts, hcut, fun _ _ htext => hcut.exists_append hx htext, hreplaced⟩

end Text

/-! ## The number of datasets -/

namespace SourceLine

theorem not_infix_withCases (datasets : Nat) (line : SourceLine) :
    ¬ casesVariable <:+: (line.withCases datasets).text := by
  obtain ⟨c, digits, hdigits, hc⟩ := Decimal.exists_ofNat_eq_cons datasets
  have hsigil : '$' ∉ Decimal.ofNat datasets := Decimal.not_mem_ofNat (by decide) _
  have hname : ∀ d, (Decimal.ofNat datasets).head? = some d →
      d ∉ ['N', 'U', 'M', '_', 'C', 'A', 'S', 'E', 'S'] := by
    intro d hd hmem
    rw [hdigits, List.head?_cons, Option.some_inj] at hd
    have hletters :
        List.all ['N', 'U', 'M', '_', 'C', 'A', 'S', 'E', 'S'] (!Char.isDigit ·) = true := by
      decide
    have hletter := List.all_eq_true.1 hletters d hmem
    rw [← hd, hc] at hletter
    cases hletter
  exact Text.not_infix_replaceAll (Decimal.ofNat_ne_nil datasets) hsigil hname line.text

/-- Putting in the number of datasets keeps the lines and their numbers, replaces the occurrences
of the variable and nothing else, and leaves nothing for a second time. -/
theorem map_withCases_complete (lines : List SourceLine) (datasets : Nat) :
    (lines.map (withCases datasets)).map number = lines.map number ∧
      (lines.map (withCases datasets)).length = lines.length ∧
      List.Forall₂ (fun before after =>
          Text.Replaced casesVariable (Decimal.ofNat datasets) before.text after.text)
        lines (lines.map (withCases datasets)) ∧
      (∀ line ∈ lines.map (withCases datasets), ¬ casesVariable <:+: line.text) ∧
      ∀ other, (lines.map (withCases datasets)).map (withCases other) =
        lines.map (withCases datasets) := by
  have hnone : ∀ line ∈ lines.map (withCases datasets), ¬ casesVariable <:+: line.text := by
    intro line hline
    obtain ⟨before, _, rfl⟩ := List.mem_map.1 hline
    exact not_infix_withCases datasets before
  refine ⟨?_, List.length_map _, ?_, hnone, ?_⟩
  · rw [List.map_map]
    rfl
  · rw [List.forall₂_map_right_iff, List.forall₂_same]
    exact fun line _ => Text.replaced_replaceAll (by decide) _ line.text
  · intro other
    conv_rhs => rw [← List.map_id (lines.map (withCases datasets))]
    exact List.map_congr_left fun line hline => withCases_eq_self (hnone line hline) other

end SourceLine

end ChartScript
