import ChartScript.Proofs.DefinitionLayout

/-!
# Definitions are read back

A definition is canonical if its line shows all of its parts: a readable name and a unit
without blanks, and a trimmed expression whose references are bound.  The line of a
canonical definition is read as that definition, and what is read is canonical, provided
that the line holds no line feed and binding the references puts no brace inside braces.
-/

namespace ChartScript

namespace Definition

/-- Binding the references of the line puts no brace inside braces. -/
def Enclosable (line : Text) : Prop :=
  ∀ name unit tail expression, split line = .ok (name, unit, tail) →
    Expression.parse (Text.trimEnd tail) = .ok expression → expression.Enclosable

theorem enclosable_of_split
    {line unit tail : Text} {name : QualifiedName} {expression : Expression}
    (hsplit : split line = .ok (name, unit, tail))
    (hparse : Expression.parse (Text.trimEnd tail) = .ok expression)
    (hexpression : expression.Enclosable) :
    Enclosable line := by
  intro _ _ _ _ hother hotherParse
  obtain ⟨rfl, rfl, rfl⟩ := by simpa using hsplit.symm.trans hother
  obtain rfl := Except.ok.inj (hparse.symm.trans hotherParse)
  exact hexpression

/-! ## Canonical definitions -/

structure Canonical (definition : Definition) : Prop where
  name_readable : definition.name.Readable
  name_not_blank : ∀ c ∈ definition.name.name, Text.isBlank c = false
  isUnit : IsUnit definition.unit
  expression_ne_nil : definition.expression ≠ []
  expression_no_lineFeed : '\n' ∉ definition.expression
  expression_head : ∀ c, definition.expression.head? = some c → Text.isWhite c = false
  expression_last : ∀ c, definition.expression.getLast? = some c → Text.isWhite c = false
  /-- The references are bound, so that the dataset does not matter any more. -/
  expression_bound : ∀ dataset,
    Expression.qualifyText dataset definition.expression = .ok definition.expression

theorem Canonical.name_text_not_blank
    {definition : Definition} (hcanonical : definition.Canonical) :
    ∀ c ∈ definition.name.text, Text.isBlank c = false := by
  intro c hc
  unfold QualifiedName.text at hc
  rcases List.mem_append.1 hc with hc | hc
  · exact Decimal.isBlank_of_isDigit (Decimal.isDigit_of_mem_ofNat hc)
  · rcases List.mem_cons.1 hc with rfl | hc
    · decide
    · exact hcanonical.name_not_blank c hc

theorem text_eq (definition : Definition) :
    definition.text =
      keyword ++ ' ' :: (definition.name.text ++
        ' ' :: (definition.unit ++ ' ' :: '=' :: ' ' :: definition.expression)) := by
  simp [text]

theorem Canonical.isNameToken
    {definition : Definition} (hcanonical : definition.Canonical) :
    IsNameToken definition.name.text := by
  refine ⟨⟨definition.name.text_ne_nil, hcanonical.name_text_not_blank⟩,
    definition.name.not_white_of_head?_text, ?_, ?_⟩
  · obtain ⟨c, rest, htext, hdigit⟩ := definition.name.exists_text_eq_cons
    rw [htext]
    intro heq
    obtain rfl := by simpa using heq
    cases hdigit
  · intro _ hnone
    rw [hcanonical.name_readable.parse?_text] at hnone
    cases hnone

def Canonical.parts
    {definition : Definition} (hcanonical : definition.Canonical) : Parts where
  token := definition.name.text
  unit? := some definition.unit
  expression := definition.expression
  isNameToken := hcanonical.isNameToken
  isUnit := by
    intro unit hunit
    obtain rfl := Option.some.inj hunit
    exact hcanonical.isUnit
  expression_ne_nil := hcanonical.expression_ne_nil
  expression_head := hcanonical.expression_head
  expression_last := hcanonical.expression_last

theorem Canonical.name_parts
    {definition : Definition} (hcanonical : definition.Canonical) :
    hcanonical.parts.name = definition.name := by
  change (QualifiedName.parse? definition.name.text).getD ⟨0, definition.name.text⟩ =
    definition.name
  rw [hcanonical.name_readable.parse?_text, Option.getD_some]

theorem Canonical.line_single_parts
    {definition : Definition} (hcanonical : definition.Canonical) :
    Layout.single.line hcanonical.parts = definition.text := by
  rw [text_eq]
  simp [Layout.line, Layout.single, Layout.unitText, Layout.afterUnitText, parts]

theorem Canonical.split_text
    {definition : Definition} (hcanonical : definition.Canonical) :
    split definition.text = .ok (definition.name, definition.unit, definition.expression) := by
  have hsplit := Layout.single.split_line hcanonical.parts
  rw [hcanonical.line_single_parts, hcanonical.name_parts] at hsplit
  rw [hsplit]
  exact congrArg (fun tail => Except.ok (definition.name, definition.unit, tail))
    (List.append_nil definition.expression)

/-- The line of a canonical definition is read as that definition. -/
theorem Canonical.read_text
    {definition : Definition} (hcanonical : definition.Canonical) (number : Nat) :
    read ⟨number, definition.text⟩ = .ok definition := by
  unfold read
  simp only [hcanonical.split_text, Text.trimEnd_eq_self hcanonical.expression_last,
    hcanonical.expression_bound]

theorem canonical_of_read
    {line : SourceLine} {definition : Definition} (hread : read line = .ok definition)
    (hfeed : '\n' ∉ line.text) (hclosed : Enclosable line.text) :
    definition.Canonical := by
  obtain ⟨tail, hsplit, hbound⟩ := read_eq_ok_iff.1 hread
  obtain ⟨hfirst, hlast⟩ := not_white_of_read hread
  obtain ⟨expression, hparse, hexpression⟩ := map_eq_ok_iff.1 hbound
  obtain ⟨hreadable, hname⟩ := readable_of_split hsplit hfeed
  obtain ⟨hsuffix, _, htail⟩ := tail_of_split hsplit
  have hfeedTail : '\n' ∉ Text.trimEnd tail := fun hmem =>
    hfeed (hsuffix.subset ((Text.trimEnd_begins tail).subset hmem))
  have henclosable := hclosed _ _ tail expression hsplit hparse
  have htext := Expression.text_of_parse hparse
  refine ⟨hreadable, hname, isUnit_of_split hsplit hfeed, ?_, ?_, hfirst, hlast, ?_⟩
  · rw [← hexpression]
    exact Expression.text_qualify_ne_nil (htext ▸ htail) _
  · rw [← hexpression]
    refine Expression.not_mem_text_qualify (by decide) (by decide) ?_ _
    rw [htext]
    exact hfeedTail
  · intro dataset
    rw [← hexpression]
    exact Expression.qualifyText_text_qualify hparse henclosable hfeedTail _ dataset

end Definition

end ChartScript
