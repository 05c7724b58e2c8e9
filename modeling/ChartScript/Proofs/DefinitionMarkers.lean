import ChartScript.Proofs.DefinitionBlanks
import ChartScript.Proofs.SeriesMarkers
import ChartScript.Proofs.WrittenDirectives

/-!
# Definitions for every dataset

A `DEFINE` line with a marker is written anew with single blanks between its tokens, while the
line that names the dataset keeps its blanks.  Either both are read or neither is, and name and
unit are the same; but the expression runs over several tokens, and only the line that names
the dataset keeps what stands between them.  Blanks in braces belong to the name of a quantity,
so the two lines can even speak of different quantities.
-/

namespace ChartScript

/-! ## The dataset in the place of the marker -/

/-- The template of a `DEFINE` line with a marker in front of the name. -/
def Template.definition (name : Text) (rest : List Text) : Template :=
  { front := [Definition.keyword], suffix := ':' :: name, rest }

namespace SourceLine

/-- The line with the dataset `number` in front of the name, which is its second token. -/
def withNumber (number : Nat) (name : Text) (line : SourceLine) : SourceLine :=
  { line with text := Text.setToken 1 (Decimal.ofNat number ++ ':' :: name) line.text }

section

variable {line : SourceLine} {c : Char} {name : Text} {rest : List Text}
  (htokens : Text.tokens .blanks line.text = Definition.keyword :: (c :: ':' :: name) :: rest)

include htokens

theorem tokens_withNumber (number : Nat) :
    Text.tokens .blanks (line.withNumber number name).text =
      Definition.keyword :: (Decimal.ofNat number ++ ':' :: name) :: rest := by
  have hindex : 1 < (Text.tokens .blanks line.text).length := by
    rw [htokens]
    simp
  have hname : Text.IsWord .blanks (Decimal.ofNat number ++ ':' :: name) := by
    have hmem : (c :: ':' :: name) ∈ Text.tokens .blanks line.text := by
      rw [htokens]
      simp
    have hmarked := Text.isWord_of_mem_tokens hmem
    refine (Directive.isWord_ofNat number).append ⟨List.cons_ne_nil _ _, ?_⟩
    exact fun d hd => hmarked.2 d (List.mem_cons_of_mem c hd)
  unfold withNumber
  rw [Text.tokens_setToken hname hindex, htokens]
  rfl

/-- What the marker gives for a dataset is the line that names it, with single blanks. -/
theorem fill_definition (number : Nat) :
    (Template.definition name rest).fill number = (line.withNumber number name).text.squeeze := by
  unfold Text.squeeze
  rw [tokens_withNumber htokens]
  rfl

theorem resolveMarker_definition
    (hmarker : Template.isMarker c = true) (hname : name ≠ []) (datasets : Nat) :
    line.resolveMarker datasets =
      .ok ((List.range datasets).map fun index =>
        { line with text := (Template.definition name rest).fill (index + 1) }) := by
  obtain ⟨d, name, rfl⟩ := List.exists_cons_of_ne_nil hname
  unfold resolveMarker
  rw [htokens]
  simp only [Template.ofTokens, if_true, Template.ofDefineTokens, hmarker]
  rfl

end

end SourceLine

namespace Directive

theorem read_of_define
    {line : SourceLine} {words : List Text}
    (htokens : Text.tokens .blanks line.text = Definition.keyword :: words) :
    read line = (Definition.read line).map .define := by
  have hkeyword : Keyword.ofLine line.text = .define := Keyword.ofLine_of_tokens htokens
  unfold read
  rw [hkeyword]

/-- A `DEFINE` line with a marker gives, for every dataset, a line that is read exactly if the
line that names the dataset is, and as the same definition up to the blanks between the tokens
of the expression, of which only one is left: the one line is the other with single blanks. -/
theorem read_resolveMarker_definition
    {line : SourceLine} {c : Char} {name : Text} {rest : List Text}
    (hmarker : Template.isMarker c = true) (hname : name ≠ [])
    (htokens : Text.tokens .blanks line.text = Definition.keyword :: (c :: ':' :: name) :: rest)
    (datasets : Nat) :
    ∃ lines, line.resolveMarker datasets = .ok lines ∧ lines.length = datasets ∧
      ∀ index (hindex : index < lines.length) directive,
        read lines[index] = .ok directive ↔
          ∃ definition, read (line.withNumber (index + 1) name) = .ok (.define definition) ∧
            directive = .define definition.squeezed := by
  have hresolve := SourceLine.resolveMarker_definition htokens hmarker hname datasets
  refine ⟨_, hresolve, by simp, ?_⟩
  intro index hindex directive
  have hnamed := SourceLine.tokens_withNumber htokens (index + 1)
  have hfilled : Text.tokens .blanks (line.withNumber (index + 1) name).text.squeeze = _ :=
    (Text.tokens_squeeze _).trans hnamed
  simp only [List.getElem_map, List.getElem_range, SourceLine.fill_definition htokens]
  rw [read_of_define hfilled, read_of_define hnamed, map_eq_ok_iff]
  simp only [map_eq_ok_iff, Definition.read_squeeze_eq_ok_iff]
  constructor
  · rintro ⟨_, ⟨plain, hread, rfl⟩, rfl⟩
    exact ⟨plain, ⟨plain, hread, rfl⟩, rfl⟩
  · rintro ⟨plain, ⟨_, hread, heq⟩, rfl⟩
    obtain rfl := Directive.define.inj heq
    exact ⟨_, ⟨_, hread, rfl⟩, rfl⟩

/-- A definition for every dataset, with a tab, and with runs of blanks inside braces too. -/
def spacedDefinition : SourceLine := ⟨4, "DEFINE  ?:a\tm2 =  $b  + ${3:c  d} ".toList⟩

theorem read_resolveMarker_definition_spacedDefinition :
    let definition : Definition :=
      ⟨⟨2, ['a']⟩, "${2:b}  + ${3:c  d}".toList, "m2".toList⟩
    Template.isMarker '?' = true ∧ ['a'] ≠ [] ∧
      Text.tokens .blanks spacedDefinition.text =
          [Definition.keyword, "?:a".toList, "m2".toList, ['='], "$b".toList, ['+'],
            "$\x7b3:c".toList, "d\x7d".toList] ∧
        read (spacedDefinition.withNumber 2 ['a']) = .ok (.define definition) ∧
          ∃ lines, spacedDefinition.resolveMarker 2 = .ok lines ∧
            ∃ hindex : 1 < lines.length,
              read lines[1] = .ok (.define
                { definition with expression := "${2:b} + ${3:c d}".toList }) := by
  intro definition
  have hmarker : Template.isMarker '?' = true := by decide
  have hname : ['a'] ≠ [] := by decide
  have htokens : Text.tokens .blanks spacedDefinition.text =
      [Definition.keyword, "?:a".toList, "m2".toList, ['='], "$b".toList, ['+'],
        "$\x7b3:c".toList, "d\x7d".toList] := by
    decide
  have hnamed : read (spacedDefinition.withNumber 2 ['a']) = .ok (.define definition) := by
    decide +kernel
  obtain ⟨lines, hlines, hlength, hread⟩ :=
    read_resolveMarker_definition hmarker hname htokens 2
  have hindex : 1 < lines.length := by omega
  refine ⟨hmarker, hname, htokens, hnamed, lines, hlines, hindex, ?_⟩
  exact (hread 1 hindex _).2 ⟨definition, hnamed, by decide⟩

/-- Two blanks in an expression are kept where the dataset is named, and not behind a marker. -/
theorem not_forall_read_resolveMarker_definition :
    ¬ ∀ (line : SourceLine) (c : Char) (name : Text) (rest : List Text) (datasets : Nat)
        (lines : List SourceLine), Template.isMarker c = true → name ≠ [] →
      Text.tokens .blanks line.text = Definition.keyword :: (c :: ':' :: name) :: rest →
        line.resolveMarker datasets = .ok lines →
          ∀ index (hindex : index < lines.length) directive, read lines[index] = .ok directive →
            read (line.withNumber (index + 1) name) = .ok directive := by
  intro hall
  have hread := hall ⟨1, "DEFINE *:a = $b  +  1".toList⟩ '*' ['a']
    [['='], "$b".toList, ['+'], ['1']] 1 [⟨1, "DEFINE 1:a = $b + 1".toList⟩]
    (by decide) (by decide) (by decide) (by decide) 0 (by decide)
    (.define ⟨⟨1, ['a']⟩, "${1:b} + 1".toList, Definition.noUnit⟩) (by decide +kernel)
  have hnamed : read (SourceLine.withNumber 1 ['a'] ⟨1, "DEFINE *:a = $b  +  1".toList⟩) =
      .ok (.define ⟨⟨1, ['a']⟩, "${1:b}  +  1".toList, Definition.noUnit⟩) := by
    decide +kernel
  rw [hnamed] at hread
  exact absurd hread (by decide)

end Directive

end ChartScript
