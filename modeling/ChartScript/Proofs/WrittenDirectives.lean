import ChartScript.Marker
import ChartScript.Proofs.SourceLines
import ChartScript.Proofs.WrittenDefinitions

/-!
# Directives are read back

The canonical directives are the canonical definitions, the new charts, and the series whose
numbers are in range and whose quantity is one token.  The line of a canonical directive has
the keyword `DEFINE` or `ADD`, has no marker, and is read as that directive; what is read
from a line is canonical, unless the line is passed through.
-/

namespace ChartScript

namespace Text

theorem firstToken?_cons {line word : Text} {words : List Text}
    (htokens : tokens .blanks line = word :: words) : firstToken? line = some word := by
  unfold firstToken?
  rw [htokens]
  rfl

end Text

theorem Keyword.ofLine_of_tokens
    {line word : Text} {words : List Text} (htokens : Text.tokens .blanks line = word :: words) :
    Keyword.ofLine line = Keyword.ofToken word := by
  unfold Keyword.ofLine
  rw [Text.firstToken?_cons htokens]

namespace Directive

/-- The directives that a line can give in full. -/
def Canonical : Directive → Prop
  | .define definition => definition.Canonical
  | .addChart => True
  | .addSeries dataset quantity axis =>
      dataset < Decimal.wordLimit ∧ Text.IsWord .blanks quantity ∧ '\n' ∉ quantity ∧
        ∀ index, axis = some index → minAxis ≤ index ∧ index ≤ maxAxis
  | .passthrough _ => False

/-! ## The tokens of a canonical line -/

theorem isWord_ofNat (n : Nat) : Text.IsWord .blanks (Decimal.ofNat n) :=
  ⟨Decimal.ofNat_ne_nil n, fun _ hc =>
    Decimal.isBlank_of_isDigit (Decimal.isDigit_of_mem_ofNat hc)⟩

theorem isWord_ofInt (n : Int) : Text.IsWord .blanks (Decimal.ofInt n) := by
  constructor
  · cases n with
    | ofNat n => exact Decimal.ofNat_ne_nil n
    | negSucc n => simp [Decimal.ofInt]
  · intro c hc
    rcases Decimal.isDigit_or_minus_of_mem_ofInt hc with hc | rfl
    · exact Decimal.isBlank_of_isDigit hc
    · rfl

theorem tokens_text_define
    {definition : Definition} (hcanonical : definition.Canonical) :
    ∃ words, Text.tokens .blanks definition.text =
      Definition.keyword :: definition.name.text :: words := by
  have hkeyword : Text.IsWord .blanks Definition.keyword :=
    Text.isWord_of_all (by decide) (by decide)
  have hname : Text.IsWord .blanks definition.name.text :=
    ⟨definition.name.text_ne_nil, hcanonical.name_text_not_blank⟩
  have hblank : Separators.contains .blanks ' ' = true := by decide
  rw [definition.text_eq, Text.tokens_append_separator hkeyword hblank,
    Text.tokens_append_separator hname hblank]
  exact ⟨_, rfl⟩

theorem isWord_addWord : Text.IsWord .blanks addWord :=
  Text.isWord_of_all (by decide) (by decide)

theorem tokens_text_addChart :
    Text.tokens .blanks (text .addChart) = [addWord, chartWord] := by
  apply Text.tokens_joinTokens
  intro word hword
  rcases List.mem_cons.1 hword with rfl | hword
  · exact isWord_addWord
  · obtain rfl := List.mem_singleton.1 hword
    exact Text.isWord_of_all (by decide) (by decide)

def seriesWords (dataset : Nat) (quantity : Text) (axis : Option Int) : List Text :=
  addWord :: seriesWord :: Decimal.ofNat dataset :: quantity ::
    (axis.map Decimal.ofInt).toList

theorem isWord_of_mem_seriesWords
    {dataset : Nat} {quantity : Text} {axis : Option Int}
    (hquantity : Text.IsWord .blanks quantity) :
    ∀ word ∈ seriesWords dataset quantity axis, Text.IsWord .blanks word := by
  intro word hword
  simp only [seriesWords, List.mem_cons, Option.mem_toList, Option.map_eq_some_iff] at hword
  rcases hword with rfl | rfl | rfl | rfl | ⟨index, _, rfl⟩
  · exact isWord_addWord
  · exact Text.isWord_of_all (by decide) (by decide)
  · exact isWord_ofNat dataset
  · exact hquantity
  · exact isWord_ofInt index

theorem no_lineFeed_of_mem_seriesWords
    {dataset : Nat} {quantity : Text} {axis : Option Int} (hquantity : '\n' ∉ quantity) :
    ∀ word ∈ seriesWords dataset quantity axis, '\n' ∉ word := by
  intro word hword
  simp only [seriesWords, List.mem_cons, Option.mem_toList, Option.map_eq_some_iff] at hword
  rcases hword with rfl | rfl | rfl | rfl | ⟨index, _, rfl⟩
  · decide
  · decide
  · exact Decimal.not_mem_ofNat (by decide) _
  · exact hquantity
  · exact Decimal.not_mem_ofInt (by decide) (by decide) _

theorem tokens_text_addSeries
    {dataset : Nat} {quantity : Text} {axis : Option Int}
    (hquantity : Text.IsWord .blanks quantity) :
    Text.tokens .blanks (text (.addSeries dataset quantity axis)) =
      seriesWords dataset quantity axis :=
  Text.tokens_joinTokens (isWord_of_mem_seriesWords hquantity)

def keyword : Directive → Keyword
  | .define _ => .define
  | .addChart => .add
  | .addSeries _ _ _ => .add
  | .passthrough _ => .other

theorem Canonical.keyword_text
    {directive : Directive} (hcanonical : directive.Canonical) :
    Keyword.ofLine directive.text = directive.keyword := by
  cases directive with
  | define definition =>
      obtain ⟨words, htokens⟩ := tokens_text_define hcanonical
      exact Keyword.ofLine_of_tokens htokens
  | addChart => exact Keyword.ofLine_of_tokens tokens_text_addChart
  | addSeries dataset quantity axis =>
      exact Keyword.ofLine_of_tokens (tokens_text_addSeries hcanonical.2.1)
  | passthrough text => exact absurd hcanonical id

/-! ## Reading a canonical line -/

theorem axisOfTokens_toList
    {axis : Option Int} (haxis : ∀ index, axis = some index → minAxis ≤ index ∧ index ≤ maxAxis) :
    axisOfTokens (axis.map Decimal.ofInt).toList = .ok axis := by
  cases axis with
  | none => rfl
  | some index =>
      obtain ⟨hlow, hhigh⟩ := haxis index rfl
      simp only [Option.map_some, Option.toList_some, axisOfTokens,
        Decimal.between?_ofInt hlow hhigh]

/-- The line of a canonical directive is read as that directive. -/
theorem Canonical.read_text
    {directive : Directive} (hcanonical : directive.Canonical) (number : Nat) :
    read ⟨number, directive.text⟩ = .ok directive := by
  have hkeyword := hcanonical.keyword_text
  unfold read
  rw [hkeyword]
  cases directive with
  | define definition =>
      have hread := Definition.Canonical.read_text hcanonical number
      simp only [keyword, text, hread]
      rfl
  | addChart =>
      simp only [keyword, tokens_text_addChart]
      rfl
  | addSeries dataset quantity axis =>
      obtain ⟨hdataset, hquantity, _, haxis⟩ := hcanonical
      have hseries : ofAddTokens ((seriesWords dataset quantity axis).drop 1) =
          .ok (.addSeries dataset quantity axis) := by
        have hword : ¬ seriesWord = chartWord := by decide
        simp only [seriesWords, List.drop_succ_cons, List.drop_zero, ofAddTokens, hword,
          if_false, if_true, ofSeriesTokens, Decimal.below?_ofNat hdataset,
          axisOfTokens_toList haxis]
      simp only [keyword, tokens_text_addSeries hquantity, hseries]
  | passthrough text => exact absurd hcanonical id

/-! ## What is read is canonical -/

theorem axis_of_axisOfTokens
    {words : List Text} {axis : Option Int} (hread : axisOfTokens words = .ok axis) :
    ∀ index, axis = some index → minAxis ≤ index ∧ index ≤ maxAxis := by
  intro index haxis
  subst haxis
  cases words with
  | nil => cases hread
  | cons word words =>
      simp only [axisOfTokens] at hread
      split at hread
      · next found hfound =>
          obtain rfl := Option.some.inj (Except.ok.inj hread)
          exact Decimal.bounds_of_between?_eq_some hfound
      · cases hread

theorem canonical_of_ofAddTokens
    {words : List Text}
    (hwords : ∀ word ∈ words, Text.IsWord .blanks word ∧ '\n' ∉ word)
    {directive : Directive} (hread : ofAddTokens words = .ok directive) :
    directive.Canonical := by
  cases words with
  | nil => cases hread
  | cons word more =>
      simp only [ofAddTokens] at hread
      split at hread
      · obtain rfl := Except.ok.inj hread
        trivial
      · split at hread
        · unfold ofSeriesTokens at hread
          split at hread
          · next number quantity more =>
              split at hread
              · cases hread
              · next dataset hdataset =>
                  split at hread
                  · cases hread
                  · next axis haxis =>
                      obtain rfl := Except.ok.inj hread
                      obtain ⟨hword, hfeed⟩ := hwords quantity (by simp)
                      exact ⟨Decimal.lt_of_below?_eq_some hdataset, hword, hfeed,
                        axis_of_axisOfTokens haxis⟩
          · cases hread
        · cases hread

theorem canonical_of_read
    {line : SourceLine} {directive : Directive} (hread : read line = .ok directive)
    (hpass : directive.isPassthrough = false) (hfeed : '\n' ∉ line.text)
    (hclosed : Keyword.ofLine line.text = .define → Definition.Enclosable line.text) :
    directive.Canonical := by
  unfold read at hread
  cases hkeyword : Keyword.ofLine line.text with
  | define =>
      rw [hkeyword] at hread
      obtain ⟨definition, hdefinition, rfl⟩ := map_eq_ok_iff.1 hread
      exact Definition.canonical_of_read hdefinition hfeed (hclosed hkeyword)
  | add =>
      rw [hkeyword] at hread
      simp only at hread
      split at hread
      · cases hread
      · next found hfound =>
          obtain rfl := Except.ok.inj hread
          refine canonical_of_ofAddTokens ?_ hfound
          intro word hword
          have htoken := List.mem_of_mem_drop hword
          refine ⟨Text.isWord_of_mem_tokens htoken, ?_⟩
          exact fun hmem => hfeed (Text.mem_of_mem_tokens htoken hmem)
  | other =>
      rw [hkeyword] at hread
      obtain rfl := Except.ok.inj hread
      cases hpass
  | list =>
      rw [hkeyword] at hread
      cases hread
  | loop =>
      rw [hkeyword] at hread
      cases hread
  | next =>
      rw [hkeyword] at hread
      cases hread

/-- A directive that was read from a line is read again from its own text. -/
theorem read_text_of_read
    {line : SourceLine} {directive : Directive} (hread : read line = .ok directive)
    (hpass : directive.isPassthrough = false) (hfeed : '\n' ∉ line.text)
    (hclosed : Keyword.ofLine line.text = .define → Definition.Enclosable line.text)
    (number : Nat) :
    read ⟨number, directive.text⟩ = .ok directive := by
  have hcanonical := canonical_of_read hread hpass hfeed hclosed
  exact hcanonical.read_text number

/-- A name with a colon and leading zeros, a unit and an expression with an equals sign, and a
brace behind a reference that is bound. -/
def colonDefinition : SourceLine := ⟨3, "DEFINE  0042:a:b\tm=3  == $A + $7:B\x7d ".toList⟩

theorem read_text_of_read_colonDefinition :
    let definition : Definition :=
      ⟨⟨42, "a:b".toList⟩, "= ${42:A} + $7:B\x7d".toList, "m=3".toList⟩
    read colonDefinition = .ok (.define definition) ∧
      '\n' ∉ colonDefinition.text ∧ Definition.Enclosable colonDefinition.text ∧
        definition.text = "DEFINE 42:a:b m=3 = = ${42:A} + $7:B\x7d".toList ∧
          read ⟨1, definition.text⟩ = .ok (.define definition) := by
  intro definition
  have hread : read colonDefinition = .ok (.define definition) := by decide +kernel
  have hfeed : '\n' ∉ colonDefinition.text := by decide
  have hclosed : Definition.Enclosable colonDefinition.text := by
    have hsplit : Definition.split colonDefinition.text =
        .ok (⟨42, "a:b".toList⟩, "m=3".toList, "= $A + $7:B\x7d ".toList) := by
      decide +kernel
    have hparse : Expression.parse (Text.trimEnd "= $A + $7:B\x7d ".toList) =
        .ok ⟨[("= ".toList, ⟨['A'], false⟩), (" + ".toList, ⟨"7:B\x7d".toList, false⟩)], []⟩ := by
      decide +kernel
    refine Definition.enclosable_of_split hsplit hparse ?_
    unfold Expression.Enclosable
    decide
  exact ⟨hread, hfeed, hclosed, by decide +kernel,
    read_text_of_read hread rfl hfeed (fun _ => hclosed) 1⟩

/-! ## A canonical line stands for itself -/

theorem isMarker_of_isDigit {c : Char} (hc : c.isDigit = true) : Template.isMarker c = false := by
  have hstar := Decimal.ne_of_isDigit hc (by decide : '*'.isDigit = false)
  have hquestion := Decimal.ne_of_isDigit hc (by decide : '?'.isDigit = false)
  unfold Template.isMarker
  simp [hstar, hquestion]

theorem ofSeriesTokens_ofNat (n : Nat) (more : List Text) :
    Template.ofSeriesTokens (Decimal.ofNat n :: more) = none := by
  unfold Template.ofSeriesTokens
  split
  · next c rest heq =>
      have hmem : c ∈ Decimal.ofNat n := by
        rw [(List.cons.inj heq).1]
        exact List.mem_singleton_self c
      rw [isMarker_of_isDigit (Decimal.isDigit_of_mem_ofNat hmem)]
      rfl
  · rfl

/-- A canonical line has no marker, since a number stands where one could be. -/
theorem Canonical.ofTokens_text
    {directive : Directive} (hcanonical : directive.Canonical) :
    Template.ofTokens (Text.tokens .blanks directive.text) = .ok none := by
  cases directive with
  | define definition =>
      obtain ⟨words, htokens⟩ := tokens_text_define hcanonical
      obtain ⟨c, rest, hname, hdigit⟩ := definition.name.exists_text_eq_cons
      simp only [text, htokens, Template.ofTokens, if_true, hname, Template.ofDefineTokens,
        isMarker_of_isDigit hdigit]
      rfl
  | addChart =>
      rw [tokens_text_addChart]
      rfl
  | addSeries dataset quantity axis =>
      have hkeyword : ¬ addWord = Definition.keyword := by decide
      rw [tokens_text_addSeries hcanonical.2.1]
      simp only [seriesWords, Template.ofTokens, hkeyword, if_false, and_self, if_true,
        ofSeriesTokens_ofNat]
  | passthrough text => exact absurd hcanonical id

theorem Canonical.resolveMarker_text
    {directive : Directive} (hcanonical : directive.Canonical) (datasets number : Nat) :
    SourceLine.resolveMarker datasets ⟨number, directive.text⟩ =
      .ok [⟨number, directive.text⟩] := by
  unfold SourceLine.resolveMarker
  simp only [hcanonical.ofTokens_text]

theorem Canonical.exists_text_eq_cons
    {directive : Directive} (hcanonical : directive.Canonical) :
    ∃ c rest, directive.text = c :: rest ∧ (c = 'D' ∨ c = 'A') := by
  cases directive with
  | define definition => exact ⟨'D', _, rfl, .inl rfl⟩
  | addChart => exact ⟨'A', _, rfl, .inr rfl⟩
  | addSeries dataset quantity axis => exact ⟨'A', _, rfl, .inr rfl⟩
  | passthrough text => exact absurd hcanonical id

theorem Canonical.no_lineFeed
    {directive : Directive} (hcanonical : directive.Canonical) :
    '\n' ∉ directive.text := by
  cases directive with
  | define definition =>
      have hname := QualifiedName.not_mem_text (by decide) (by decide)
        hcanonical.name_readable.no_lineFeed
      have hkeyword : '\n' ∉ Definition.keyword := by decide
      simp [text, Definition.text, hkeyword, hname, hcanonical.isUnit.no_lineFeed,
        hcanonical.expression_no_lineFeed]
  | addChart => decide
  | addSeries dataset quantity axis =>
      intro hmem
      rcases Text.mem_joinTokens hmem with hblank | ⟨word, hword, hmem⟩
      · cases hblank
      · exact no_lineFeed_of_mem_seriesWords hcanonical.2.2.1 word hword hmem
  | passthrough text => exact absurd hcanonical id

theorem Canonical.last_not_blank
    {directive : Directive} (hcanonical : directive.Canonical) :
    ∀ c, directive.text.getLast? = some c → Text.isBlank c = false := by
  intro c hlast
  cases directive with
  | define definition =>
      have hend := List.getLast?_append_of_ne_nil
        (Definition.keyword ++ ' ' :: definition.name.text ++ ' ' :: definition.unit ++
          [' ', '=', ' ']) hcanonical.expression_ne_nil
      have hwhite := hcanonical.expression_last c (hend.symm.trans hlast)
      exact Text.isBlank_of_not_white hwhite
  | addChart =>
      obtain rfl := Option.some.inj hlast
      decide
  | addSeries dataset quantity axis =>
      have hwords : ∀ word ∈ seriesWords dataset quantity axis, Text.IsWord .blanks word :=
        isWord_of_mem_seriesWords hcanonical.2.1
      obtain ⟨word, hword, hc⟩ :=
        Text.exists_getLast?_joinTokens (fun word hword => (hwords word hword).1) hlast
      exact (hwords word hword).2 c (List.mem_of_getLast? hc)
  | passthrough text => exact absurd hcanonical id

/-- The line of a canonical directive is a line of a file, unless it ends in a carriage
return. -/
theorem Canonical.ofPiece?_text
    {directive : Directive} (hcanonical : directive.Canonical)
    (hreturn : directive.text.getLast? ≠ some '\r') (number : Nat) :
    SourceLine.ofPiece? directive.text number = some ⟨number, directive.text⟩ := by
  obtain ⟨c, rest, htext, hletter⟩ := hcanonical.exists_text_eq_cons
  apply SourceLine.ofPiece?_eq_some
  · rw [htext]
    exact List.cons_ne_nil c rest
  · rw [htext]
    rcases hletter with rfl | rfl <;> rfl
  · intro last hlast
    have hblank := hcanonical.last_not_blank last hlast
    have hne : last ≠ '\r' := by
      rintro rfl
      exact hreturn hlast
    rw [SourceLine.isLineEnd_eq, hblank]
    simpa using hne

end Directive

end ChartScript
