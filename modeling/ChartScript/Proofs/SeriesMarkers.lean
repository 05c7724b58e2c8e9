import ChartScript.Proofs.LineExchange
import ChartScript.Proofs.Substitution

/-!
# Series for every dataset

An `ADD SERIES` line with a marker means the same as the lines that name the datasets one by
one.  The marker is resolved by writing the tokens anew with single blanks, while a line with
a number keeps its text; but a line with the keyword `ADD` is read from its tokens alone, and
putting a value in changes tokens one by one.
-/

namespace ChartScript

namespace Text

/-! ## A token in the place of another -/

/-- The line with `word` in the place of one of its tokens, which are counted from 0. -/
def setToken (index : Nat) (word text : Text) : Text :=
  let margin := text.takeWhile isBlank
  let (token, rest) := splitToken (text.dropWhile isBlank)
  match index with
  | 0 => margin ++ word ++ rest
  | index + 1 => margin ++ token ++ setToken index word rest

/-- A line is its margin, its first token and what follows it. -/
structure Leading (margin token rest : Text) : Prop where
  isBlank_of_mem : ∀ c ∈ margin, isBlank c = true
  isWord : IsWord .blanks token
  endsToken : EndsToken rest

theorem exists_leading_of_tokens
    {text token : Text} {words : List Text} (htokens : tokens .blanks text = token :: words) :
    ∃ margin rest, text = margin ++ (token ++ rest) ∧ Leading margin token rest ∧
      tokens .blanks rest = words := by
  obtain ⟨margin, rest, htext, hmargin, hword, hrest, hwords⟩ := exists_margin_of_tokens htokens
  exact ⟨margin, rest, htext, ⟨hmargin, hword, hrest⟩, hwords⟩

namespace Leading

variable {margin token rest : Text}

theorem tokens_append (hleading : Leading margin token rest) :
    tokens .blanks (margin ++ (token ++ rest)) = token :: tokens .blanks rest :=
  tokens_append_word hleading.isBlank_of_mem hleading.isWord hleading.endsToken

theorem margin_eq (hleading : Leading margin token rest) :
    (margin ++ (token ++ rest)).takeWhile isBlank = margin ∧
      (margin ++ (token ++ rest)).dropWhile isBlank = token ++ rest := by
  obtain ⟨hmargin, ⟨hne, hword⟩, _⟩ := hleading
  rw [List.takeWhile_append_of_pos hmargin, List.dropWhile_append_of_pos hmargin]
  cases token with
  | nil => exact absurd rfl hne
  | cons c token =>
      have hc : ¬ isBlank c = true := by
        have hnot := hword c List.mem_cons_self
        simp only [Separators.contains] at hnot
        simp [hnot]
      rw [List.cons_append, List.takeWhile_cons_of_neg hc, List.dropWhile_cons_of_neg hc]
      exact ⟨List.append_nil margin, rfl⟩

theorem setToken_zero (hleading : Leading margin token rest) (word : Text) :
    setToken 0 word (margin ++ (token ++ rest)) = margin ++ (word ++ rest) := by
  obtain ⟨htake, hdrop⟩ := hleading.margin_eq
  rw [setToken, htake, hdrop, splitToken_of_endsToken hleading.isWord.2 hleading.endsToken]
  simp

theorem setToken_succ (hleading : Leading margin token rest) (index : Nat) (word : Text) :
    setToken (index + 1) word (margin ++ (token ++ rest)) =
      margin ++ (token ++ setToken index word rest) := by
  obtain ⟨htake, hdrop⟩ := hleading.margin_eq
  rw [setToken, htake, hdrop, splitToken_of_endsToken hleading.isWord.2 hleading.endsToken]
  simp

end Leading

theorem endsToken_setToken
    {text : Text} (htext : EndsToken text) (hne : text ≠ []) (index : Nat) (word : Text) :
    EndsToken (setToken index word text) := by
  cases text with
  | nil => exact absurd rfl hne
  | cons c text =>
      have hc := htext c rfl
      intro d hd
      rw [setToken, List.takeWhile_cons_of_pos hc] at hd
      cases index with
      | zero =>
          obtain rfl := Option.some.inj hd
          exact hc
      | succ index =>
          obtain rfl := Option.some.inj hd
          exact hc

theorem tokens_setToken
    {word : Text} (hword : IsWord .blanks word) {index : Nat} {text : Text}
    (hindex : index < (tokens .blanks text).length) :
    tokens .blanks (setToken index word text) = (tokens .blanks text).set index word := by
  induction index generalizing text with
  | zero =>
      cases htokens : tokens .blanks text with
      | nil =>
          rw [htokens] at hindex
          cases hindex
      | cons token words =>
          obtain ⟨margin, rest, rfl, hleading, rfl⟩ := exists_leading_of_tokens htokens
          have hset : Leading margin word rest :=
            ⟨hleading.isBlank_of_mem, hword, hleading.endsToken⟩
          rw [hleading.setToken_zero, hset.tokens_append]
          rfl
  | succ index ih =>
      cases htokens : tokens .blanks text with
      | nil =>
          rw [htokens] at hindex
          cases hindex
      | cons token words =>
          obtain ⟨margin, rest, rfl, hleading, rfl⟩ := exists_leading_of_tokens htokens
          rw [htokens, List.length_cons] at hindex
          have hrest := ih (Nat.lt_of_succ_lt_succ hindex)
          have hne : rest ≠ [] := by
            rintro rfl
            exact absurd (Nat.lt_of_succ_lt_succ hindex) (Nat.not_lt_zero index)
          have hends := endsToken_setToken hleading.endsToken hne index word
          have hset : Leading margin token (setToken index word rest) :=
            ⟨hleading.isBlank_of_mem, hleading.isWord, hends⟩
          rw [hleading.setToken_succ, hset.tokens_append, hrest]
          rfl

end Text

/-! ## Reading series -/

theorem Statement.read_congr_of_add
    {line other : SourceLine} {words : List Text} (hnumber : line.number = other.number)
    (htokens : Text.tokens .blanks line.text = Directive.addWord :: words)
    (hother : Text.tokens .blanks other.text = Directive.addWord :: words) :
    read line = read other := by
  have hkeyword : Keyword.ofLine line.text = .add := Keyword.ofLine_of_tokens htokens
  have hkeywordOther : Keyword.ofLine other.text = .add := Keyword.ofLine_of_tokens hother
  unfold read Directive.read
  rw [hkeyword, hkeywordOther, htokens, hother, hnumber]

theorem SourceLine.isPlain_of_add
    {line : SourceLine} {words : List Text}
    (htokens : Text.tokens .blanks line.text = Directive.addWord :: words) :
    line.IsPlain := by
  have hkeyword : Keyword.ofLine line.text = .add := Keyword.ofLine_of_tokens htokens
  rw [isPlain_iff, hkeyword]
  decide

namespace Loop

/-- Lines with the keyword `ADD` and equal tokens are also read alike with a value put in. -/
theorem read_instantiate_congr_of_add
    {var value : Text} (hvar : ∀ c ∈ var, Text.isBlank c = false)
    (hvalue : Text.IsWord .blanks value)
    {line other : SourceLine} {words : List Text} (hnumber : line.number = other.number)
    (htokens : Text.tokens .blanks line.text = Directive.addWord :: words)
    (hother : Text.tokens .blanks other.text = Directive.addWord :: words) :
    Statement.read (instantiate var value line) = Statement.read (instantiate var value other) := by
  have hput : ∀ text : Text, Text.tokens .blanks text = Directive.addWord :: words →
      Text.tokens .blanks (substitute var value text).trimStart =
        Directive.addWord :: words.map (substitute var value) := by
    intro text htext
    have hkeyword : substitute var value Directive.addWord = Directive.addWord :=
      substitute_eq_self var value (by decide)
    have hsubstitute := tokens_substitute hvar hvalue text
    rw [htext, List.map_cons, hkeyword] at hsubstitute
    have hmargin : (substitute var value text).BlankMargin := by
      refine Text.blankMargin_of_tokens hsubstitute ?_
      intro c hc
      obtain rfl := Option.some.inj hc
      decide
    rw [Text.tokens_trimStart hmargin, hsubstitute]
  exact Statement.read_congr_of_add hnumber (hput line.text htokens) (hput other.text hother)

end Loop

/-! ## The dataset in the place of the marker -/

/-- The template of an `ADD SERIES` line with a marker and `rest` after it. -/
def Template.series (rest : List Text) : Template :=
  { front := [Directive.addWord, Directive.seriesWord], suffix := [], rest }

namespace SourceLine

/-- The line with the dataset `number` in the place of its third token. -/
def withDataset (number : Nat) (line : SourceLine) : SourceLine :=
  { line with text := Text.setToken 2 (Decimal.ofNat number) line.text }

/-- The line once for every dataset, with the number in the place of the third token. -/
def forDatasets (datasets : Nat) (line : SourceLine) : List SourceLine :=
  (List.range datasets).map fun index => line.withDataset (index + 1)

theorem resolveMarkers_singleton
    {datasets : Nat} {line : SourceLine} {found : List SourceLine}
    (hline : line.resolveMarker datasets = .ok found) :
    resolveMarkers datasets [line] = .ok found := by
  refine map_eq_ok_iff.2 ⟨[found], mapM_eq_ok_iff.2 ?_, by simp⟩
  exact List.Forall₂.cons hline .nil

theorem resolveMarkers_eq_self
    {datasets : Nat} {lines : List SourceLine}
    (hlines : ∀ line ∈ lines, line.resolveMarker datasets = .ok [line]) :
    resolveMarkers datasets lines = .ok lines := by
  refine map_eq_ok_iff.2 ⟨lines.map fun line => [line], mapM_eq_ok_iff.2 ?_, ?_⟩
  · rw [List.forall₂_map_right_iff, List.forall₂_same]
    exact hlines
  · rw [← List.flatMap_def, List.flatMap_singleton']

section

variable {line : SourceLine} {c : Char} {rest : List Text}
  (htokens : Text.tokens .blanks line.text =
    Directive.addWord :: Directive.seriesWord :: [c] :: rest)

include htokens

theorem tokens_withDataset (number : Nat) :
    Text.tokens .blanks (line.withDataset number).text =
      Directive.addWord :: Directive.seriesWord :: Decimal.ofNat number :: rest := by
  have hindex : 2 < (Text.tokens .blanks line.text).length := by
    rw [htokens]
    simp
  unfold withDataset
  rw [Text.tokens_setToken (Directive.isWord_ofNat number) hindex, htokens]
  rfl

theorem resolveMarker_withDataset (datasets number : Nat) :
    (line.withDataset number).resolveMarker datasets = .ok [line.withDataset number] := by
  have hkeyword : ¬ Directive.addWord = Definition.keyword := by decide
  unfold resolveMarker
  rw [tokens_withDataset htokens]
  simp only [Template.ofTokens, hkeyword, if_false, and_self, if_true,
    Directive.ofSeriesTokens_ofNat]

/-- The line that the marker gives for a dataset has the tokens of the line that names it. -/
theorem tokens_fill_series (number : Nat) :
    Text.tokens .blanks ((Template.series rest).fill number) =
      Directive.addWord :: Directive.seriesWord :: Decimal.ofNat number :: rest := by
  have hwords : ∀ word ∈ Directive.addWord :: Directive.seriesWord :: Decimal.ofNat number :: rest,
      Text.IsWord .blanks word := by
    rw [← tokens_withDataset htokens]
    exact fun word hword => Text.isWord_of_mem_tokens hword
  unfold Template.series Template.fill
  rw [List.append_nil]
  exact Text.tokens_joinTokens hwords

theorem resolveMarker_series (hmarker : Template.isMarker c = true) (datasets : Nat) :
    line.resolveMarker datasets =
      .ok ((List.range datasets).map fun index =>
        { line with text := (Template.series rest).fill (index + 1) }) := by
  have hkeyword : ¬ Directive.addWord = Definition.keyword := by decide
  unfold resolveMarker
  rw [htokens]
  simp only [Template.ofTokens, hkeyword, if_false, and_self, if_true, Template.ofSeriesTokens,
    hmarker]
  rfl

theorem interchangeable_forDatasets (hmarker : Template.isMarker c = true) (datasets : Nat) :
    Interchangeable datasets [line] (line.forDatasets datasets) where
  plain := by
    intro other hother
    obtain rfl := List.mem_singleton.1 hother
    exact isPlain_of_add htokens
  plain_others := by
    intro other hother
    obtain ⟨index, _, rfl⟩ := List.mem_map.1 hother
    exact isPlain_of_add (tokens_withDataset htokens (index + 1))
  resolve := by
    have hline := resolveMarkers_singleton (resolveMarker_series htokens hmarker datasets)
    have hlines : resolveMarkers datasets (line.forDatasets datasets) =
        .ok (line.forDatasets datasets) := by
      apply resolveMarkers_eq_self
      intro other hother
      obtain ⟨index, _, rfl⟩ := List.mem_map.1 hother
      exact resolveMarker_withDataset htokens datasets (index + 1)
    refine ⟨_, _, hline, hlines, ?_, ?_⟩
    · unfold forDatasets
      rw [List.map_map, List.map_map]
      apply List.map_congr_left
      intro index _
      exact Statement.read_congr_of_add rfl (tokens_fill_series htokens (index + 1))
        (tokens_withDataset htokens (index + 1))
    · intro var value hvar hvalue
      unfold forDatasets
      simp only [List.map_map]
      apply List.map_congr_left
      intro index _
      exact Loop.read_instantiate_congr_of_add hvar hvalue rfl
        (tokens_fill_series htokens (index + 1)) (tokens_withDataset htokens (index + 1))

end

end SourceLine

/-- An `ADD SERIES` line with a marker can be replaced by the lines for the datasets. -/
theorem Expansion.ofLines_forDatasets
    {line : SourceLine} {c : Char} {rest : List Text} (hmarker : Template.isMarker c = true)
    (htokens : Text.tokens .blanks line.text =
      Directive.addWord :: Directive.seriesWord :: [c] :: rest)
    (datasets : Nat) (before after : List SourceLine) :
    (ofLines ⟨datasets, .abort⟩ (before ++ line :: after)).result =
      (ofLines ⟨datasets, .abort⟩ (before ++ line.forDatasets datasets ++ after)).result := by
  have hlines := SourceLine.interchangeable_forDatasets htokens hmarker datasets
  have hcongr := ofLines_abort_congr hlines before after
  rwa [List.append_assoc, List.singleton_append] at hcongr

/-- A series for every dataset, with a quantity that a loop puts in. -/
def loopSeries : SourceLine := ⟨3, "  ADD\tSERIES   *  $q ".toList⟩

/-- The lines in front of it: a list of two quantities and the head of the loop. -/
def loopFront : List SourceLine := [⟨1, "LIST NEW Q P S".toList⟩, ⟨2, "FOR q IN Q".toList⟩]

theorem Expansion.ofLines_forDatasets_loopSeries :
    Template.isMarker '*' = true ∧
      Text.tokens .blanks loopSeries.text =
        [Directive.addWord, Directive.seriesWord, ['*'], ['$', 'q']] ∧
      loopSeries.forDatasets 2 =
        [⟨3, "  ADD\tSERIES   1  $q ".toList⟩, ⟨3, "  ADD\tSERIES   2  $q ".toList⟩] ∧
      ∃ expansion,
        (ofLines ⟨2, .abort⟩ (loopFront ++ loopSeries :: [⟨4, "NEXT".toList⟩])).result =
          .ok expansion ∧
        (ofLines ⟨2, .abort⟩
          (loopFront ++ loopSeries.forDatasets 2 ++ [⟨4, "NEXT".toList⟩])).result =
            .ok expansion ∧
        expansion.statements =
          [⟨3, .addSeries 1 ['P'] none⟩, ⟨3, .addSeries 2 ['P'] none⟩,
            ⟨3, .addSeries 1 ['S'] none⟩, ⟨3, .addSeries 2 ['S'] none⟩] := by
  have hmarker : Template.isMarker '*' = true := by decide
  have htokens : Text.tokens .blanks loopSeries.text =
      [Directive.addWord, Directive.seriesWord, ['*'], ['$', 'q']] := by decide
  have hrun : (ofLines ⟨2, .abort⟩
      (loopFront ++ loopSeries :: [⟨4, "NEXT".toList⟩])).result.map Expansion.statements =
        .ok [⟨3, .addSeries 1 ['P'] none⟩, ⟨3, .addSeries 2 ['P'] none⟩,
          ⟨3, .addSeries 1 ['S'] none⟩, ⟨3, .addSeries 2 ['S'] none⟩] := by
    decide +kernel
  obtain ⟨expansion, hresult, hstatements⟩ := map_eq_ok_iff.1 hrun
  have hsame := ofLines_forDatasets hmarker htokens 2 loopFront [⟨4, "NEXT".toList⟩]
  exact ⟨hmarker, htokens, by decide, expansion, hresult, hsame.symm.trans hresult, hstatements⟩

end ChartScript
