import ChartScript.Proofs.RunComposition
import ChartScript.Proofs.Substitution
import ChartScript.Proofs.WrittenDirectives

/-!
# Numbers put into a line

A number neither makes nor destroys a marker or a keyword when it is put into a line: no word
of the language holds a digit, a minus sign or a sigil.  So it does not matter whether the
markers of a line are resolved first or the numbers are put in first.
-/

namespace ChartScript

/-! ## Numerals -/

/-- The text is made up of digits and minus signs. -/
def Decimal.IsNumeral (value : Text) : Prop :=
  value ≠ [] ∧ ∀ c ∈ value, c.isDigit = true ∨ c = '-'

theorem Decimal.isNumeral_ofInt (n : Int) : IsNumeral (ofInt n) :=
  ⟨(Directive.isWord_ofInt n).1, fun _ hc => isDigit_or_minus_of_mem_ofInt hc⟩

theorem Range.isNumeral_of_mem_values
    {range : Range} : ∀ value ∈ range.values, Decimal.IsNumeral value := by
  intro value hvalue
  obtain ⟨k, _, rfl⟩ := List.mem_map.1 hvalue
  exact Decimal.isNumeral_ofInt _

namespace Decimal.IsNumeral

variable {value : Text}

theorem not_white (hvalue : IsNumeral value) : ∀ c ∈ value, Text.isWhite c = false := by
  intro c hc
  rcases hvalue.2 c hc with hdigit | rfl
  · exact isWhite_of_isDigit hdigit
  · decide

theorem isWord (hvalue : IsNumeral value) : Text.IsWord .blanks value :=
  ⟨hvalue.1, fun c hc => Text.isBlank_of_not_white (hvalue.not_white c hc)⟩

theorem not_isMarker (hvalue : IsNumeral value) :
    ∀ c ∈ value, Template.isMarker c = false := by
  intro c hc
  rcases hvalue.2 c hc with hdigit | rfl
  · exact Directive.isMarker_of_isDigit hdigit
  · decide

end Decimal.IsNumeral

namespace Loop

/-- Neither a reference nor a numeral shows in the word. -/
def isFixed (word : Text) : Bool := word.all fun c => c != '$' && c != '-' && !c.isDigit

variable {var value : Text}

/-- Putting a number in neither makes nor destroys such a word. -/
theorem substitute_eq_iff
    (hvalue : Decimal.IsNumeral value) {word : Text} (hword : isFixed word = true) {text : Text} :
    substitute var value text = word ↔ text = word := by
  have hfixed : ∀ c ∈ word, c ≠ '$' ∧ c ≠ '-' ∧ c.isDigit = false := by
    intro c hc
    have hall := List.all_eq_true.1 hword c hc
    simpa [and_assoc] using hall
  constructor
  · intro heq
    obtain ⟨c, hc⟩ := List.exists_mem_of_ne_nil value hvalue.1
    have habsent : c ∉ substitute var value text := by
      rw [heq]
      intro hmem
      obtain ⟨_, hminus, hdigit⟩ := hfixed c hmem
      rcases hvalue.2 c hc with hyes | hyes
      · rw [hdigit] at hyes
        cases hyes
      · exact hminus hyes
    rw [← heq]
    exact (substitute_eq_self_of_absent hc habsent).symm
  · rintro rfl
    exact substitute_eq_self var value fun hmem => (hfixed '$' hmem).1 rfl

end Loop

/-! ## Templates -/

namespace Template

/-- The template with a value put in; the words in front hold no reference. -/
def withValue (var value : Text) (template : Template) : Template :=
  { front := template.front
    suffix := Loop.substitute var value template.suffix
    rest := template.rest.map (Loop.substitute var value) }

theorem ofSeriesTokens_cons (word : Text) (rest : List Text) :
    ofSeriesTokens (word :: rest) =
      if word = ['*'] ∨ word = ['?'] then
        some { front := [Directive.addWord, Directive.seriesWord], suffix := [], rest }
      else none := by
  unfold ofSeriesTokens
  split
  · next c more heq =>
      obtain ⟨rfl, rfl⟩ := List.cons.inj heq
      simp [isMarker]
  · next hnot =>
      rw [if_neg]
      rintro (rfl | rfl)
      · exact hnot '*' rest rfl
      · exact hnot '?' rest rfl

theorem ofDefineTokens_of_not_isMarker
    {word : Text} (hword : ∀ c, word.head? = some c → isMarker c = false) (rest : List Text) :
    ofDefineTokens (word :: rest) = .ok none := by
  cases word with
  | nil => rfl
  | cons c suffix =>
      unfold ofDefineTokens
      simp [hword c rfl]

section

variable {var value : Text} (hvalue : Decimal.IsNumeral value)

include hvalue

theorem ofSeriesTokens_map (tokens : List Text) :
    ofSeriesTokens (tokens.map (Loop.substitute var value)) =
      (ofSeriesTokens tokens).map (withValue var value) := by
  cases tokens with
  | nil => rfl
  | cons word rest =>
      have hstar : Loop.isFixed ['*'] = true := by decide
      have hquestion : Loop.isFixed ['?'] = true := by decide
      simp only [List.map_cons, ofSeriesTokens_cons, Loop.substitute_eq_iff hvalue hstar,
        Loop.substitute_eq_iff hvalue hquestion]
      split <;> rfl

theorem ofDefineTokens_map
    {tokens : List Text} {found : Option Template} (hread : ofDefineTokens tokens = .ok found) :
    ofDefineTokens (tokens.map (Loop.substitute var value)) =
      .ok (found.map (withValue var value)) := by
  cases tokens with
  | nil =>
      obtain rfl := Except.ok.inj hread
      rfl
  | cons word rest =>
      by_cases hmarked : ∃ c suffix, word = c :: suffix ∧ isMarker c = true
      · obtain ⟨c, suffix, rfl, hmarker⟩ := hmarked
        have hc : c ≠ '$' := by
          rintro rfl
          cases hmarker
        unfold ofDefineTokens at hread ⊢
        simp only [hmarker, if_true, List.map_cons, Loop.substitute_cons var value hc] at hread ⊢
        split at hread
        · next d more =>
            obtain rfl := Except.ok.inj hread
            have hcolon := Loop.substitute_cons var value (by decide : ':' ≠ '$') (d :: more)
            obtain ⟨e, others, hothers⟩ := List.exists_cons_of_ne_nil
              (Loop.substitute_ne_nil var hvalue.1 (List.cons_ne_nil d more))
            rw [hothers] at hcolon
            simp only [hcolon, Option.map_some, withValue]
        · cases hread
      · have hword : ∀ c, word.head? = some c → isMarker c = false := by
          intro c hc
          obtain ⟨suffix, rfl⟩ := List.head?_eq_some_iff.1 hc
          cases hmarker : isMarker c with
          | false => rfl
          | true => exact absurd ⟨c, suffix, rfl, hmarker⟩ hmarked
        have hput : ∀ c, (Loop.substitute var value word).head? = some c → isMarker c = false := by
          intro c hc
          rcases Loop.head?_substitute var hvalue.1 word with hsame | ⟨_, hsame⟩
          · exact hword c (hsame ▸ hc)
          · exact hvalue.not_isMarker c (List.mem_of_head? (hsame ▸ hc))
        rw [ofDefineTokens_of_not_isMarker hword] at hread
        obtain rfl := Except.ok.inj hread
        rw [List.map_cons, ofDefineTokens_of_not_isMarker hput]
        rfl

/-- A line with a value put in has the template of the line, with the value put in. -/
theorem ofTokens_map
    (var : Text) {words : List Text} {found : Option Template}
    (hread : ofTokens words = .ok found) :
    ofTokens (words.map (Loop.substitute var value)) = .ok (found.map (withValue var value)) := by
  cases words with
  | nil =>
      obtain rfl := Except.ok.inj hread
      rfl
  | cons keyword tokens =>
      have hdefine : Loop.isFixed Definition.keyword = true := by decide
      have hadd : Loop.isFixed Directive.addWord = true := by decide
      have hseries : Loop.isFixed Directive.seriesWord = true := by decide
      unfold ofTokens at hread ⊢
      simp only [List.map_cons, Loop.substitute_eq_iff hvalue hdefine]
      by_cases hkeyword : keyword = Definition.keyword
      · simp only [hkeyword, if_true] at hread ⊢
        exact ofDefineTokens_map hvalue hread
      · simp only [hkeyword, if_false] at hread ⊢
        cases tokens with
        | nil =>
            obtain rfl := Except.ok.inj hread
            rfl
        | cons word tokens =>
            simp only [List.map_cons, Loop.substitute_eq_iff hvalue hadd,
              Loop.substitute_eq_iff hvalue hseries, ofSeriesTokens_map hvalue] at hread ⊢
            split at hread
            · next hwords =>
                obtain rfl := Except.ok.inj hread
                rw [if_pos hwords]
            · next hwords =>
                obtain rfl := Except.ok.inj hread
                rw [if_neg hwords]
                rfl

end

theorem fill_withValue
    {var : Text} (value : Text) (hvar : ∀ c ∈ var, Text.isBlank c = false) {template : Template}
    (hfront : ∀ word ∈ template.front, '$' ∉ word) (dataset : Nat) :
    (template.withValue var value).fill dataset =
      Loop.substitute var value (template.fill dataset) := by
  have hnumber : '$' ∉ Decimal.ofNat dataset := Decimal.not_mem_ofNat (by decide) dataset
  have hwords : template.front.map (Loop.substitute var value) = template.front.map id :=
    List.map_congr_left fun word hword => Loop.substitute_eq_self var value (hfront word hword)
  unfold fill withValue
  rw [Loop.substitute_joinTokens hvar, List.map_append, List.map_cons, hwords, List.map_id,
    Loop.substitute_append_of_not_mem var value hnumber]

theorem sigil_not_mem_front
    {words : List Text} {template : Template} (hread : ofTokens words = .ok (some template)) :
    ∀ word ∈ template.front, '$' ∉ word := by
  obtain ⟨⟨hfront, _⟩ | ⟨hfront, _⟩, _⟩ := eq_of_ofTokens hread
  · rw [hfront]
    decide
  · rw [hfront]
    decide

end Template

/-! ## Lines with a value put in -/

namespace SourceLine

def withValue (var value : Text) (line : SourceLine) : SourceLine :=
  { line with text := Loop.substitute var value line.text }

section

variable {var value : Text} (hvar : ∀ c ∈ var, Text.isBlank c = false)
  {datasets : Nat}

include hvar

/-- Resolving the markers and putting in a number can be exchanged. -/
theorem resolveMarker_withValue
    (hvalue : Decimal.IsNumeral value) {line : SourceLine} {found : List SourceLine}
    (hresolve : line.resolveMarker datasets = .ok found) :
    (line.withValue var value).resolveMarker datasets =
      .ok (found.map (withValue var value)) := by
  have htokens := Loop.tokens_substitute hvar hvalue.isWord line.text
  rcases resolveMarker_cases hresolve with ⟨hread, rfl⟩ | ⟨template, hread, rfl⟩
  · have hput := Template.ofTokens_map hvalue var hread
    unfold resolveMarker withValue
    simp only [htokens, hput, Option.map_none]
    rfl
  · have hput := Template.ofTokens_map hvalue var hread
    have hfill := Template.fill_withValue value hvar (Template.sigil_not_mem_front hread)
    unfold resolveMarker withValue
    simp only [htokens, hput, Option.map_some, hfill, List.map_map]
    rfl

theorem resolveMarkers_flatMap_withValue
    {values : List Text} (hvalues : ∀ value ∈ values, Decimal.IsNumeral value)
    {lines found : List SourceLine} (hresolve : resolveMarkers datasets lines = .ok found) :
    resolveMarkers datasets (values.flatMap fun value => lines.map (withValue var value)) =
      .ok (values.flatMap fun value => found.map (withValue var value)) := by
  induction values with
  | nil => rfl
  | cons value values ih =>
      have hvalue := hvalues value List.mem_cons_self
      have hrest := ih fun other hother => hvalues other (List.mem_cons_of_mem value hother)
      have hfirst : resolveMarkers datasets (lines.map (withValue var value)) =
          .ok (found.map (withValue var value)) := by
        obtain ⟨groups, hgroups, rfl⟩ := map_eq_ok_iff.1 hresolve
        refine map_eq_ok_iff.2 ⟨groups.map (List.map (withValue var value)),
          mapM_eq_ok_iff.2 ?_, List.map_flatten.symm⟩
        rw [List.forall₂_map_left_iff, List.forall₂_map_right_iff]
        exact (mapM_eq_ok_iff.1 hgroups).imp fun line group hgroup =>
          resolveMarker_withValue hvar hvalue hgroup
      rw [List.flatMap_cons, List.flatMap_cons, resolveMarkers_append, hfirst, hrest]
      rfl

end

theorem blankMargin_fill
    {words : List Text} {template : Template}
    (hread : Template.ofTokens words = .ok (some template)) (dataset : Nat) :
    (template.fill dataset).BlankMargin := by
  unfold Template.fill
  obtain ⟨⟨hfront, _⟩ | ⟨hfront, _⟩, _⟩ := Template.eq_of_ofTokens hread
  · rw [hfront]
    exact Text.blankMargin_cons (by decide) _
  · rw [hfront]
    exact Text.blankMargin_cons (by decide) _

theorem blankMargin_of_resolveMarkers
    {datasets : Nat} {lines found : List SourceLine}
    (hlines : ∀ line ∈ lines, line.text.BlankMargin)
    (hresolve : resolveMarkers datasets lines = .ok found) :
    ∀ line ∈ found, line.text.BlankMargin := by
  intro line hline
  obtain ⟨groups, hgroups, rfl⟩ := map_eq_ok_iff.1 hresolve
  obtain ⟨group, hgroup, hline⟩ := List.mem_flatten.1 hline
  obtain ⟨origin, horigin, hfound⟩ :=
    exists_left_of_forall₂ (mapM_eq_ok_iff.1 hgroups) group hgroup
  rcases resolveMarker_cases hfound with ⟨_, rfl⟩ | ⟨template, hread, rfl⟩
  · obtain rfl := List.mem_singleton.1 hline
    exact hlines line horigin
  · obtain ⟨index, _, rfl⟩ := List.mem_map.1 hline
    exact blankMargin_fill hread (index + 1)

theorem isPlain_of_read
    {line : SourceLine} {statement : Statement} (hread : Statement.read line = .ok statement) :
    line.IsPlain := by
  rw [isPlain_iff]
  unfold Statement.read Directive.read at hread
  cases hkeyword : Keyword.ofLine line.text <;> simp [hkeyword] at hread ⊢

/-- A line is plain if all that it stands for can be read.  A line with a marker stands for nothing
if no dataset is loaded, but has the keyword of a plain line. -/
theorem isPlain_of_resolveMarker
    {datasets : Nat} {line : SourceLine} {found : List SourceLine}
    (hresolve : line.resolveMarker datasets = .ok found)
    (hread : ∀ other ∈ found, ∃ statement, Statement.read other = .ok statement) :
    line.IsPlain := by
  rcases resolveMarker_cases hresolve with ⟨_, rfl⟩ | ⟨template, htemplate, rfl⟩
  · obtain ⟨statement, hstatement⟩ := hread line List.mem_cons_self
    exact isPlain_of_read hstatement
  · obtain ⟨hfront, c, _, htokens⟩ := Template.eq_of_ofTokens htemplate
    rw [isPlain_iff]
    rcases hfront with ⟨hfront, _⟩ | ⟨hfront, _⟩
    · rw [hfront] at htokens
      rw [Keyword.ofLine_of_tokens htokens]
      decide
    · rw [hfront] at htokens
      rw [Keyword.ofLine_of_tokens htokens]
      decide

end SourceLine

end ChartScript
