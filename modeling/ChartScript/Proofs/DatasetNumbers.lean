import ChartScript.Proofs.LineOrigins
import ChartScript.Proofs.WrittenRanges

/-!
# The number of a dataset in a line

A template puts the number of a dataset into a line at one place, with the same text in front
of it and behind it for every dataset.  Putting a value in leaves the number where it is,
since no reference begins in front of it.  Whether such a line can be read does not depend on
the number, as long as it fits in 64 bits.
-/

namespace ChartScript

/-! ## Texts around a number -/

namespace Template

def seriesFront : Text := Directive.addWord ++ ' ' :: Directive.seriesWord ++ [' ']

def defineFront : Text := Definition.keyword ++ [' ']

/-- In front of the number of a dataset and behind it: the number is a token of its own in a
line for a series, and it is part of a name in a definition. -/
inductive Surrounds : Text → Text → Prop where
  | series {back : Text} (hback : Text.EndsToken back) : Surrounds seriesFront back
  | define (back : Text) : Surrounds defineFront (':' :: back)

theorem exists_back_of_joinTokens (suffix : Text) (rest : List Text) :
    ∃ back, Text.EndsToken back ∧ ∀ word,
      Text.joinTokens ((word ++ suffix) :: rest) = word ++ (suffix ++ back) := by
  cases rest with
  | nil =>
      refine ⟨[], Text.endsToken_nil, ?_⟩
      intro word
      rw [Text.joinTokens_singleton, List.append_nil]
  | cons next rest =>
      refine ⟨' ' :: Text.joinTokens (next :: rest), Text.endsToken_cons (by decide) _, ?_⟩
      intro word
      rw [Text.joinTokens_cons_cons, List.append_assoc]

/-- A template fills the numbers of all datasets in at the same place. -/
theorem surrounds_of_ofTokens
    {words : List Text} {template : Template} (hread : ofTokens words = .ok (some template)) :
    ∃ front back, Surrounds front back ∧
      ∀ dataset, template.fill dataset = front ++ (Decimal.ofNat dataset ++ back) := by
  obtain ⟨back, hback, hjoin⟩ := exists_back_of_joinTokens template.suffix template.rest
  obtain ⟨⟨hfront, name, hsuffix⟩ | ⟨hfront, hsuffix⟩, _⟩ := eq_of_ofTokens hread
  · refine ⟨defineFront, template.suffix ++ back, ?_, ?_⟩
    · rw [hsuffix]
      exact .define (name ++ back)
    · intro dataset
      unfold fill
      rw [hfront, List.singleton_append, Text.joinTokens_cons_cons, hjoin]
      simp [defineFront]
  · refine ⟨seriesFront, back, .series hback, ?_⟩
    intro dataset
    have hseries := hjoin (Decimal.ofNat dataset)
    unfold fill
    rw [hfront, List.cons_append, List.singleton_append, Text.joinTokens_cons_cons,
      Text.joinTokens_cons_cons, hseries, hsuffix]
    simp [seriesFront]

/-- Putting a value in and trimming leave the number where it is. -/
theorem Surrounds.instantiate_eq
    {front back : Text} (hsurrounds : Surrounds front back) (var value : Text) :
    ∃ other, Surrounds front other ∧ ∀ number dataset,
      Loop.instantiate var value ⟨number, front ++ (Decimal.ofNat dataset ++ back)⟩ =
        ⟨number, front ++ (Decimal.ofNat dataset ++ other)⟩ := by
  have hnumber : ∀ dataset, '$' ∉ Decimal.ofNat dataset := Decimal.not_mem_ofNat (by decide)
  have hput : '$' ∉ front → (∀ text, (front ++ text).trimStart = front ++ text) →
      ∀ number dataset,
        Loop.instantiate var value ⟨number, front ++ (Decimal.ofNat dataset ++ back)⟩ =
          ⟨number, front ++ (Decimal.ofNat dataset ++ Loop.substitute var value back)⟩ := by
    intro hfront htrim number dataset
    unfold Loop.instantiate
    rw [Loop.substitute_append_of_not_mem var value hfront,
      Loop.substitute_append_of_not_mem var value (hnumber dataset), htrim]
  cases hsurrounds with
  | series hback =>
      refine ⟨Loop.substitute var value back, .series ?_, hput (by decide) fun text =>
        Text.trimStart_cons_of_not_white (by decide) _⟩
      cases back with
      | nil => exact hback
      | cons c back =>
          have hc := hback c rfl
          rw [Loop.substitute_cons_blank var value hc]
          exact hback
  | define back =>
      refine ⟨Loop.substitute var value (':' :: back), ?_, hput (by decide) fun text =>
        Text.trimStart_cons_of_not_white (by decide) _⟩
      rw [Loop.substitute_cons var value (by decide)]
      exact .define _

end Template

/-! ## Reading the line -/

namespace Directive

theorem exists_ofSeriesTokens
    {first second : Nat} (hfirst : first < Decimal.wordLimit) (hsecond : second < Decimal.wordLimit)
    {words : List Text} {directive : Directive}
    (hread : ofSeriesTokens (Decimal.ofNat first :: words) = .ok directive) :
    ∃ other, ofSeriesTokens (Decimal.ofNat second :: words) = .ok other := by
  cases words with
  | nil => cases hread
  | cons quantity more =>
      simp only [ofSeriesTokens, Decimal.below?_ofNat hfirst] at hread
      simp only [ofSeriesTokens, Decimal.below?_ofNat hsecond]
      split at hread
      · cases hread
      · exact ⟨_, rfl⟩

end Directive

namespace Definition

/-- A number and a colon begin a name, whatever follows them in the token. -/
theorem exists_nameOfToken
    {dataset : Nat} (hdataset : dataset < Decimal.wordLimit) (token : Text) :
    ∃ name, nameOfToken (Decimal.ofNat dataset ++ ':' :: token) = .ok name := by
  obtain ⟨c, digits, hdigits, hc⟩ := Decimal.exists_ofNat_eq_cons dataset
  have hsigil : ¬ (Decimal.ofNat dataset ++ ':' :: token).head? = some '$' := by
    rw [hdigits, List.cons_append, List.head?_cons]
    intro heq
    exact Decimal.ne_of_isDigit hc (by decide) (Option.some.inj heq)
  unfold nameOfToken
  rw [if_neg hsigil]
  by_cases hname : token ≠ [] ∧ '\n' ∉ token
  · have hsplit := QualifiedName.split?_text (q := ⟨dataset, token⟩) hname.1 hname.2
    unfold QualifiedName.text at hsplit
    simp only [QualifiedName.parse?, hsplit, Decimal.below?_ofNat hdataset]
    exact ⟨_, rfl⟩
  · have hsplit : QualifiedName.split? (Decimal.ofNat dataset ++ ':' :: token) = none := by
      have hcolon := Decimal.endsNumber_cons (by decide : Decimal.isAnyDigit ':' = false) token
      obtain ⟨htake, hdrop⟩ := Range.span_digits_append (Decimal.isDigits_ofNat dataset) hcolon
      rw [not_and_or, not_not, not_not] at hname
      unfold QualifiedName.split?
      simp only [htake, hdrop]
      rw [if_pos]
      rcases hname with hnil | hfeed
      · simp [hnil]
      · simp [hfeed]
    simp only [QualifiedName.parse?, QualifiedName.isQualified, hsplit]
    exact ⟨_, rfl⟩

theorem splitUnit_congr
    {name other : QualifiedName} {rest : Text} {found : Text × Text}
    (hsplit : splitUnit name rest = .ok found) : splitUnit other rest = .ok found := by
  unfold splitUnit at hsplit ⊢
  by_cases hequals : rest.head? = some '='
  · rw [if_pos hequals] at hsplit ⊢
    exact hsplit
  · rw [if_neg hequals] at hsplit ⊢
    by_cases hunit : (Text.splitToken rest).1.isEmpty = true
    · simp only [hunit, if_true] at hsplit
      cases hsplit
    · simp only [hunit] at hsplit ⊢
      exact hsplit

theorem splitToken_number_append (dataset : Nat) (back : Text) :
    Text.splitToken (Text.trimStart (' ' :: (Decimal.ofNat dataset ++ ':' :: back))) =
      (Decimal.ofNat dataset ++ ':' :: (Text.splitToken back).1, (Text.splitToken back).2) := by
  obtain ⟨c, digits, hdigits, hc⟩ := Decimal.exists_ofNat_eq_cons dataset
  have hnumber : ∀ d ∈ Decimal.ofNat dataset ++ [':'], (!Text.isBlank d) = true := by
    intro d hd
    rcases List.mem_append.1 hd with hd | hd
    · simp [Decimal.isBlank_of_isDigit (Decimal.isDigit_of_mem_ofNat hd)]
    · obtain rfl := List.mem_singleton.1 hd
      decide
  have htrim : Text.trimStart (' ' :: (Decimal.ofNat dataset ++ ':' :: back)) =
      (Decimal.ofNat dataset ++ [':']) ++ back := by
    rw [Text.trimStart_cons_blank, hdigits, List.cons_append,
      Text.trimStart_cons_of_not_white (Decimal.isWhite_of_isDigit hc)]
    simp
  unfold Text.splitToken
  rw [htrim, List.takeWhile_append_of_pos hnumber, List.dropWhile_append_of_pos hnumber]
  simp

theorem exists_split
    {first second : Nat} (hsecond : second < Decimal.wordLimit)
    {back unit tail : Text} {name : QualifiedName}
    (hsplit : split (Template.defineFront ++ (Decimal.ofNat first ++ ':' :: back)) =
      .ok (name, unit, tail)) :
    ∃ other, split (Template.defineFront ++ (Decimal.ofNat second ++ ':' :: back)) =
      .ok (other, unit, tail) := by
  have htrim : ∀ text, (Template.defineFront ++ text).trimStart = keyword ++ ' ' :: text :=
    fun text => Text.trimStart_cons_of_not_white (by decide) _
  obtain ⟨afterKeyword, token, afterName, rest, hline, htoken, hne, hname, hunit, htail⟩ :=
    split_eq_ok_iff.1 hsplit
  rw [htrim] at hline
  obtain rfl := List.append_cancel_left hline
  rw [splitToken_number_append] at htoken
  obtain ⟨rfl, rfl⟩ := Prod.mk.inj htoken
  obtain ⟨other, hother⟩ := exists_nameOfToken hsecond (Text.splitToken back).1
  refine ⟨other, split_eq_ok_iff.2 ⟨_, _, _, rest, htrim _, splitToken_number_append second back,
    ?_, hother, splitUnit_congr hunit, htail⟩⟩
  exact List.append_ne_nil_of_left_ne_nil (Decimal.ofNat_ne_nil second) _

/-- A definition that is read for one dataset is read for every other: its references are found
before they are bound to a dataset. -/
theorem exists_read
    {first second : Nat} (hsecond : second < Decimal.wordLimit)
    {back : Text} {number : Nat} {definition : Definition}
    (hread : read ⟨number, Template.defineFront ++ (Decimal.ofNat first ++ ':' :: back)⟩ =
      .ok definition) :
    ∃ other, read ⟨number, Template.defineFront ++ (Decimal.ofNat second ++ ':' :: back)⟩ =
      .ok other := by
  unfold read at hread ⊢
  split at hread
  · cases hread
  · next name unit tail hsplit =>
      obtain ⟨other, hother⟩ := exists_split hsecond hsplit
      simp only [hother]
      unfold Expression.qualifyText at hread ⊢
      cases hparse : Expression.parse tail.trimEnd with
      | error error =>
          rw [hparse] at hread
          cases hread
      | ok expression => exact ⟨_, rfl⟩

end Definition

namespace Template

theorem tokens_seriesFront_append
    {back : Text} (hback : Text.EndsToken back) (dataset : Nat) :
    Text.tokens .blanks (seriesFront ++ (Decimal.ofNat dataset ++ back)) =
      Directive.addWord :: Directive.seriesWord :: Decimal.ofNat dataset ::
        Text.tokens .blanks back := by
  have hblank : Separators.contains .blanks ' ' = true := by decide
  have hseries : Text.IsWord .blanks Directive.seriesWord :=
    Text.isWord_of_all (by decide) (by decide)
  have hfront : seriesFront ++ (Decimal.ofNat dataset ++ back) =
      Directive.addWord ++
        ' ' :: (Directive.seriesWord ++ ' ' :: (Decimal.ofNat dataset ++ back)) := by
    simp [seriesFront]
  rw [hfront, Text.tokens_append_separator Directive.isWord_addWord hblank,
    Text.tokens_append_separator hseries hblank,
    Text.tokens_append_of_endsToken (Directive.isWord_ofNat dataset) hback]

theorem exists_read_series
    {first second : Nat} (hfirst : first < Decimal.wordLimit) (hsecond : second < Decimal.wordLimit)
    {back : Text} (hback : Text.EndsToken back) {number : Nat} {directive : Directive}
    (hread : Directive.read ⟨number, seriesFront ++ (Decimal.ofNat first ++ back)⟩ =
      .ok directive) :
    ∃ other, Directive.read ⟨number, seriesFront ++ (Decimal.ofNat second ++ back)⟩ =
      .ok other := by
  have htokens := tokens_seriesFront_append hback
  have hkeyword : ∀ dataset,
      Keyword.ofLine (seriesFront ++ (Decimal.ofNat dataset ++ back)) = .add :=
    fun dataset => Keyword.ofLine_of_tokens (htokens dataset)
  have hword : ¬ Directive.seriesWord = Directive.chartWord := by decide
  unfold Directive.read at hread ⊢
  simp only [hkeyword, htokens, List.drop_succ_cons, List.drop_zero, Directive.ofAddTokens,
    hword, if_false, if_true] at hread ⊢
  split at hread
  · cases hread
  · next found hfound =>
      obtain ⟨other, hother⟩ := Directive.exists_ofSeriesTokens hfirst hsecond hfound
      rw [hother]
      exact ⟨other, rfl⟩

theorem exists_read_define
    {first second : Nat} (hsecond : second < Decimal.wordLimit)
    {back : Text} {number : Nat} {directive : Directive}
    (hread : Directive.read ⟨number, defineFront ++ (Decimal.ofNat first ++ ':' :: back)⟩ =
      .ok directive) :
    ∃ other, Directive.read ⟨number, defineFront ++ (Decimal.ofNat second ++ ':' :: back)⟩ =
      .ok other := by
  have hkeyword : ∀ dataset,
      Keyword.ofLine (defineFront ++ (Decimal.ofNat dataset ++ ':' :: back)) = .define := by
    intro dataset
    have hword : Text.IsWord .blanks Definition.keyword :=
      Text.isWord_of_all (by decide) (by decide)
    have hfront : defineFront ++ (Decimal.ofNat dataset ++ ':' :: back) =
        Definition.keyword ++ ' ' :: (Decimal.ofNat dataset ++ ':' :: back) := by
      simp [defineFront]
    rw [hfront]
    exact Keyword.ofLine_of_tokens (Text.tokens_append_separator hword (by decide) _)
  unfold Directive.read at hread ⊢
  simp only [hkeyword] at hread ⊢
  obtain ⟨definition, hdefinition, _⟩ := map_eq_ok_iff.1 hread
  obtain ⟨other, hother⟩ := Definition.exists_read hsecond hdefinition
  rw [hother]
  exact ⟨_, rfl⟩

/-- A line can be read with the numbers of all datasets or with none of them. -/
theorem Surrounds.exists_read
    {front back : Text} (hsurrounds : Surrounds front back)
    {first second : Nat} (hfirst : first < Decimal.wordLimit) (hsecond : second < Decimal.wordLimit)
    {number : Nat} {statement : Statement}
    (hread : Statement.read ⟨number, front ++ (Decimal.ofNat first ++ back)⟩ = .ok statement) :
    ∃ other, Statement.read ⟨number, front ++ (Decimal.ofNat second ++ back)⟩ = .ok other := by
  unfold Statement.read at hread ⊢
  split at hread
  · cases hread
  · next directive hfound =>
      have hdirective : ∃ other,
          Directive.read ⟨number, front ++ (Decimal.ofNat second ++ back)⟩ = .ok other := by
        cases hsurrounds with
        | series hback => exact exists_read_series hfirst hsecond hback hfound
        | define back => exact exists_read_define hsecond hfound
      obtain ⟨other, hother⟩ := hdirective
      simp only [hother]
      exact ⟨_, rfl⟩

end Template

end ChartScript
