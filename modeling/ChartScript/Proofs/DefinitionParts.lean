import ChartScript.Definition
import ChartScript.Proofs.ExpressionShape
import ChartScript.Proofs.Outcomes

/-!
# The parts of a definition line

What a line must consist of to be read as a definition: the keyword, a token for the name, a
unit or none, the equals sign and the expression.  The parts that are found are endings and
beginnings of the line, so that what the line does not hold they do not hold either.
-/

namespace ChartScript

namespace Text

theorem not_white_of_head?_trimStart
    {text : Text} {c : Char} (hhead : text.trimStart.head? = some c) : isWhite c = false :=
  not_of_head?_dropWhile hhead

theorem trimStart_trimStart (text : Text) : text.trimStart.trimStart = text.trimStart :=
  trimStart_eq_self fun _ hc => not_white_of_head?_trimStart hc

theorem not_white_of_getLast?_trimEnd
    {text : Text} {c : Char} (hlast : text.trimEnd.getLast? = some c) : isWhite c = false :=
  not_of_getLast?_dropEndWhile hlast

theorem trimStart_suffix (text : Text) : text.trimStart <:+ text := List.dropWhile_suffix isWhite

theorem trimEnd_begins (text : Text) : text.trimEnd <+: text := List.rdropWhile_prefix isWhite text

theorem splitToken_snd_suffix (text : Text) : (splitToken text).2 <:+ text :=
  List.dropWhile_suffix (!isBlank ·)

theorem splitToken_fst_begins (text : Text) : (splitToken text).1 <+: text :=
  List.takeWhile_prefix (!isBlank ·)

end Text

namespace Definition

/-! ## The name and the unit of a line -/

/-- A token that can stand for a name: if it begins with the number of a dataset, that number
can be read. -/
structure IsNameToken (token : Text) : Prop where
  isWord : Text.IsWord .blanks token
  head_not_white : ∀ c, token.head? = some c → Text.isWhite c = false
  head_ne_sigil : token.head? ≠ some '$'
  number_readable : QualifiedName.isQualified token = true → QualifiedName.parse? token ≠ none

/-- The name that a token stands for; without a number it belongs to dataset 0. -/
def nameOf (token : Text) : QualifiedName := (QualifiedName.parse? token).getD ⟨0, token⟩

theorem IsNameToken.nameOfToken_eq {token : Text} (htoken : IsNameToken token) :
    nameOfToken token = .ok (nameOf token) := by
  unfold nameOfToken nameOf
  rw [if_neg htoken.head_ne_sigil]
  cases hparse : QualifiedName.parse? token with
  | some name => rfl
  | none =>
      have hplain : ¬ QualifiedName.isQualified token = true := fun hqualified =>
        htoken.number_readable hqualified hparse
      simp only
      rw [if_neg hplain]
      rfl

theorem readable_of_nameOfToken
    {token : Text} {name : QualifiedName} (hne : token ≠ []) (hfeed : '\n' ∉ token)
    (hread : nameOfToken token = .ok name) :
    name.Readable ∧ name.name <:+ token := by
  unfold nameOfToken at hread
  split at hread
  · cases hread
  · split at hread
    · next found hparse =>
        obtain rfl := Except.ok.inj hread
        exact QualifiedName.readable_of_parse? hparse
    · split at hread
      · cases hread
      · obtain rfl := Except.ok.inj hread
        exact ⟨⟨Nat.zero_lt_succ _, hne, hfeed⟩, List.suffix_refl token⟩

structure IsUnit (unit : Text) : Prop where
  ne_nil : unit ≠ []
  not_blank : ∀ c ∈ unit, Text.isBlank c = false
  head_not_white : ∀ c, unit.head? = some c → Text.isWhite c = false
  head_ne_equals : unit.head? ≠ some '='
  no_lineFeed : '\n' ∉ unit

theorem isUnit_noUnit : IsUnit noUnit := by
  have hword : Text.IsWord .blanks noUnit := Text.isWord_of_all (by decide) (by decide)
  exact ⟨hword.1, hword.2, Text.not_white_of_head?_cons (by decide) _, by decide, by decide⟩

theorem splitUnit_append
    {unit : Text} (hunit : IsUnit unit) (name : QualifiedName) {after : Text}
    (hafter : Text.EndsToken after) :
    splitUnit name (unit ++ after) = .ok (unit, Text.trimStart after) := by
  have hhead : (unit ++ after).head? ≠ some '=' := by
    rw [← Text.head?_eq_of_begins ⟨after, rfl⟩ hunit.ne_nil]
    exact hunit.head_ne_equals
  have hempty := mt List.isEmpty_iff.1 hunit.ne_nil
  unfold splitUnit
  rw [if_neg hhead, Text.splitToken_of_endsToken hunit.not_blank hafter]
  simp only
  rw [if_neg hempty]

theorem isUnit_of_splitUnit
    {name : QualifiedName} {rest unit after : Text}
    (hhead : ∀ c, rest.head? = some c → Text.isWhite c = false) (hfeed : '\n' ∉ rest)
    (hsplit : splitUnit name rest = .ok (unit, after)) :
    IsUnit unit := by
  unfold splitUnit at hsplit
  split at hsplit
  · obtain ⟨rfl, rfl⟩ := by simpa using hsplit
    exact isUnit_noUnit
  · next hequals =>
      simp only at hsplit
      split at hsplit
      · cases hsplit
      · next hempty =>
          obtain ⟨rfl, rfl⟩ := by simpa using hsplit
          have hne := mt List.isEmpty_iff.2 hempty
          have hbegins := Text.splitToken_fst_begins rest
          have hfirst := Text.head?_eq_of_begins hbegins hne
          refine ⟨hne, fun c hc => Text.isBlank_of_mem_splitToken_fst hc, ?_, ?_, ?_⟩
          · rw [hfirst]
            exact hhead
          · rw [hfirst]
            exact hequals
          · exact fun hmem => hfeed (hbegins.subset hmem)

theorem suffix_of_splitUnit
    {name : QualifiedName} {rest unit after : Text}
    (hsplit : splitUnit name rest = .ok (unit, after)) :
    after <:+ rest := by
  unfold splitUnit at hsplit
  split at hsplit
  · obtain ⟨rfl, rfl⟩ := by simpa using hsplit
    exact List.suffix_refl rest
  · simp only at hsplit
    split at hsplit
    · cases hsplit
    · obtain ⟨rfl, rfl⟩ := by simpa using hsplit
      exact (Text.trimStart_suffix _).trans (Text.splitToken_snd_suffix rest)

/-! ## The parts of a line -/

/-- What a line must consist of to be split. -/
theorem split_eq_ok_iff {line unit tail : Text} {name : QualifiedName} :
    split line = .ok (name, unit, tail) ↔
      ∃ afterKeyword token afterName rest,
        line.trimStart = keyword ++ afterKeyword ∧
          Text.splitToken (Text.trimStart afterKeyword) = (token, afterName) ∧ token ≠ [] ∧
            nameOfToken token = .ok name ∧
              splitUnit name (Text.trimStart afterName) = .ok (unit, '=' :: rest) ∧
                tail = Text.trimStart rest ∧ Text.trimEnd tail ≠ [] := by
  constructor
  · intro hsplit
    unfold split at hsplit
    cases hafter : Text.after? keyword line.trimStart with
    | none =>
        simp only [hafter] at hsplit
        cases hsplit
    | some afterKeyword =>
        simp only [hafter] at hsplit
        split at hsplit
        · cases hsplit
        · next htoken =>
            obtain ⟨found, hname, hsplit⟩ := bind_eq_ok_iff.1 hsplit
            obtain ⟨⟨other, afterUnit⟩, hunit, hsplit⟩ := bind_eq_ok_iff.1 hsplit
            simp only at hsplit
            split at hsplit
            · next rest =>
                split at hsplit
                · cases hsplit
                · next htail =>
                    obtain ⟨rfl, rfl, rfl⟩ := by simpa using hsplit
                    exact ⟨afterKeyword, _, _, rest, Text.after?_eq_some_iff.1 hafter, rfl,
                      mt List.isEmpty_iff.2 htoken, hname, hunit, rfl,
                      mt List.isEmpty_iff.2 htail⟩
            · cases hsplit
  · rintro ⟨afterKeyword, token, afterName, rest, hline, htoken, hne, hname, hunit, rfl, htail⟩
    have hafter := Text.after?_eq_some_iff.2 hline
    have hempty := mt List.isEmpty_iff.1 hne
    have htailEmpty := mt List.isEmpty_iff.1 htail
    unfold split
    simp only [hafter, htoken]
    rw [if_neg hempty, bind_eq_ok_iff]
    refine ⟨name, hname, ?_⟩
    rw [bind_eq_ok_iff]
    refine ⟨_, hunit, ?_⟩
    simp only
    rw [if_neg htailEmpty]

theorem suffix_of_afterKeyword
    {line afterKeyword : Text} (hline : line.trimStart = keyword ++ afterKeyword) :
    Text.trimStart afterKeyword <:+ line :=
  (Text.trimStart_suffix afterKeyword).trans
    (List.IsSuffix.trans ⟨keyword, hline.symm⟩ (Text.trimStart_suffix line))

theorem suffix_of_afterName
    {line afterKeyword : Text} (hline : line.trimStart = keyword ++ afterKeyword) :
    Text.trimStart (Text.splitToken (Text.trimStart afterKeyword)).2 <:+ line :=
  (Text.trimStart_suffix _).trans
    ((Text.splitToken_snd_suffix _).trans (suffix_of_afterKeyword hline))

theorem readable_of_split
    {line unit tail : Text} {name : QualifiedName}
    (hsplit : split line = .ok (name, unit, tail)) (hfeed : '\n' ∉ line) :
    name.Readable ∧ ∀ c ∈ name.name, Text.isBlank c = false := by
  obtain ⟨afterKeyword, token, afterName, _, hline, htoken, hne, hname, _⟩ :=
    split_eq_ok_iff.1 hsplit
  obtain rfl : _ = token := congrArg Prod.fst htoken
  have htokenFeed : '\n' ∉ (Text.splitToken (Text.trimStart afterKeyword)).1 := by
    intro hmem
    have hbegins := Text.splitToken_fst_begins (Text.trimStart afterKeyword)
    exact hfeed ((suffix_of_afterKeyword hline).subset (hbegins.subset hmem))
  obtain ⟨hreadable, hsuffix⟩ := readable_of_nameOfToken hne htokenFeed hname
  refine ⟨hreadable, ?_⟩
  intro c hc
  exact Text.isBlank_of_mem_splitToken_fst (hsuffix.subset hc)

theorem isUnit_of_split
    {line unit tail : Text} {name : QualifiedName}
    (hsplit : split line = .ok (name, unit, tail)) (hfeed : '\n' ∉ line) :
    IsUnit unit := by
  obtain ⟨afterKeyword, token, afterName, _, hline, htoken, _, _, hunit, _⟩ :=
    split_eq_ok_iff.1 hsplit
  obtain rfl : _ = afterName := congrArg Prod.snd htoken
  refine isUnit_of_splitUnit ?_ ?_ hunit
  · exact fun _ hc => Text.not_white_of_head?_trimStart hc
  · exact fun hmem => hfeed ((suffix_of_afterName hline).subset hmem)

/-- The expression begins a trimmed ending of the line. -/
theorem tail_of_split
    {line unit tail : Text} {name : QualifiedName}
    (hsplit : split line = .ok (name, unit, tail)) :
    tail <:+ line ∧ (∀ c, tail.head? = some c → Text.isWhite c = false) ∧
      Text.trimEnd tail ≠ [] := by
  obtain ⟨afterKeyword, token, afterName, rest, hline, htoken, _, _, hunit, rfl, htail⟩ :=
    split_eq_ok_iff.1 hsplit
  obtain rfl : _ = afterName := congrArg Prod.snd htoken
  refine ⟨?_, fun c hc => Text.not_white_of_head?_trimStart hc, htail⟩
  have hafterUnit := (suffix_of_splitUnit hunit).trans (suffix_of_afterName hline)
  have hrest := (List.suffix_cons '=' rest).trans hafterUnit
  exact (Text.trimStart_suffix rest).trans hrest

theorem read_eq_ok_iff {line : SourceLine} {definition : Definition} :
    read line = .ok definition ↔
      ∃ tail, split line.text = .ok (definition.name, definition.unit, tail) ∧
        Expression.qualifyText definition.name.dataset (Text.trimEnd tail) =
          .ok definition.expression := by
  unfold read
  constructor
  · intro hread
    split at hread
    · cases hread
    · next name unit tail hsplit =>
        split at hread
        · cases hread
        · next expression hexpression =>
            obtain rfl := Except.ok.inj hread
            exact ⟨tail, hsplit, hexpression⟩
  · rintro ⟨tail, hsplit, hexpression⟩
    simp only [hsplit, hexpression]

/-- The expression that is read begins and ends with no white character. -/
theorem not_white_of_read
    {line : SourceLine} {definition : Definition} (hread : read line = .ok definition) :
    (∀ c, definition.expression.head? = some c → Text.isWhite c = false) ∧
      ∀ c, definition.expression.getLast? = some c → Text.isWhite c = false := by
  obtain ⟨tail, hsplit, hbound⟩ := read_eq_ok_iff.1 hread
  obtain ⟨expression, hparse, hexpression⟩ := map_eq_ok_iff.1 hbound
  obtain ⟨_, hhead, htail⟩ := tail_of_split hsplit
  have htext := Expression.text_of_parse hparse
  rw [← hexpression]
  constructor
  · intro c hc
    rw [Expression.head?_text_qualify, htext,
      Text.head?_eq_of_begins (Text.trimEnd_begins tail) htail] at hc
    exact hhead c hc
  · intro c hc
    refine Expression.not_white_of_getLast?_text_qualify ?_ hc
    rw [htext]
    exact fun _ hlast => Text.not_white_of_getLast?_trimEnd hlast

end Definition

end ChartScript
