import ChartScript.Loop.Unroll
import ChartScript.Proofs.SourceLines
import ChartScript.Proofs.WrittenNames

/-!
# Putting a value into a line

A loop variable is written with a sigil and holds no blank.  So a text without sigils in
front of a line stays out of the substitution, and a blank in the line parts it into pieces
that are substituted one by one.  The tokens of a line with a value put in are therefore the
tokens of the line, each with the value put in, as long as the value is a token itself.
-/

namespace ChartScript

namespace Text

/-! ## Replacing piece by piece -/

/-- A text is empty, or begins with an occurrence of the pattern, or begins with a character
at which no occurrence begins. -/
theorem replaceAll_induction
    {pattern : Text} (hpattern : pattern ≠ []) {motive : Text → Prop}
    (nil : motive [])
    (occurrence : ∀ rest, motive rest → motive (pattern ++ rest))
    (kept : ∀ c rest, ¬ pattern <+: c :: rest → motive rest → motive (c :: rest))
    (text : Text) : motive text := by
  induction hlength : text.length using Nat.strong_induction_on generalizing text with
  | h length ih =>
      by_cases hhere : pattern <+: text
      · obtain ⟨rest, rfl⟩ := hhere
        have hpos := List.length_pos_iff.2 hpattern
        have hshorter : rest.length < length := by
          rw [List.length_append] at hlength
          omega
        exact occurrence rest (ih rest.length hshorter rest rfl)
      · cases text with
        | nil => exact nil
        | cons c rest =>
            have hshorter : rest.length < length := by
              rw [List.length_cons] at hlength
              omega
            exact kept c rest hhere (ih rest.length hshorter rest rfl)

/-- A pattern that holds its first character once does not begin in front of that character and
end behind it. -/
theorem begins_of_begins_append_head
    {x : Char} {name : Text} (hx : x ∉ name) {front : Text} (hfront : front ≠ []) {rest : Text}
    (hbegins : x :: name <+: front ++ x :: rest) :
    x :: name <+: front := by
  rcases List.prefix_or_prefix_of_prefix hbegins (List.prefix_append front (x :: rest)) with
    hshort | ⟨back, hlong⟩
  · exact hshort
  · obtain ⟨c, front, rfl⟩ := List.exists_cons_of_ne_nil hfront
    rw [← hlong, List.prefix_append_right_inj] at hbegins
    cases back with
    | nil => simp [← hlong]
    | cons d back =>
        obtain rfl := (List.cons_prefix_cons.1 hbegins).1
        have hname := (List.cons.inj hlong).2
        exact absurd (by simp [← hname]) hx

/-- A character that the pattern does not hold parts a text into two that are replaced one by
one. -/
theorem replaceAll_append_cons
    {pattern : Text} (hpattern : pattern ≠ []) {c : Char} (hc : c ∉ pattern)
    (value front rest : Text) :
    replaceAll pattern value (front ++ c :: rest) =
      replaceAll pattern value front ++ c :: replaceAll pattern value rest := by
  induction front using replaceAll_induction hpattern with
  | nil =>
      have hnot : ¬ pattern <+: c :: rest := fun hbegins =>
        hpattern (List.prefix_nil.1 (begins_of_begins_append_cons hc [] rest hbegins))
      rw [List.nil_append, replaceAll_cons value hnot, replaceAll_nil, List.nil_append]
  | occurrence front ih =>
      rw [List.append_assoc, replaceAll_append hpattern, replaceAll_append hpattern, ih,
        List.append_assoc]
  | kept d front hd ih =>
      have hnot : ¬ pattern <+: d :: (front ++ c :: rest) := fun hbegins =>
        hd (begins_of_begins_append_cons hc (d :: front) rest hbegins)
      rw [List.cons_append, replaceAll_cons value hnot, replaceAll_cons value hd, ih,
        List.cons_append]

theorem not_begins_cons
    {x c : Char} (hne : c ≠ x) (pattern rest : Text) : ¬ x :: pattern <+: c :: rest := by
  intro hbegins
  exact hne (List.cons_prefix_cons.1 hbegins).1.symm

theorem replaceAll_append_of_not_mem
    {x : Char} {pattern front : Text} (hfront : x ∉ front) (value rest : Text) :
    replaceAll (x :: pattern) value (front ++ rest) =
      front ++ replaceAll (x :: pattern) value rest := by
  induction front with
  | nil => rfl
  | cons c front ih =>
      simp only [List.mem_cons, not_or] at hfront
      have hc := not_begins_cons (Ne.symm hfront.1) pattern (front ++ rest)
      rw [List.cons_append, replaceAll_cons value hc, ih hfront.2, List.cons_append]

theorem head?_replaceAll
    {pattern value : Text} (hpattern : pattern ≠ []) (hvalue : value ≠ []) (text : Text) :
    (replaceAll pattern value text).head? = text.head? ∨
      pattern <+: text ∧ (replaceAll pattern value text).head? = value.head? := by
  induction text using replaceAll_induction hpattern with
  | nil => exact .inl rfl
  | occurrence rest _ =>
      refine .inr ⟨List.prefix_append pattern rest, ?_⟩
      rw [replaceAll_append hpattern]
      exact (head?_eq_of_begins (List.prefix_append value _) hvalue).symm
  | kept c rest hc _ =>
      rw [replaceAll_cons value hc]
      exact .inl rfl

/-- Where the value does not show in the result, nothing was replaced. -/
theorem replaceAll_eq_self_of_absent
    {pattern value text : Text} (hpattern : pattern ≠ []) {c : Char} (hc : c ∈ value)
    (habsent : c ∉ replaceAll pattern value text) :
    replaceAll pattern value text = text := by
  induction text using replaceAll_induction hpattern with
  | nil => rfl
  | occurrence rest _ =>
      rw [replaceAll_append hpattern] at habsent
      exact absurd (List.mem_append_left _ hc) habsent
  | kept d rest hd ih =>
      rw [replaceAll_cons value hd] at habsent ⊢
      rw [ih fun hmem => habsent (List.mem_cons_of_mem d hmem)]

/-! ## The tokens of a line, one by one -/

theorem tokens_cons_blank {c : Char} (hc : isBlank c = true) (rest : Text) :
    tokens .blanks (c :: rest) = tokens .blanks rest := by
  have hseparator : Separators.contains .blanks c = true := hc
  exact tokens_cons_separator hseparator rest

theorem tokens_append_of_endsToken
    {word rest : Text} (hword : IsWord .blanks word) (hrest : EndsToken rest) :
    tokens .blanks (word ++ rest) = word :: tokens .blanks rest := by
  have hends : ∀ c, rest.head? = some c → Separators.contains .blanks c = true := hrest
  rw [tokens_append_of_head word hends, tokens_of_isWord hword, List.singleton_append]

/-- A line is empty, begins with a blank, or begins with a token and what ends it. -/
theorem tokens_induction
    {motive : Text → Prop}
    (nil : motive [])
    (blank : ∀ c rest, isBlank c = true → motive rest → motive (c :: rest))
    (last : ∀ word, IsWord .blanks word → motive word)
    (word : ∀ word c rest, IsWord .blanks word → isBlank c = true → motive rest →
      motive (word ++ c :: rest))
    (text : Text) : motive text := by
  induction hlength : text.length using Nat.strong_induction_on generalizing text with
  | h length ih =>
      cases text with
      | nil => exact nil
      | cons first rest =>
          by_cases hfirst : isBlank first = true
          · refine blank first rest hfirst (ih rest.length ?_ rest rfl)
            rw [List.length_cons] at hlength
            omega
          · have hword : IsWord .blanks (splitToken (first :: rest)).1 := by
              refine ⟨?_, fun c hc => isBlank_of_mem_splitToken_fst hc⟩
              simp [splitToken, hfirst]
            have htext := splitToken_fst_append_snd (first :: rest)
            have hends := endsToken_splitToken_snd (first :: rest)
            have hpos := List.length_pos_iff.2 hword.1
            cases hafter : (splitToken (first :: rest)).2 with
            | nil =>
                rw [hafter, List.append_nil] at htext
                rw [← htext]
                exact last _ hword
            | cons c after =>
                rw [hafter] at htext hends
                have hshorter : after.length < length := by
                  rw [← hlength, ← htext, List.length_append, List.length_cons]
                  omega
                rw [← htext]
                exact word _ c after hword (hends c rfl) (ih after.length hshorter after rfl)

/-- White space in front of a text, other than blanks and tabs, is part of its first token;
the text has none. -/
def BlankMargin (text : Text) : Prop :=
  ∀ c, (text.dropWhile isBlank).head? = some c → isWhite c = false

theorem trimStart_of_blankMargin {text : Text} (htext : text.BlankMargin) :
    text.trimStart = text.dropWhile isBlank := by
  induction text with
  | nil => rfl
  | cons c rest ih =>
      unfold BlankMargin at htext
      by_cases hc : isBlank c = true
      · rw [List.dropWhile_cons_of_pos hc] at htext ⊢
        unfold trimStart at ih ⊢
        rw [List.dropWhile_cons_of_pos (isWhite_of_isBlank hc), ih htext]
      · rw [List.dropWhile_cons_of_neg hc] at htext ⊢
        exact trimStart_cons_of_not_white (htext c rfl) rest

theorem tokens_dropWhile_isBlank (text : Text) :
    tokens .blanks (text.dropWhile isBlank) = tokens .blanks text := by
  induction text with
  | nil => rfl
  | cons c rest ih =>
      by_cases hc : isBlank c = true
      · rw [List.dropWhile_cons_of_pos hc, tokens_cons_blank hc, ih]
      · rw [List.dropWhile_cons_of_neg hc]

theorem trimStart_dropWhile_isBlank (text : Text) :
    trimStart (text.dropWhile isBlank) = trimStart text := by
  induction text with
  | nil => rfl
  | cons c rest ih =>
      by_cases hc : isBlank c = true
      · unfold trimStart at ih ⊢
        rw [List.dropWhile_cons_of_pos hc, ih, List.dropWhile_cons_of_pos (isWhite_of_isBlank hc)]
      · rw [List.dropWhile_cons_of_neg hc]

theorem tokens_trimStart {text : Text} (htext : text.BlankMargin) :
    tokens .blanks text.trimStart = tokens .blanks text := by
  rw [trimStart_of_blankMargin htext, tokens_dropWhile_isBlank]

theorem blankMargin_cons {c : Char} (hc : isWhite c = false) (rest : Text) :
    BlankMargin (c :: rest) := by
  intro d hd
  rw [List.dropWhile_cons_of_neg (by simp [isBlank_of_not_white hc])] at hd
  obtain rfl := Option.some.inj hd
  exact hc

/-- In front of the first token stand blanks, and a text that begins with it has no margin. -/
theorem blankMargin_of_tokens
    {text first : Text} {words : List Text} (htokens : tokens .blanks text = first :: words)
    (hfirst : ∀ c, first.head? = some c → isWhite c = false) :
    text.BlankMargin := by
  have hbegins : ∀ rest, IsWord .blanks first → BlankMargin (first ++ rest) := by
    intro rest hword
    cases first with
    | nil => exact absurd rfl hword.1
    | cons c first => exact blankMargin_cons (hfirst c rfl) (first ++ rest)
  induction text using tokens_induction with
  | nil => cases htokens
  | blank c rest hc ih =>
      rw [tokens_cons_blank hc] at htokens
      have hrest := ih htokens
      unfold BlankMargin at hrest ⊢
      rw [List.dropWhile_cons_of_pos hc]
      exact hrest
  | last word hword =>
      rw [tokens_of_isWord hword] at htokens
      obtain ⟨rfl, _⟩ := List.cons.inj htokens
      simpa using hbegins [] hword
  | word word c rest hword hc ih =>
      rw [tokens_append_separator hword hc] at htokens
      obtain ⟨rfl, _⟩ := List.cons.inj htokens
      exact hbegins (c :: rest) hword

end Text

theorem Keyword.ofLine_trimStart {text : Text} (htext : text.BlankMargin) :
    Keyword.ofLine text.trimStart = Keyword.ofLine text := by
  unfold Keyword.ofLine Text.firstToken?
  rw [Text.tokens_trimStart htext]

/-! ## Loop variables -/

namespace Loop

theorem not_mem_bracedForm {var : Text} {c : Char} (hmarks : c ∉ ['$', '{', '}']) (hvar : c ∉ var) :
    c ∉ bracedForm var := by
  simp only [List.mem_cons, List.not_mem_nil, or_false, not_or] at hmarks
  simp [bracedForm, hmarks, hvar]

theorem not_mem_bareForm {var : Text} {c : Char} (hmarks : c ∉ ['$', '{', '}']) (hvar : c ∉ var) :
    c ∉ bareForm var := by
  simp only [List.mem_cons, List.not_mem_nil, or_false, not_or] at hmarks
  simp [bareForm, hmarks, hvar]

variable (var value : Text)

@[simp] theorem substitute_nil : substitute var value [] = [] := rfl

/-- What stands in front of the first sigil stays. -/
theorem substitute_append_of_not_mem {front : Text} (hfront : '$' ∉ front) (rest : Text) :
    substitute var value (front ++ rest) = front ++ substitute var value rest := by
  unfold substitute bracedForm bareForm
  rw [List.cons_append, Text.replaceAll_append_of_not_mem hfront,
    Text.replaceAll_append_of_not_mem hfront]

theorem substitute_eq_self {text : Text} (htext : '$' ∉ text) :
    substitute var value text = text := by
  have happend := substitute_append_of_not_mem var value htext []
  simpa using happend

theorem substitute_cons {c : Char} (hc : c ≠ '$') (rest : Text) :
    substitute var value (c :: rest) = c :: substitute var value rest := by
  have hfront : '$' ∉ [c] := by simpa using hc.symm
  exact substitute_append_of_not_mem var value hfront rest

theorem substitute_cons_blank {c : Char} (hc : Text.isBlank c = true) (rest : Text) :
    substitute var value (c :: rest) = c :: substitute var value rest := by
  refine substitute_cons var value ?_ rest
  rintro rfl
  cases hc

variable {var value : Text}

/-- A character that is no part of a reference to the variable parts the line. -/
theorem substitute_append_cons
    {c : Char} (hmarks : c ∉ ['$', '{', '}']) (hvar : c ∉ var) (front rest : Text) :
    substitute var value (front ++ c :: rest) =
      substitute var value front ++ c :: substitute var value rest := by
  unfold substitute
  rw [Text.replaceAll_append_cons (by simp [bracedForm]) (not_mem_bracedForm hmarks hvar),
    Text.replaceAll_append_cons (by simp [bareForm]) (not_mem_bareForm hmarks hvar)]

theorem mem_substitute {text : Text} {c : Char} (hc : c ∈ substitute var value text) :
    c ∈ value ∨ c ∈ text := by
  rcases Text.mem_replaceAll hc with hc | hc
  · exact .inl hc
  · exact Text.mem_replaceAll hc

theorem substitute_eq_self_of_absent
    {text : Text} {c : Char} (hc : c ∈ value) (habsent : c ∉ substitute var value text) :
    substitute var value text = text := by
  have hbraced : bracedForm var ≠ [] := by simp [bracedForm]
  have hbare : bareForm var ≠ [] := by simp [bareForm]
  have houter := Text.replaceAll_eq_self_of_absent hbare hc habsent
  unfold substitute at habsent ⊢
  rw [houter] at habsent ⊢
  exact Text.replaceAll_eq_self_of_absent hbraced hc habsent

theorem head?_substitute (var : Text) (hvalue : value ≠ []) (text : Text) :
    (substitute var value text).head? = text.head? ∨
      text.head? = some '$' ∧ (substitute var value text).head? = value.head? := by
  have hbraced : bracedForm var ≠ [] := by simp [bracedForm]
  have hbare : bareForm var ≠ [] := by simp [bareForm]
  have houter := Text.head?_replaceAll hbare hvalue
    (Text.replaceAll (bracedForm var) value text)
  rcases Text.head?_replaceAll hbraced hvalue text with hinner | ⟨hbegins, hinner⟩
  · rcases houter with houter | ⟨hbegins, houter⟩
    · exact .inl (houter.trans hinner)
    · refine .inr ⟨?_, houter⟩
      rw [← hinner, ← Text.head?_eq_of_begins hbegins hbare]
      rfl
  · have htext : text.head? = some '$' := by
      rw [← Text.head?_eq_of_begins hbegins hbraced]
      rfl
    rcases houter with houter | ⟨_, houter⟩
    · exact .inr ⟨htext, houter.trans hinner⟩
    · exact .inr ⟨htext, houter⟩

theorem substitute_ne_nil
    (var : Text) (hvalue : value ≠ []) {text : Text} (htext : text ≠ []) :
    substitute var value text ≠ [] := by
  intro hnil
  have hhead := head?_substitute var hvalue text
  rw [hnil, List.head?_nil] at hhead
  rcases hhead with hhead | ⟨_, hhead⟩
  · exact htext (List.head?_eq_none_iff.1 hhead.symm)
  · exact hvalue (List.head?_eq_none_iff.1 hhead.symm)

/-! ## Tokens with a value put in -/

section

variable (hvar : ∀ c ∈ var, Text.isBlank c = false)

include hvar

theorem substitute_append_blank {c : Char} (hc : Text.isBlank c = true) (front rest : Text) :
    substitute var value (front ++ c :: rest) =
      substitute var value front ++ c :: substitute var value rest := by
  have hmarks : c ∉ ['$', '{', '}'] := by
    intro hmem
    simp only [List.mem_cons, List.not_mem_nil, or_false] at hmem
    rcases hmem with rfl | rfl | rfl <;> cases hc
  have hmem : c ∉ var := by
    intro hmem
    rw [hvar c hmem] at hc
    cases hc
  exact substitute_append_cons hmarks hmem front rest

theorem substitute_joinTokens (words : List Text) :
    substitute var value (Text.joinTokens words) =
      Text.joinTokens (words.map (substitute var value)) := by
  induction words with
  | nil => rfl
  | cons word words ih =>
      cases words with
      | nil => rw [List.map_singleton, Text.joinTokens_singleton, Text.joinTokens_singleton]
      | cons next words =>
          rw [Text.joinTokens_cons_cons, substitute_append_blank hvar (by decide), ih]
          simp only [List.map_cons, Text.joinTokens_cons_cons]

omit hvar in
theorem isWord_substitute
    (var : Text) (hvalue : Text.IsWord .blanks value)
    {word : Text} (hword : Text.IsWord .blanks word) :
    Text.IsWord .blanks (substitute var value word) := by
  refine ⟨substitute_ne_nil var hvalue.1 hword.1, ?_⟩
  intro c hc
  rcases mem_substitute hc with hc | hc
  · exact hvalue.2 c hc
  · exact hword.2 c hc

/-- The tokens of a line with a value put in are its tokens with the value put in. -/
theorem tokens_substitute (hvalue : Text.IsWord .blanks value) (text : Text) :
    Text.tokens .blanks (substitute var value text) =
      (Text.tokens .blanks text).map (substitute var value) := by
  induction text using Text.tokens_induction with
  | nil => rfl
  | blank c rest hc ih =>
      rw [substitute_cons_blank var value hc, Text.tokens_cons_blank hc,
        Text.tokens_cons_blank hc, ih]
  | last word hword =>
      rw [Text.tokens_of_isWord hword, Text.tokens_of_isWord (isWord_substitute var hvalue hword)]
      rfl
  | word word c rest hword hc ih =>
      rw [substitute_append_blank hvar hc, Text.tokens_append_separator hword hc,
        Text.tokens_append_separator (isWord_substitute var hvalue hword) hc, ih]
      rfl

omit hvar in
/-- Putting in a value that is not white leaves a margin of blanks and tabs as it is, since the
first character behind it is the old one or that of the value. -/
theorem blankMargin_substitute
    (hvalue : value ≠ []) (hwhite : ∀ c, value.head? = some c → Text.isWhite c = false)
    {text : Text} (htext : text.BlankMargin) :
    (substitute var value text).BlankMargin := by
  induction text with
  | nil => exact htext
  | cons c rest ih =>
      by_cases hc : Text.isBlank c = true
      · unfold Text.BlankMargin at htext ih ⊢
        rw [List.dropWhile_cons_of_pos hc] at htext
        rw [substitute_cons_blank var value hc, List.dropWhile_cons_of_pos hc]
        exact ih htext
      · unfold Text.BlankMargin at htext
        rw [List.dropWhile_cons_of_neg hc] at htext
        have hhead : ∀ d, (substitute var value (c :: rest)).head? = some d →
            Text.isWhite d = false := by
          intro d hd
          rcases head?_substitute var hvalue (c :: rest) with hsame | ⟨_, hsame⟩
          · exact htext d (hsame ▸ hd)
          · exact hwhite d (hsame ▸ hd)
        cases hresult : substitute var value (c :: rest) with
        | nil => exact absurd hresult (substitute_ne_nil var hvalue (List.cons_ne_nil c rest))
        | cons d after =>
            rw [hresult] at hhead
            exact Text.blankMargin_cons (hhead d rfl) after

end

end Loop

end ChartScript
