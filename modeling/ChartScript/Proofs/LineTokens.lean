import ChartScript.Proofs.TokenText

/-!
# Lines and their tokens

A line is a margin of separators and then words, each with the separators behind it.  The tokens
of a line are these words and no others, so that a line with the separators taken out is its
tokens, one after the other.

Where commas separate as well, each token is cut further, and no token reaches over a blank.  A
keyword without a comma is the first token either way.
-/

namespace ChartScript.Text

section

variable {separators : Separators}

/-! ## Words set out in a line -/

/-- Words one after the other, each with the separators behind it.  Between two words there is
at least one. -/
inductive Spaced (separators : Separators) : List Text → Text → Prop
  | nil : Spaced separators [] []
  | cons {word gap rest : Text} {words : List Text} (hword : IsWord separators word)
      (hgap : ∀ c ∈ gap, separators.contains c = true) (hapart : words ≠ [] → gap ≠ [])
      (hrest : Spaced separators words rest) :
      Spaced separators (word :: words) (word ++ (gap ++ rest))

/-- The line holds the words in order, with separators between them and at both ends. -/
def SetOut (separators : Separators) (words : List Text) (line : Text) : Prop :=
  ∃ margin body, line = margin ++ body ∧ (∀ c ∈ margin, separators.contains c = true) ∧
    Spaced separators words body

/-- A text that begins with a separator holds something in front of its word. -/
theorem ne_nil_of_in_front
    {gap word rest : Text} (hword : IsWord separators word)
    (hends : ∀ c, (gap ++ (word ++ rest)).head? = some c → separators.contains c = true) :
    gap ≠ [] := by
  rintro rfl
  obtain ⟨c, word, rfl⟩ := List.exists_cons_of_ne_nil hword.1
  have hc := hword.2 c List.mem_cons_self
  rw [hends c rfl] at hc
  cases hc

theorem filter_of_separators
    {gap : Text} (hgap : ∀ c ∈ gap, separators.contains c = true) :
    gap.filter (!separators.contains ·) = [] :=
  List.filter_eq_nil_iff.2 fun c hc => by simp [hgap c hc]

namespace Spaced

variable {words : List Text} {gap body : Text}

theorem separator_behind_word
    (hbody : Spaced separators words body) (hgap : ∀ c ∈ gap, separators.contains c = true)
    (hapart : words ≠ [] → gap ≠ []) {c : Char} (hc : (gap ++ body).head? = some c) :
    separators.contains c = true := by
  cases gap with
  | nil =>
      have hwords : words = [] := by
        by_contra hne
        exact hapart hne rfl
      rw [hwords] at hbody
      cases hbody
      cases hc
  | cons d gap =>
      rw [List.head?_append_of_ne_nil _ (List.cons_ne_nil d gap)] at hc
      exact hgap c (List.mem_of_head? hc)

theorem tokens_append
    (hbody : Spaced separators words body) {margin : Text}
    (hmargin : ∀ c ∈ margin, separators.contains c = true) :
    tokens separators (margin ++ body) = words := by
  induction hbody generalizing margin with
  | nil =>
      rw [List.append_nil]
      exact tokens_eq_nil_iff.2 hmargin
  | cons hword hgap hapart hrest ih =>
      rw [tokens_append_word hmargin hword fun _ => hrest.separator_behind_word hgap hapart,
        ih hgap]

theorem flatten_eq (hbody : Spaced separators words body) :
    words.flatten = body.filter (!separators.contains ·) := by
  induction hbody with
  | nil => rfl
  | @cons word gap rest words hword hgap hapart hrest ih =>
      have hkept : word.filter (!separators.contains ·) = word :=
        List.filter_eq_self.2 fun c hc => by simp [hword.2 c hc]
      rw [List.flatten_cons, ih, List.filter_append, List.filter_append, hkept,
        filter_of_separators hgap, List.nil_append]

end Spaced

theorem setOut_tokens (separators : Separators) (line : Text) :
    SetOut separators (tokens separators line) line := by
  induction hwords : tokens separators line generalizing line with
  | nil => exact ⟨line, [], (List.append_nil line).symm, tokens_eq_nil_iff.1 hwords, .nil⟩
  | cons word words ih =>
      obtain ⟨margin, rest, rfl, hmargin, hword, hrest, hmore⟩ := exists_margin_of_tokens hwords
      obtain ⟨gap, body, rfl, hgap, hbody⟩ := ih rest hmore
      refine ⟨margin, word ++ (gap ++ body), rfl, hmargin, .cons hword hgap ?_ hbody⟩
      intro hne
      cases hbody with
      | nil => exact absurd rfl hne
      | cons hnext _ _ _ => exact ne_nil_of_in_front hnext hrest

theorem tokens_eq_iff {words : List Text} {line : Text} :
    tokens separators line = words ↔ SetOut separators words line := by
  constructor
  · rintro rfl
    exact setOut_tokens separators line
  · rintro ⟨margin, body, rfl, hmargin, hbody⟩
    exact hbody.tokens_append hmargin

theorem flatten_tokens (separators : Separators) (line : Text) :
    (tokens separators line).flatten = line.filter (!separators.contains ·) := by
  obtain ⟨margin, body, hline, hmargin, hbody⟩ := setOut_tokens separators line
  rw [hbody.flatten_eq, hline, List.filter_append, filter_of_separators hmargin, List.nil_append]

end

/-! ## Cutting at commas as well -/

/-- The pieces of a token between its commas. -/
def commaPieces (word : Text) : List Text := (word.splitOn ',').filter fun piece => !piece.isEmpty

theorem commaPieces_of_not_mem {word : Text} (hne : word ≠ []) (hcomma : ',' ∉ word) :
    commaPieces word = [word] := by
  unfold commaPieces
  rw [List.splitOn_eq_singleton hcomma]
  simpa using hne

theorem splitOnP_congr {p q : Char → Bool} {text : Text} (hsame : ∀ c ∈ text, p c = q c) :
    text.splitOnP p = text.splitOnP q := by
  induction text with
  | nil => rfl
  | cons c rest ih =>
      rw [List.splitOnP_cons_eq_if_modifyHead, List.splitOnP_cons_eq_if_modifyHead,
        hsame c List.mem_cons_self, ih fun d hd => hsame d (List.mem_cons_of_mem c hd)]

theorem tokens_blanksAndCommas_of_isWord {word : Text} (hword : IsWord .blanks word) :
    tokens .blanksAndCommas word = commaPieces word := by
  unfold tokens commaPieces
  rw [List.splitOn_eq_splitOnP]
  congr 1
  apply splitOnP_congr
  intro c hc
  rw [Separators.contains_blanksAndCommas, hword.2 c hc, Bool.false_or]

theorem separator_of_blank {c : Char} (hc : Separators.contains .blanks c = true) :
    Separators.contains .blanksAndCommas c = true := by
  rw [Separators.contains_blanksAndCommas, hc, Bool.true_or]

/-- Behind each token that is cut at blanks stands a blank or nothing, and so the tokens that are
cut at commas as well end there too. -/
theorem tokens_blanksAndCommas (line : Text) :
    tokens .blanksAndCommas line = (tokens .blanks line).flatMap commaPieces := by
  induction hwords : tokens .blanks line generalizing line with
  | nil =>
      have hline := tokens_eq_nil_iff.1 hwords
      exact tokens_eq_nil_iff.2 fun c hc => separator_of_blank (hline c hc)
  | cons word words ih =>
      obtain ⟨margin, rest, rfl, hmargin, hword, hrest, hmore⟩ := exists_margin_of_tokens hwords
      rw [tokens_append_of_separators fun c hc => separator_of_blank (hmargin c hc),
        tokens_append_of_head word fun c hc => separator_of_blank (hrest c hc),
        tokens_blanksAndCommas_of_isWord hword, ih rest hmore, List.flatMap_cons]

theorem tokens_blanksAndCommas_cons
    {line word : Text} {words : List Text} (htokens : tokens .blanks line = word :: words)
    (hcomma : ',' ∉ word) :
    tokens .blanksAndCommas line = word :: words.flatMap commaPieces := by
  have hword : IsWord .blanks word := isWord_of_mem_tokens (htokens ▸ List.mem_cons_self)
  rw [tokens_blanksAndCommas, htokens, List.flatMap_cons, commaPieces_of_not_mem hword.1 hcomma,
    List.singleton_append]

theorem head?_tokens_iff {line word : Text} (hfirst : line.firstToken? = some word) :
    (∀ separators, (tokens separators line).head? = some word) ↔ ',' ∉ word := by
  constructor
  · intro hheads
    have hword := isWord_of_mem_tokens (List.mem_of_head? (hheads .blanksAndCommas))
    exact (isWord_blanksAndCommas_iff.1 hword).2
  · intro hcomma separators
    cases separators with
    | blanks => exact hfirst
    | blanksAndCommas =>
        obtain ⟨words, htokens⟩ := List.head?_eq_some_iff.1 hfirst
        rw [tokens_blanksAndCommas_cons htokens hcomma]
        rfl

/-- The tokens of a line are the words that are set out in it: whatever the separators between
them are, the words are found again, and nothing but separators is lost.  With commas among the
separators the tokens are cut further, each by itself, so a keyword stays the first token exactly
if it holds no comma. -/
theorem tokens_exact (line : Text) :
    (∀ separators words, tokens separators line = words ↔ SetOut separators words line) ∧
      (∀ separators, (∀ word ∈ tokens separators line, IsWord separators word) ∧
        (tokens separators line).flatten = line.filter (!separators.contains ·)) ∧
      tokens .blanksAndCommas line = (tokens .blanks line).flatMap commaPieces ∧
      ∀ word, line.firstToken? = some word →
        ((∀ separators, (tokens separators line).head? = some word) ↔ ',' ∉ word) := by
  refine ⟨fun separators words => tokens_eq_iff, ?_, tokens_blanksAndCommas line, ?_⟩
  · intro separators
    exact ⟨fun word => isWord_of_mem_tokens, flatten_tokens separators line⟩
  · intro word hfirst
    exact head?_tokens_iff hfirst

def twoValues : Text := [' ', 'L', 'I', 'S', 'T', '\t', 'X', ',', ' ', ',', 'Y', ',']

theorem tokens_exact_twoValues :
    SetOut .blanksAndCommas [['L', 'I', 'S', 'T'], ['X'], ['Y']] twoValues ∧
      tokens .blanksAndCommas twoValues = [['L', 'I', 'S', 'T'], ['X'], ['Y']] ∧
      twoValues.firstToken? = some ['L', 'I', 'S', 'T'] ∧ ',' ∉ ['L', 'I', 'S', 'T'] ∧
      ∀ separators, (tokens separators twoValues).head? = some ['L', 'I', 'S', 'T'] := by
  obtain ⟨hwords, _, _, hfirst⟩ := tokens_exact twoValues
  have hlast : Spaced .blanksAndCommas [['Y']] (['Y'] ++ ([','] ++ [])) :=
    .cons (isWord_of_all (by decide) (by decide)) (List.all_eq_true.1 (by decide)) (by decide) .nil
  have hvalues : Spaced .blanksAndCommas [['X'], ['Y']]
      (['X'] ++ ([',', ' ', ','] ++ ['Y', ','])) :=
    .cons (isWord_of_all (by decide) (by decide)) (List.all_eq_true.1 (by decide)) (by decide)
      hlast
  have hline : Spaced .blanksAndCommas [['L', 'I', 'S', 'T'], ['X'], ['Y']]
      (['L', 'I', 'S', 'T'] ++ (['\t'] ++ ['X', ',', ' ', ',', 'Y', ','])) :=
    .cons (isWord_of_all (by decide) (by decide)) (List.all_eq_true.1 (by decide)) (by decide)
      hvalues
  have hsetOut : SetOut .blanksAndCommas [['L', 'I', 'S', 'T'], ['X'], ['Y']] twoValues :=
    ⟨[' '], _, rfl, List.all_eq_true.1 (by decide), hline⟩
  exact ⟨hsetOut, (hwords _ _).2 hsetOut, by decide, by decide,
    (hfirst _ (by decide)).2 (by decide)⟩

end ChartScript.Text
