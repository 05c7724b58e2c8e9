import ChartScript.Text.Token
import Mathlib.Data.List.DropRight

/-!
# Tokens and trimmed texts

What cutting and trimming leave behind, and what they do to a text that is cut or trimmed
already: a trimmed text is not trimmed again, and tokens written with single blanks between
them are found again.
-/

namespace ChartScript.Text

/-! ## Trimming -/

theorem isBlank_of_not_white {c : Char} (hc : isWhite c = false) : isBlank c = false := by
  cases hblank : isBlank c with
  | false => rfl
  | true =>
      have hwhite := isWhite_of_isBlank hblank
      rw [hc] at hwhite
      cases hwhite

theorem dropEndWhile_eq_rdropWhile (p : Char → Bool) (text : Text) :
    text.dropEndWhile p = text.rdropWhile p :=
  rfl

theorem dropWhile_eq_self
    {p : Char → Bool} {text : Text} (hhead : ∀ c, text.head? = some c → p c = false) :
    text.dropWhile p = text := by
  cases text with
  | nil => rfl
  | cons c rest =>
      have hc := hhead c rfl
      rw [List.dropWhile_cons_of_neg (by simp [hc])]

theorem not_of_head?_dropWhile
    {p : Char → Bool} {text : Text} {c : Char}
    (hhead : (text.dropWhile p).head? = some c) :
    p c = false := by
  have hnot := List.head?_dropWhile_not p text
  rw [hhead] at hnot
  exact hnot

theorem dropEndWhile_eq_self
    {p : Char → Bool} {text : Text} (hlast : ∀ c, text.getLast? = some c → p c = false) :
    text.dropEndWhile p = text := by
  rw [dropEndWhile_eq_rdropWhile, List.rdropWhile_eq_self_iff]
  intro hne
  have hc := hlast _ (List.getLast?_eq_some_getLast hne)
  simp [hc]

theorem not_of_getLast?_dropEndWhile
    {p : Char → Bool} {text : Text} {c : Char}
    (hlast : (text.dropEndWhile p).getLast? = some c) :
    p c = false := by
  unfold dropEndWhile at hlast
  rw [List.getLast?_reverse] at hlast
  exact not_of_head?_dropWhile hlast

theorem dropEndWhile_append
    {p : Char → Bool} {back : Text} (hback : ∀ c ∈ back, p c = true) (front : Text) :
    (front ++ back).dropEndWhile p = front.dropEndWhile p := by
  unfold dropEndWhile
  rw [List.reverse_append, List.dropWhile_append_of_pos]
  intro c hc
  exact hback c (List.mem_reverse.1 hc)

theorem exists_append_dropEndWhile (p : Char → Bool) (text : Text) :
    ∃ front back, text = front ++ back ∧ (∀ c ∈ back, p c = true) ∧
      ∀ c, front.getLast? = some c → p c = false := by
  refine ⟨text.dropEndWhile p, (text.reverse.takeWhile p).reverse, ?_, ?_, ?_⟩
  · unfold dropEndWhile
    rw [← List.reverse_append, List.takeWhile_append_dropWhile, List.reverse_reverse]
  · intro c hc
    exact List.mem_takeWhile_imp (List.mem_reverse.1 hc)
  · exact fun c hc => not_of_getLast?_dropEndWhile hc

/-- The longest ending of such characters is cut off, and nothing else. -/
theorem dropEndWhile_eq_iff {p : Char → Bool} {text front : Text} :
    text.dropEndWhile p = front ↔
      (∃ back, text = front ++ back ∧ ∀ c ∈ back, p c = true) ∧
        ∀ c, front.getLast? = some c → p c = false := by
  have hcut : ∀ {front back : Text}, (∀ c ∈ back, p c = true) →
      (∀ c, front.getLast? = some c → p c = false) → (front ++ back).dropEndWhile p = front := by
    intro front back hback hlast
    rw [dropEndWhile_append hback, dropEndWhile_eq_self hlast]
  constructor
  · intro hfront
    obtain ⟨other, back, rfl, hback, hlast⟩ := exists_append_dropEndWhile p text
    rw [hcut hback hlast] at hfront
    rw [← hfront]
    exact ⟨⟨back, rfl, hback⟩, hlast⟩
  · rintro ⟨⟨back, rfl, hback⟩, hlast⟩
    exact hcut hback hlast

theorem head?_eq_of_begins
    {front text : Text} (hfront : front <+: text) (hne : front ≠ []) :
    front.head? = text.head? := by
  obtain ⟨back, rfl⟩ := hfront
  rw [List.head?_append]
  cases front with
  | nil => exact absurd rfl hne
  | cons c front => rfl

theorem begins_of_begins_append_cons
    {α : Type} {pattern : List α} {x : α} (hx : x ∉ pattern) (front rest : List α)
    (hbegins : pattern <+: front ++ x :: rest) :
    pattern <+: front := by
  have hfront : front ++ [x] <+: front ++ x :: rest := ⟨rest, by simp⟩
  rcases List.prefix_or_prefix_of_prefix hbegins hfront with hshort | hlong
  · rcases List.prefix_concat_iff.1 hshort with heq | hshort
    · have hmem : x ∈ pattern := by
        rw [heq]
        simp
      exact absurd hmem hx
    · exact hshort
  · have hmem : x ∈ pattern := hlong.subset (by simp)
    exact absurd hmem hx

theorem trimStart_eq_self
    {text : Text} (hhead : ∀ c, text.head? = some c → isWhite c = false) :
    text.trimStart = text :=
  dropWhile_eq_self hhead

theorem trimEnd_eq_self
    {text : Text} (hlast : ∀ c, text.getLast? = some c → isWhite c = false) :
    text.trimEnd = text :=
  dropEndWhile_eq_self hlast

theorem trimStart_cons_blank (rest : Text) :
    Text.trimStart (' ' :: rest) = Text.trimStart rest := by
  unfold trimStart
  rw [List.dropWhile_cons_of_pos (by decide)]

theorem trimStart_cons_of_not_white {c : Char} (hc : isWhite c = false) (rest : Text) :
    Text.trimStart (c :: rest) = c :: rest := by
  unfold trimStart
  rw [List.dropWhile_cons_of_neg (by simp [hc])]

theorem not_white_of_head?_cons {c : Char} (hc : isWhite c = false) (rest : Text) :
    ∀ first, (c :: rest).head? = some first → isWhite first = false := by
  intro first hfirst
  obtain rfl := Option.some.inj hfirst
  exact hc

/-! ## White space -/

def IsSpace (text : Text) : Prop := ∀ c ∈ text, isWhite c = true

instance (text : Text) : Decidable text.IsSpace :=
  decidable_of_iff (text.all isWhite = true) List.all_eq_true

theorem trimStart_append_of_isSpace {front : Text} (hfront : front.IsSpace) (rest : Text) :
    trimStart (front ++ rest) = trimStart rest :=
  List.dropWhile_append_of_pos hfront

theorem IsSpace.trimStart_eq_nil {text : Text} (htext : text.IsSpace) : text.trimStart = [] :=
  List.dropWhile_eq_nil_iff.2 htext

theorem isSpace_of_trimStart_eq_nil {text : Text} (hnil : text.trimStart = []) : text.IsSpace :=
  List.dropWhile_eq_nil_iff.1 hnil

theorem exists_isSpace_append (text : Text) :
    ∃ front, IsSpace front ∧ text = front ++ text.trimStart :=
  ⟨text.takeWhile isWhite, fun _ hc => List.mem_takeWhile_imp hc,
    List.takeWhile_append_dropWhile.symm⟩

/-! ## Words -/

/-- A blank, a tab or nothing comes first. -/
def EndsToken (text : Text) : Prop := ∀ c, text.head? = some c → isBlank c = true

theorem endsToken_nil : EndsToken [] := by
  intro c hc
  cases hc

theorem endsToken_cons {c : Char} (hc : isBlank c = true) (rest : Text) :
    EndsToken (c :: rest) := by
  intro d hd
  obtain rfl := Option.some.inj hd
  exact hc

theorem splitToken_of_endsToken
    {word rest : Text} (hword : ∀ c ∈ word, isBlank c = false) (hrest : EndsToken rest) :
    splitToken (word ++ rest) = (word, rest) := by
  have hnot : ∀ c ∈ word, (!isBlank c) = true := by
    intro c hc
    simp [hword c hc]
  unfold splitToken
  rw [List.takeWhile_append_of_pos hnot, List.dropWhile_append_of_pos hnot]
  cases rest with
  | nil => simp
  | cons c rest =>
      have hblank := hrest c rfl
      simp [hblank]

theorem endsToken_splitToken_snd (text : Text) : EndsToken (splitToken text).2 := by
  intro c hc
  have hnot := not_of_head?_dropWhile hc
  simpa using hnot

theorem isBlank_of_mem_splitToken_fst
    {text : Text} {c : Char} (hmem : c ∈ (splitToken text).1) :
    isBlank c = false := by
  unfold splitToken at hmem
  have hall := List.all_takeWhile (p := (!isBlank ·)) (l := text)
  rw [List.all_eq_true] at hall
  simpa using hall c hmem

theorem splitToken_fst_append_snd (text : Text) :
    (splitToken text).1 ++ (splitToken text).2 = text :=
  List.takeWhile_append_dropWhile

/-- A word holds at least one character and no separator. -/
def IsWord (separators : Separators) (word : Text) : Prop :=
  word ≠ [] ∧ ∀ c ∈ word, separators.contains c = false

theorem isWord_of_all
    {separators : Separators} {word : Text} (hne : word ≠ [])
    (hall : word.all (fun c => !separators.contains c) = true) :
    IsWord separators word := by
  refine ⟨hne, ?_⟩
  intro c hc
  simpa using List.all_eq_true.1 hall c hc

theorem isWord_blanksAndCommas_iff {word : Text} :
    IsWord .blanksAndCommas word ↔ IsWord .blanks word ∧ ',' ∉ word := by
  constructor
  · rintro ⟨hne, hword⟩
    refine ⟨⟨hne, ?_⟩, ?_⟩
    · intro c hc
      exact (Bool.or_eq_false_iff.1 (hword c hc)).1
    · intro hcomma
      exact absurd (hword ',' hcomma) (by decide)
  · rintro ⟨⟨hne, hword⟩, hcomma⟩
    refine ⟨hne, ?_⟩
    intro c hc
    have hother : c ≠ ',' := fun heq => hcomma (heq ▸ hc)
    rw [Separators.contains_blanksAndCommas, hword c hc, Bool.false_or]
    simpa using hother

theorem IsWord.append
    {separators : Separators} {first second : Text}
    (hfirst : IsWord separators first) (hsecond : IsWord separators second) :
    IsWord separators (first ++ second) := by
  refine ⟨List.append_ne_nil_of_left_ne_nil hfirst.1 second, ?_⟩
  intro c hc
  rcases List.mem_append.1 hc with hc | hc
  · exact hfirst.2 c hc
  · exact hsecond.2 c hc

theorem tokens_append_separator
    {separators : Separators} {word : Text} {c : Char}
    (hword : IsWord separators word) (hc : separators.contains c = true) (rest : Text) :
    tokens separators (word ++ c :: rest) = word :: tokens separators rest := by
  unfold tokens
  rw [List.splitOnP_append_cons_of_forall_mem hword.2 c hc]
  rw [List.filter_cons_of_pos (by simpa using hword.1)]

theorem tokens_of_isWord
    {separators : Separators} {word : Text} (hword : IsWord separators word) :
    tokens separators word = [word] := by
  unfold tokens
  rw [List.splitOnP_eq_singleton hword.2]
  simpa using hword.1

/-- A separator is part of no token. -/
theorem tokens_cons_separator
    {separators : Separators} {c : Char} (hc : separators.contains c = true) (rest : Text) :
    tokens separators (c :: rest) = tokens separators rest := by
  unfold tokens
  rw [List.splitOnP_cons_eq_if_modifyHead, if_pos hc, List.filter_cons_of_neg (by simp)]

theorem tokens_append_of_separators
    {separators : Separators} {gap : Text} (hgap : ∀ c ∈ gap, separators.contains c = true)
    (rest : Text) :
    tokens separators (gap ++ rest) = tokens separators rest := by
  induction gap with
  | nil => rfl
  | cons c gap ih =>
      rw [List.cons_append, tokens_cons_separator (hgap c List.mem_cons_self)]
      exact ih fun d hd => hgap d (List.mem_cons_of_mem c hd)

/-- No token reaches over a separator. -/
theorem tokens_append_of_head
    {separators : Separators} (text : Text) {rest : Text}
    (hrest : ∀ c, rest.head? = some c → separators.contains c = true) :
    tokens separators (text ++ rest) = tokens separators text ++ tokens separators rest := by
  cases rest with
  | nil =>
      rw [List.append_nil]
      exact (List.append_nil _).symm
  | cons c rest =>
      have hc := hrest c rfl
      rw [tokens_cons_separator hc]
      unfold tokens
      rw [List.splitOnP_append_cons text rest hc, List.filter_append]

theorem joinTokens_cons_cons (word next : Text) (words : List Text) :
    joinTokens (word :: next :: words) = word ++ ' ' :: joinTokens (next :: words) := by
  unfold joinTokens
  rw [List.intercalate_cons_cons]
  simp

theorem joinTokens_singleton (word : Text) : joinTokens [word] = word := by
  simp [joinTokens]

/-- Words with single blanks between them are found again. -/
theorem tokens_joinTokens
    {separators : Separators} {words : List Text}
    (hwords : ∀ word ∈ words, IsWord separators word) :
    tokens separators (joinTokens words) = words := by
  have hblank : separators.contains ' ' = true := by cases separators <;> decide
  induction words with
  | nil => rfl
  | cons word words ih =>
      have hword := hwords word (by simp)
      have hrest := ih fun other hother => hwords other (by simp [hother])
      cases words with
      | nil =>
          rw [joinTokens_singleton]
          exact tokens_of_isWord hword
      | cons next words =>
          rw [joinTokens_cons_cons, tokens_append_separator hword hblank, hrest]

theorem mem_joinTokens
    {words : List Text} {c : Char} (hc : c ∈ joinTokens words) :
    c = ' ' ∨ ∃ word ∈ words, c ∈ word := by
  induction words with
  | nil => cases hc
  | cons word words ih =>
      cases words with
      | nil =>
          rw [joinTokens_singleton] at hc
          exact .inr ⟨word, List.mem_cons_self, hc⟩
      | cons next words =>
          rw [joinTokens_cons_cons] at hc
          rcases List.mem_append.1 hc with hc | hc
          · exact .inr ⟨word, List.mem_cons_self, hc⟩
          · rcases List.mem_cons.1 hc with rfl | hc
            · exact .inl rfl
            · rcases ih hc with hblank | ⟨other, hother, hc⟩
              · exact .inl hblank
              · exact .inr ⟨other, List.mem_cons_of_mem word hother, hc⟩

theorem exists_getLast?_joinTokens
    {words : List Text} (hwords : ∀ word ∈ words, word ≠ []) {c : Char}
    (hlast : (joinTokens words).getLast? = some c) :
    ∃ word ∈ words, word.getLast? = some c := by
  induction words with
  | nil => cases hlast
  | cons word words ih =>
      cases words with
      | nil =>
          rw [joinTokens_singleton] at hlast
          exact ⟨word, List.mem_cons_self, hlast⟩
      | cons next words =>
          have hnext : joinTokens (next :: words) ≠ [] := by
            have hword := hwords next (by simp)
            cases words with
            | nil => simpa [joinTokens_singleton] using hword
            | cons => simp [joinTokens_cons_cons]
          have hback : (joinTokens (next :: words)).getLast? = some c := by
            rw [joinTokens_cons_cons, List.getLast?_append_of_ne_nil _ (List.cons_ne_nil _ _),
              List.getLast?_cons_of_ne_nil hnext] at hlast
            exact hlast
          obtain ⟨other, hother, hc⟩ := ih (fun other hother => hwords other (by simp [hother]))
            hback
          exact ⟨other, List.mem_cons_of_mem word hother, hc⟩

theorem mem_of_mem_splitOnP
    {p : Char → Bool} {text piece : Text} {c : Char}
    (hpiece : piece ∈ text.splitOnP p) (hc : c ∈ piece) :
    c ∈ text ∧ p c = false := by
  induction text generalizing piece with
  | nil =>
      rw [List.splitOnP_nil, List.mem_singleton] at hpiece
      rw [hpiece] at hc
      cases hc
  | cons first rest ih =>
      rw [List.splitOnP_cons_eq_if_modifyHead] at hpiece
      by_cases hfirst : p first = true
      · rw [if_pos hfirst] at hpiece
        rcases List.mem_cons.1 hpiece with rfl | hpiece
        · cases hc
        · exact ⟨List.mem_cons_of_mem first (ih hpiece hc).1, (ih hpiece hc).2⟩
      · rw [if_neg hfirst] at hpiece
        cases hsplit : rest.splitOnP p with
        | nil => exact absurd hsplit (List.splitOnP_ne_nil p rest)
        | cons head tail =>
            rw [hsplit, List.modifyHead_cons] at hpiece
            rw [hsplit] at ih
            rcases List.mem_cons.1 hpiece with rfl | hpiece
            · rcases List.mem_cons.1 hc with rfl | hc
              · exact ⟨by simp, by simpa using hfirst⟩
              · have hhead := ih (by simp : head ∈ head :: tail) hc
                exact ⟨List.mem_cons_of_mem first hhead.1, hhead.2⟩
            · have htail := ih (List.mem_cons_of_mem head hpiece) hc
              exact ⟨List.mem_cons_of_mem first htail.1, htail.2⟩

/-- The pieces of a split stand in the text, the first one at its beginning. -/
theorem begins_of_splitOnP_eq_cons
    {p : Char → Bool} {text first : Text} {pieces : List Text}
    (hsplit : text.splitOnP p = first :: pieces) :
    first <+: text ∧ ∀ piece ∈ pieces, piece <:+: text := by
  induction text generalizing first pieces with
  | nil =>
      rw [List.splitOnP_nil] at hsplit
      obtain ⟨rfl, rfl⟩ := List.cons.inj hsplit
      simp
  | cons c rest ih =>
      have hinside := List.suffix_cons c rest
      rw [List.splitOnP_cons_eq_if_modifyHead] at hsplit
      cases hrest : rest.splitOnP p with
      | nil => exact absurd hrest (List.splitOnP_ne_nil p rest)
      | cons head tail =>
          obtain ⟨hhead, htail⟩ := ih hrest
          have hlater : ∀ piece ∈ tail, piece <:+: c :: rest := fun piece hpiece =>
            (htail piece hpiece).trans hinside.isInfix
          rw [hrest] at hsplit
          by_cases hc : p c = true
          · rw [if_pos hc] at hsplit
            obtain ⟨rfl, rfl⟩ := List.cons.inj hsplit
            refine ⟨List.nil_prefix, ?_⟩
            intro piece hpiece
            rcases List.mem_cons.1 hpiece with rfl | hpiece
            · exact hhead.isInfix.trans hinside.isInfix
            · exact hlater piece hpiece
          · rw [if_neg hc, List.modifyHead_cons] at hsplit
            obtain ⟨rfl, rfl⟩ := List.cons.inj hsplit
            exact ⟨List.cons_prefix_cons.2 ⟨rfl, hhead⟩, hlater⟩

theorem infix_of_mem_tokens
    {separators : Separators} {line word : Text} (hmem : word ∈ tokens separators line) :
    word <:+: line := by
  have hpiece := (List.mem_filter.1 hmem).1
  cases hsplit : line.splitOnP separators.contains with
  | nil => exact absurd hsplit (List.splitOnP_ne_nil _ line)
  | cons first pieces =>
      obtain ⟨hfirst, hpieces⟩ := begins_of_splitOnP_eq_cons hsplit
      rw [hsplit] at hpiece
      rcases List.mem_cons.1 hpiece with rfl | hpiece
      · exact hfirst.isInfix
      · exact hpieces word hpiece

theorem isWord_of_mem_tokens
    {separators : Separators} {line word : Text} (hmem : word ∈ tokens separators line) :
    IsWord separators word := by
  obtain ⟨hpiece, hne⟩ := List.mem_filter.1 hmem
  refine ⟨by simpa using hne, ?_⟩
  intro c hc
  exact (mem_of_mem_splitOnP hpiece hc).2

theorem mem_of_mem_tokens
    {separators : Separators} {line word : Text} {c : Char}
    (hmem : word ∈ tokens separators line) (hc : c ∈ word) :
    c ∈ line :=
  (mem_of_mem_splitOnP (List.mem_filter.1 hmem).1 hc).1

/-! ## Cutting a line at its separators -/

section

variable {separators : Separators}

theorem exists_up_to_separator (separators : Separators) (text : Text) :
    ∃ front rest, text = front ++ rest ∧ (∀ c ∈ front, separators.contains c = false) ∧
      ∀ c, rest.head? = some c → separators.contains c = true := by
  refine ⟨text.takeWhile (!separators.contains ·), text.dropWhile (!separators.contains ·),
    List.takeWhile_append_dropWhile.symm, ?_, ?_⟩
  · exact fun c hc => by simpa using List.mem_takeWhile_imp hc
  · exact fun c hc => by simpa using not_of_head?_dropWhile hc

/-- A line holds no token, or it is cut at its first one. -/
theorem separates_or_exists_word (separators : Separators) (line : Text) :
    (∀ c ∈ line, separators.contains c = true) ∨
      ∃ margin word rest, line = margin ++ (word ++ rest) ∧
        (∀ c ∈ margin, separators.contains c = true) ∧ IsWord separators word ∧
          ∀ c, rest.head? = some c → separators.contains c = true := by
  have hline := List.takeWhile_append_dropWhile (p := separators.contains) (l := line)
  cases hdrop : line.dropWhile separators.contains with
  | nil => exact .inl (List.dropWhile_eq_nil_iff.1 hdrop)
  | cons c back =>
      have hc : separators.contains c = false := not_of_head?_dropWhile (by rw [hdrop]; rfl)
      obtain ⟨word, rest, hback, hword, hrest⟩ := exists_up_to_separator separators (c :: back)
      rw [hdrop, hback] at hline
      refine .inr ⟨_, word, rest, hline.symm, fun d hd => List.mem_takeWhile_imp hd, ⟨?_, hword⟩,
        hrest⟩
      rintro rfl
      rw [hrest c (by rw [← List.nil_append rest, ← hback]; rfl)] at hc
      cases hc

theorem tokens_append_word
    {margin word rest : Text} (hmargin : ∀ c ∈ margin, separators.contains c = true)
    (hword : IsWord separators word)
    (hrest : ∀ c, rest.head? = some c → separators.contains c = true) :
    tokens separators (margin ++ (word ++ rest)) = word :: tokens separators rest := by
  rw [tokens_append_of_separators hmargin, tokens_append_of_head word hrest,
    tokens_of_isWord hword, List.singleton_append]

/-- The first token of a text that begins with a word begins with it as well. -/
theorem exists_tokens_append {word : Text} (hword : IsWord separators word) (rest : Text) :
    ∃ back more, tokens separators (word ++ rest) = (word ++ back) :: more := by
  obtain ⟨back, after, rfl, hback, hafter⟩ := exists_up_to_separator separators rest
  have hlong : IsWord separators (word ++ back) := by
    refine ⟨List.append_ne_nil_of_left_ne_nil hword.1 back, fun c hc => ?_⟩
    exact (List.mem_append.1 hc).elim (hword.2 c) (hback c)
  refine ⟨back, tokens separators after, ?_⟩
  rw [← List.append_assoc, tokens_append_of_head _ hafter, tokens_of_isWord hlong,
    List.singleton_append]

theorem tokens_eq_nil_iff {line : Text} :
    tokens separators line = [] ↔ ∀ c ∈ line, separators.contains c = true := by
  constructor
  · intro hnone
    rcases separates_or_exists_word separators line with hline | hline
    · exact hline
    · obtain ⟨margin, word, rest, rfl, hmargin, hword, hrest⟩ := hline
      rw [tokens_append_word hmargin hword hrest] at hnone
      cases hnone
  · intro hline
    rw [← List.append_nil line, tokens_append_of_separators hline]
    rfl

theorem exists_margin_of_tokens
    {line word : Text} {words : List Text} (htokens : tokens separators line = word :: words) :
    ∃ margin rest, line = margin ++ (word ++ rest) ∧
      (∀ c ∈ margin, separators.contains c = true) ∧ IsWord separators word ∧
        (∀ c, rest.head? = some c → separators.contains c = true) ∧
          tokens separators rest = words := by
  rcases separates_or_exists_word separators line with hline | hline
  · rw [tokens_eq_nil_iff.2 hline] at htokens
    cases htokens
  · obtain ⟨margin, first, rest, rfl, hmargin, hfirst, hrest⟩ := hline
    rw [tokens_append_word hmargin hfirst hrest] at htokens
    obtain ⟨rfl, rfl⟩ := List.cons.inj htokens
    exact ⟨margin, rest, rfl, hmargin, hfirst, hrest, rfl⟩

end

end ChartScript.Text
