import ChartScript.Proofs.Substitution

/-!
# Runs of blanks

Writing the tokens of a line with single blanks between them drops the blanks and tabs at both
ends and makes one blank of every other run.  Making one blank of a run goes together with
trimming, with splitting off a token, and with cutting a text at a character, so a reader that
works by these does the same before and after.
-/

namespace ChartScript.Text

/-- The text with one blank in the place of every run of blanks and tabs, and with `last` in the
place of a run at its end. -/
def collapse (last : Text) : Text → Text
  | [] => []
  | c :: rest =>
    if isBlank c then
      match rest with
      | [] => last
      | d :: _ => if isBlank d then collapse last rest else ' ' :: collapse last rest
    else c :: collapse last rest

/-- The tokens of the text with single blanks between them. -/
def squeeze (text : Text) : Text := joinTokens (tokens .blanks text)

variable (last : Text)

@[simp] theorem collapse_nil : collapse last [] = [] := rfl

variable {last}

theorem collapse_cons {c : Char} (hc : isBlank c = false) (rest : Text) :
    collapse last (c :: rest) = c :: collapse last rest := by
  rw [collapse.eq_def]
  simp only [hc, Bool.false_eq_true, if_false]

theorem collapse_blank {c : Char} (hc : isBlank c = true) : collapse last [c] = last := by
  rw [collapse, if_pos hc]

theorem collapse_blank_blank
    {c d : Char} (hc : isBlank c = true) (hd : isBlank d = true) (rest : Text) :
    collapse last (c :: d :: rest) = collapse last (d :: rest) := by
  rw [collapse, if_pos hc]
  simp only [if_pos hd]

theorem collapse_blank_cons
    {c d : Char} (hc : isBlank c = true) (hd : isBlank d = false) (rest : Text) :
    collapse last (c :: d :: rest) = ' ' :: collapse last (d :: rest) := by
  rw [collapse, if_pos hc]
  simp only [hd, Bool.false_eq_true, if_false]

theorem collapse_blank_eq_nil_iff {text : Text} : collapse [' '] text = [] ↔ text = [] := by
  fun_induction collapse [' '] text with
  | case1 => simp
  | case2 => simp
  | case3 c hc d rest hd ih => simpa using ih
  | case4 => simp
  | case5 => simp

theorem collapse_append
    {front : Text} (hfront : ∀ c ∈ front, isBlank c = false) (rest : Text) :
    collapse last (front ++ rest) = front ++ collapse last rest := by
  induction front with
  | nil => rfl
  | cons c front ih =>
      have hc := hfront c List.mem_cons_self
      have hrest := ih fun d hd => hfront d (List.mem_cons_of_mem c hd)
      rw [List.cons_append, collapse_cons hc, hrest, List.cons_append]

theorem collapse_eq_self
    {text : Text} (htext : ∀ c ∈ text, isBlank c = false) (last : Text) :
    collapse last text = text := by
  have happend : collapse last (text ++ []) = text ++ [] := collapse_append htext []
  rwa [List.append_nil] at happend

/-- A character that is no blank parts the text; a run in front of it is not at the end. -/
theorem collapse_append_cons {c : Char} (hc : isBlank c = false) (front rest : Text) :
    collapse last (front ++ c :: rest) = collapse [' '] front ++ c :: collapse last rest := by
  fun_induction collapse [' '] front with
  | case1 => exact collapse_cons hc rest
  | case2 d hd =>
      rw [List.singleton_append, collapse_blank_cons hd hc, collapse_cons hc]
      rfl
  | case3 d hd e back he ih =>
      rw [← ih, List.cons_append, List.cons_append, collapse_blank_blank hd he]
  | case4 d hd e back he ih =>
      rw [List.cons_append, List.cons_append, collapse_blank_cons hd (by simpa using he),
        ← List.cons_append, ih]
      rfl
  | case5 d front hd ih =>
      rw [List.cons_append, collapse_cons (by simpa using hd), ih, List.cons_append]

theorem endsToken_of_collapse {text : Text} (htext : EndsToken (collapse last text)) :
    EndsToken text := by
  cases text with
  | nil => exact endsToken_nil
  | cons c rest =>
      cases hc : isBlank c with
      | true => exact endsToken_cons hc rest
      | false =>
          rw [collapse_cons hc] at htext
          have hblank := htext c rfl
          rw [hc] at hblank
          cases hblank

/-- The end counts only if it is a blank. -/
theorem collapse_of_last
    {text : Text} (hend : ∀ c, text.getLast? = some c → isBlank c = false) (other : Text) :
    collapse last text = collapse other text := by
  rcases List.eq_nil_or_concat text with rfl | ⟨front, c, rfl⟩
  · rfl
  · have hc := hend c (by simp)
    rw [List.concat_eq_append, collapse_append_cons hc, collapse_append_cons hc]
    rfl

/-! ## Cutting a text at a character -/

section

variable (hlast : ∀ c ∈ last, isBlank c = true)

include hlast

theorem mem_collapse {text : Text} {c : Char} (hc : c ∈ collapse last text) :
    isBlank c = true ∨ c ∈ text := by
  fun_induction collapse last text with
  | case1 => cases hc
  | case2 d hd => exact .inl (hlast c hc)
  | case3 d hd e back he ih => exact (ih hc).imp_right (List.mem_cons_of_mem d)
  | case4 d hd e back he ih =>
      rcases List.mem_cons.1 hc with rfl | hc
      · exact .inl (by decide)
      · exact (ih hc).imp_right (List.mem_cons_of_mem d)
  | case5 d rest hd ih =>
      rcases List.mem_cons.1 hc with rfl | hc
      · exact .inr List.mem_cons_self
      · exact (ih hc).imp_right (List.mem_cons_of_mem d)

theorem mem_collapse_iff {c : Char} (hc : isBlank c = false) (text : Text) :
    c ∈ collapse last text ↔ c ∈ text := by
  constructor
  · intro hmem
    rcases mem_collapse hlast hmem with hblank | hmem
    · rw [hc] at hblank
      cases hblank
    · exact hmem
  · intro hmem
    obtain ⟨front, back, rfl⟩ := List.append_of_mem hmem
    rw [collapse_append_cons hc]
    exact List.mem_append_right _ List.mem_cons_self

theorem dropWhile_collapse
    {p : Char → Bool} (hp : ∀ c, isBlank c = true → p c = p ' ') (text : Text) :
    (collapse last text).dropWhile p = collapse last (text.dropWhile p) := by
  fun_induction collapse last text with
  | case1 => rfl
  | case2 c hc =>
      cases hblank : p ' ' with
      | true =>
          have hall : ∀ d ∈ last, p d = true := fun d hd => (hp d (hlast d hd)).trans hblank
          rw [List.dropWhile_eq_nil_iff.2 hall, List.dropWhile_cons_of_pos ((hp c hc).trans hblank)]
          rfl
      | false =>
          have hfirst : ∀ d, last.head? = some d → p d = false := fun d hd =>
            (hp d (hlast d (List.mem_of_head? hd))).trans hblank
          rw [dropWhile_eq_self hfirst,
            List.dropWhile_cons_of_neg (by simp [hp c hc, hblank]), collapse_blank hc]
  | case3 c hc d back hd ih =>
      rw [ih]
      cases hblank : p ' ' with
      | true => rw [List.dropWhile_cons_of_pos (l := d :: back) ((hp c hc).trans hblank)]
      | false =>
          rw [List.dropWhile_cons_of_neg (by simp [hp d hd, hblank]),
            List.dropWhile_cons_of_neg (by simp [hp c hc, hblank]), collapse_blank_blank hc hd]
  | case4 c hc d back hd ih =>
      cases hblank : p ' ' with
      | true =>
          rw [List.dropWhile_cons_of_pos hblank, ih,
            List.dropWhile_cons_of_pos (l := d :: back) ((hp c hc).trans hblank)]
      | false =>
          rw [List.dropWhile_cons_of_neg (by simp [hblank]),
            List.dropWhile_cons_of_neg (by simp [hp c hc, hblank]),
            collapse_blank_cons hc (by simpa using hd)]
  | case5 c rest hc ih =>
      by_cases hpc : p c = true
      · rw [List.dropWhile_cons_of_pos hpc, List.dropWhile_cons_of_pos hpc, ih]
      · rw [List.dropWhile_cons_of_neg hpc, List.dropWhile_cons_of_neg hpc,
          collapse_cons (by simpa using hc)]

theorem takeWhile_collapse
    {p : Char → Bool} (hp : ∀ c, isBlank c = true → p c = false) (text : Text) :
    (collapse last text).takeWhile p = text.takeWhile p := by
  have hnone : ∀ c, isBlank c = true → ∀ rest, (c :: rest).takeWhile p = [] := by
    intro c hc rest
    rw [List.takeWhile_cons_of_neg (by simp [hp c hc])]
  fun_induction collapse last text with
  | case1 => rfl
  | case2 c hc =>
      rw [hnone c hc]
      cases last with
      | nil => rfl
      | cons d rest => exact hnone d (hlast d List.mem_cons_self) rest
  | case3 c hc d rest hd ih => rw [ih, hnone c hc, hnone d hd]
  | case4 c hc d rest hd ih => rw [hnone c hc, hnone ' ' (by decide)]
  | case5 c rest hc ih =>
      by_cases hpc : p c = true
      · rw [List.takeWhile_cons_of_pos hpc, List.takeWhile_cons_of_pos hpc, ih]
      · rw [List.takeWhile_cons_of_neg hpc, List.takeWhile_cons_of_neg hpc]

/-- The first token stays as it is. -/
theorem splitToken_collapse (text : Text) :
    splitToken (collapse last text) = ((splitToken text).1, collapse last (splitToken text).2) := by
  have htake : (collapse last text).takeWhile (!isBlank ·) = text.takeWhile (!isBlank ·) := by
    apply takeWhile_collapse hlast
    intro c hc
    rw [hc]
    rfl
  have hdrop : (collapse last text).dropWhile (!isBlank ·) =
      collapse last (text.dropWhile (!isBlank ·)) := by
    apply dropWhile_collapse hlast
    intro c hc
    rw [hc]
    rfl
  unfold splitToken
  rw [htake, hdrop]

theorem endsToken_collapse {text : Text} (htext : EndsToken text) :
    EndsToken (collapse last text) := by
  have hsplit : (splitToken (collapse last text)).2 = collapse last (splitToken text).2 :=
    congrArg Prod.snd (splitToken_collapse hlast text)
  have hwhole : (splitToken text).2 = text := dropWhile_eq_self fun c hc => by
    simp [htext c hc]
  rw [hwhole] at hsplit
  rw [← hsplit]
  exact endsToken_splitToken_snd (collapse last text)

/-- A front without blanks shows in the text before and after. -/
theorem collapse_eq_append_iff
    {front : Text} (hfront : ∀ c ∈ front, isBlank c = false) {text rest : Text} :
    collapse last text = front ++ rest ↔
      ∃ after, text = front ++ after ∧ collapse last after = rest := by
  constructor
  · intro heq
    induction front generalizing text with
    | nil => exact ⟨text, rfl, heq⟩
    | cons c front ih =>
        have hc := hfront c List.mem_cons_self
        cases text with
        | nil => cases heq
        | cons d text =>
            cases hd : isBlank d with
            | true =>
                have hends := endsToken_collapse hlast (endsToken_cons hd text)
                have hblank := hends c (by rw [heq]; rfl)
                rw [hc] at hblank
                cases hblank
            | false =>
                rw [collapse_cons hd, List.cons_append] at heq
                obtain ⟨rfl, hrest⟩ := List.cons.inj heq
                obtain ⟨after, rfl, hafter⟩ :=
                  ih (fun e he => hfront e (List.mem_cons_of_mem d he)) hrest
                exact ⟨after, rfl, hafter⟩
  · rintro ⟨after, rfl, rfl⟩
    exact collapse_append hfront after

theorem collapse_eq_cons_iff {c : Char} (hc : isBlank c = false) {text rest : Text} :
    collapse last text = c :: rest ↔ ∃ after, text = c :: after ∧ collapse last after = rest := by
  have hfront : ∀ d ∈ [c], isBlank d = false := by simpa using hc
  exact collapse_eq_append_iff hlast hfront

theorem trimStart_collapse (text : Text) :
    trimStart (collapse last text) = collapse last (trimStart text) := by
  apply dropWhile_collapse hlast
  intro c hc
  rw [isWhite_of_isBlank hc]
  rfl

/-- What is dropped satisfies `p`, and in front of it stands a character that does not and so
is no blank. -/
theorem dropEndWhile_collapse
    {p : Char → Bool} (hp : ∀ c, isBlank c = true → p c = true) (text : Text) :
    (collapse last text).dropEndWhile p = collapse last (text.dropEndWhile p) := by
  obtain ⟨front, back, rfl, hback, hfront⟩ := exists_append_dropEndWhile p text
  rw [dropEndWhile_append hback front, dropEndWhile_eq_self hfront]
  rcases List.eq_nil_or_concat front with rfl | ⟨front, c, rfl⟩
  · have hall : ∀ c ∈ collapse last back, p c = true := by
      intro c hc
      exact (mem_collapse hlast hc).elim (hp c) (hback c)
    exact dropEndWhile_append hall []
  · have hc := hfront c (by simp)
    have hnot : isBlank c = false := by
      cases hblank : isBlank c with
      | false => rfl
      | true => exact (hc.symm.trans (hp c hblank)).symm
    have hall : ∀ d ∈ collapse last back, p d = true := by
      intro d hd
      exact (mem_collapse hlast hd).elim (hp d) (hback d)
    have hparted : collapse last (front ++ [c] ++ back) =
        (collapse [' '] front ++ [c]) ++ collapse last back := by
      rw [List.append_assoc, List.singleton_append, collapse_append_cons hnot, List.append_assoc,
        List.singleton_append]
    rw [List.concat_eq_append, hparted, dropEndWhile_append hall, collapse_append_cons hnot]
    apply dropEndWhile_eq_self
    intro d hd
    obtain rfl : c = d := by simpa using hd
    exact hc

theorem trimEnd_collapse (text : Text) :
    trimEnd (collapse last text) = collapse last (trimEnd text) :=
  dropEndWhile_collapse hlast (fun _ hc => isWhite_of_isBlank hc) text

end

/-! ## Cutting with the run at the end kept -/

theorem isBlank_of_mem_blank : ∀ c ∈ [' '], isBlank c = true := List.forall_mem_singleton.2 rfl

theorem not_mem_collapse
    {x : Char} (hx : isBlank x = false) {text : Text} (htext : x ∉ text) :
    x ∉ collapse [' '] text :=
  mt (mem_collapse_iff isBlank_of_mem_blank hx text).1 htext

/-! ## Tokens with single blanks between them -/

theorem collapse_cons_blank {c : Char} (hc : isBlank c = true) (rest : Text) :
    collapse last (c :: rest) =
      if rest.dropWhile isBlank = [] then last
      else ' ' :: collapse last (rest.dropWhile isBlank) := by
  induction rest generalizing c with
  | nil => exact collapse_blank hc
  | cons d rest ih =>
      cases hd : isBlank d with
      | true => rw [collapse_blank_blank hc hd, ih hd, List.dropWhile_cons_of_pos hd]
      | false =>
          rw [collapse_blank_cons hc hd, List.dropWhile_cons_of_neg (by simp [hd]),
            if_neg (List.cons_ne_nil d rest)]

theorem tokens_squeeze (text : Text) : tokens .blanks (squeeze text) = tokens .blanks text :=
  tokens_joinTokens fun _ hword => isWord_of_mem_tokens hword

theorem squeeze_eq_collapse (text : Text) :
    squeeze text = collapse [] (text.dropWhile isBlank) := by
  have hword : ∀ word, IsWord .blanks word → ∀ rest,
      collapse [] ((word ++ rest).dropWhile isBlank) = word ++ collapse [] rest := by
    intro word hword rest
    rw [dropWhile_eq_self, collapse_append hword.2]
    intro c hc
    rw [← head?_eq_of_begins (List.prefix_append word rest) hword.1] at hc
    exact hword.2 c (List.mem_of_head? hc)
  unfold squeeze
  induction text using tokens_induction with
  | nil => rfl
  | blank c rest hc ih => rw [tokens_cons_blank hc, List.dropWhile_cons_of_pos hc, ih]
  | last word hlast =>
      have hend := hword word hlast []
      rw [List.append_nil, collapse_nil, List.append_nil] at hend
      rw [tokens_of_isWord hlast, joinTokens_singleton, hend]
  | word word c rest hfirst hc ih =>
      rw [tokens_append_separator hfirst hc, hword word hfirst, collapse_cons_blank hc, ← ih]
      cases hrest : rest.dropWhile isBlank with
      | nil =>
          have hnone : tokens .blanks rest = [] := by
            rw [← tokens_dropWhile_isBlank, hrest]
            rfl
          rw [if_pos rfl, hnone, joinTokens_singleton, List.append_nil]
      | cons d after =>
          have hd := not_of_head?_dropWhile (congrArg List.head? hrest)
          rw [hrest, collapse_cons hd] at ih
          rw [if_neg (List.cons_ne_nil d after)]
          cases htokens : tokens .blanks rest with
          | nil =>
              rw [htokens] at ih
              cases ih
          | cons next words => exact joinTokens_cons_cons word next words

/-- Where no blank stands at the ends, the runs between the tokens are all there is. -/
theorem squeeze_eq_collapse_of_ends
    {text : Text} (hhead : ∀ c, text.head? = some c → isBlank c = false)
    (hlast : ∀ c, text.getLast? = some c → isBlank c = false) :
    squeeze text = collapse [' '] text := by
  rw [squeeze_eq_collapse, dropWhile_eq_self hhead, collapse_of_last hlast]

end ChartScript.Text
