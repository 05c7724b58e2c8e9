import ChartScript.Expression
import ChartScript.Proofs.WrittenNames

/-!
# The shape of expressions

A text is taken apart at its sigils in one way only.  This file describes the parts that can
result, proves that taking apart and putting together are inverse on them, and follows the
shape through the binding of references: a bound expression is taken apart into its bound
references again, provided that no reference holds a brace which would close it too early.
Binding it once more, to whatever dataset, then changes nothing.
-/

namespace ChartScript

namespace Text

theorem bne_of_not_mem {x : Char} {text : Text} (hx : x ∉ text) : ∀ c ∈ text, (c != x) = true := by
  intro c hc
  have hne : c ≠ x := fun heq => hx (heq ▸ hc)
  simpa using hne

theorem takeWhile_bne_append {x : Char} {front : Text} (hx : x ∉ front) (back : Text) :
    (front ++ x :: back).takeWhile (· != x) = front := by
  rw [List.takeWhile_append_of_pos (bne_of_not_mem hx)]
  simp

theorem dropWhile_bne_append {x : Char} {front : Text} (hx : x ∉ front) (back : Text) :
    (front ++ x :: back).dropWhile (· != x) = x :: back := by
  rw [List.dropWhile_append_of_pos (bne_of_not_mem hx)]
  simp

theorem not_mem_takeWhile_bne (x : Char) (text : Text) : x ∉ text.takeWhile (· != x) := by
  intro hx
  have hne := List.mem_takeWhile_imp hx
  simp at hne

end Text

namespace Expression

/-- The parts and the rest that a text is taken apart into. -/
inductive Decomposed : List (Text × Reference) → Text → Prop
  | rest {rest : Text} (hrest : '$' ∉ rest) : Decomposed [] rest
  | braced {before body rest : Text} {parts : List (Text × Reference)}
      (hbefore : '$' ∉ before) (hbody : body ≠ []) (hclose : '}' ∉ body)
      (hparts : Decomposed parts rest) : Decomposed ((before, ⟨body, true⟩) :: parts) rest
  | bare {before body rest : Text} {parts : List (Text × Reference)}
      (hbefore : '$' ∉ before) (hbody : body ≠ []) (hopen : body.head? ≠ some '{')
      (hblank : ∀ c ∈ body, Text.isBlank c = false)
      (hends : Text.EndsToken (Expression.text ⟨parts, rest⟩))
      (hparts : Decomposed parts rest) : Decomposed ((before, ⟨body, false⟩) :: parts) rest

theorem text_cons
    (before : Text) (reference : Reference) (parts : List (Text × Reference)) (rest : Text) :
    Expression.text ⟨(before, reference) :: parts, rest⟩ =
      before ++ reference.text ++ Expression.text ⟨parts, rest⟩ := by
  simp [Expression.text]

/-! ## Taking apart what was put together -/

theorem parse_go_of_not_mem
    {text : Text} (htext : '$' ∉ text) (done : List (Text × Reference)) (passed : Nat) :
    parse.go done passed text = .ok ⟨done.reverse, text⟩ := by
  have hdrop := List.dropWhile_eq_nil_iff.2 (Text.bne_of_not_mem htext)
  have htake := List.takeWhile_eq_self_iff.2 (Text.bne_of_not_mem htext)
  unfold parse.go
  simp only
  split
  · rw [htake]
  · next heq => simp [hdrop] at heq
  · next heq => simp [hdrop] at heq

theorem parse_go_braced
    {before body : Text} (hbefore : '$' ∉ before) (hbody : body ≠ []) (hclose : '}' ∉ body)
    (rest : Text) (done : List (Text × Reference)) (passed : Nat) :
    parse.go done passed (before ++ Reference.text ⟨body, true⟩ ++ rest) =
      parse.go ((before, ⟨body, true⟩) :: done)
        (passed + before.length + 1 + body.length + 2) rest := by
  have htext : before ++ Reference.text ⟨body, true⟩ ++ rest =
      before ++ '$' :: '{' :: (body ++ '}' :: rest) := by
    simp [Reference.text]
  rw [htext]
  have hdrop := Text.dropWhile_bne_append hbefore ('{' :: (body ++ '}' :: rest))
  have htake := Text.takeWhile_bne_append hbefore ('{' :: (body ++ '}' :: rest))
  conv => lhs; unfold parse.go
  simp only [htake]
  split
  · next heq => simp [hdrop] at heq
  · next c inside heq =>
      rw [hdrop] at heq
      obtain ⟨rfl, rfl⟩ := by simpa using heq
      have hinside := Text.dropWhile_bne_append hclose rest
      simp only [Text.takeWhile_bne_append hclose rest]
      split
      · next heq => simp [hinside] at heq
      · next c after heq =>
          rw [hinside] at heq
          obtain ⟨rfl, rfl⟩ := by simpa using heq
          rw [if_neg (by simpa using hbody)]
  · next c inside hno heq =>
      rw [hdrop] at heq
      obtain ⟨rfl, rfl⟩ := by simpa using heq
      exact absurd rfl (hno _)

theorem parse_go_bare
    {before body rest : Text} (hbefore : '$' ∉ before) (hbody : body ≠ [])
    (hopen : body.head? ≠ some '{') (hblank : ∀ c ∈ body, Text.isBlank c = false)
    (hends : Text.EndsToken rest) (done : List (Text × Reference)) (passed : Nat) :
    parse.go done passed (before ++ Reference.text ⟨body, false⟩ ++ rest) =
      parse.go ((before, ⟨body, false⟩) :: done) (passed + before.length + 1 + body.length)
        rest := by
  have htext : before ++ Reference.text ⟨body, false⟩ ++ rest =
      before ++ '$' :: (body ++ rest) := by
    simp [Reference.text]
  rw [htext]
  have hdrop := Text.dropWhile_bne_append hbefore (body ++ rest)
  have htake := Text.takeWhile_bne_append hbefore (body ++ rest)
  have hsplit := Text.splitToken_of_endsToken hblank hends
  simp only [Text.splitToken, Prod.mk.injEq] at hsplit
  conv => lhs; unfold parse.go
  simp only [htake]
  split
  · next heq => simp [hdrop] at heq
  · next c inside heq =>
      rw [hdrop] at heq
      have hhead : (body ++ rest).head? = some '{' := by
        rw [(List.cons.inj heq).2]
        rfl
      cases body with
      | nil => exact absurd rfl hbody
      | cons first body => exact absurd hhead hopen
  · next c inside hno heq =>
      rw [hdrop] at heq
      obtain ⟨rfl, rfl⟩ := by simpa using heq
      rw [hsplit.1, hsplit.2, if_neg (by simpa using hbody)]

theorem parse_go_open
    {before inside : Text} (hbefore : '$' ∉ before) (hclose : '}' ∉ inside)
    (done : List (Text × Reference)) (passed : Nat) :
    parse.go done passed (before ++ '$' :: '{' :: inside) =
      .error ⟨some (passed + before.length + 1 + 1), .openReference⟩ := by
  have hdrop := Text.dropWhile_bne_append hbefore ('{' :: inside)
  have htake := Text.takeWhile_bne_append hbefore ('{' :: inside)
  have hinside := List.dropWhile_eq_nil_iff.2 (Text.bne_of_not_mem hclose)
  unfold parse.go
  simp only [htake]
  split
  · next heq => simp [hdrop] at heq
  · next c found heq =>
      rw [hdrop] at heq
      obtain ⟨rfl, rfl⟩ := by simpa using heq
      split
      · rfl
      · next heq => simp [hinside] at heq
  · next c found hno heq =>
      rw [hdrop] at heq
      obtain ⟨rfl, rfl⟩ := by simpa using heq
      exact absurd rfl (hno _)

theorem parse_go_empty_braced
    {before : Text} (hbefore : '$' ∉ before) (rest : Text)
    (done : List (Text × Reference)) (passed : Nat) :
    parse.go done passed (before ++ '$' :: '{' :: '}' :: rest) =
      .error ⟨some (passed + before.length + 1), .emptyReference⟩ := by
  have hdrop := Text.dropWhile_bne_append hbefore ('{' :: '}' :: rest)
  have htake := Text.takeWhile_bne_append hbefore ('{' :: '}' :: rest)
  unfold parse.go
  simp only [htake]
  split
  · next heq => simp [hdrop] at heq
  · next c found heq =>
      rw [hdrop] at heq
      obtain ⟨rfl, rfl⟩ := by simpa using heq
      split
      · next heq => simp at heq
      · rfl
  · next c found hno heq =>
      rw [hdrop] at heq
      obtain ⟨rfl, rfl⟩ := by simpa using heq
      exact absurd rfl (hno _)

theorem parse_go_empty_bare
    {before rest : Text} (hbefore : '$' ∉ before) (hends : Text.EndsToken rest)
    (done : List (Text × Reference)) (passed : Nat) :
    parse.go done passed (before ++ '$' :: rest) =
      .error ⟨some (passed + before.length + 1), .emptyReference⟩ := by
  have hdrop := Text.dropWhile_bne_append hbefore rest
  have htake := Text.takeWhile_bne_append hbefore rest
  have hbody : rest.takeWhile (!Text.isBlank ·) = [] := by
    cases rest with
    | nil => rfl
    | cons c rest => rw [List.takeWhile_cons_of_neg (by simp [hends c rfl])]
  unfold parse.go
  simp only [htake]
  split
  · next heq => simp [hdrop] at heq
  · next c found heq =>
      rw [hdrop] at heq
      have hbrace := hends '{' (by rw [(List.cons.inj heq).2]; rfl)
      cases hbrace
  · next c found hno heq =>
      rw [hdrop] at heq
      obtain ⟨rfl, rfl⟩ := by simpa using heq
      rw [hbody]
      rfl

theorem Decomposed.parse_go_text
    {parts : List (Text × Reference)} {rest : Text} (hparts : Decomposed parts rest)
    (done : List (Text × Reference)) (passed : Nat) :
    parse.go done passed (Expression.text ⟨parts, rest⟩) = .ok ⟨done.reverse ++ parts, rest⟩ := by
  induction hparts generalizing done passed with
  | rest hrest =>
      have hgo := parse_go_of_not_mem hrest done passed
      simpa [Expression.text] using hgo
  | braced hbefore hbody hclose hparts ih =>
      rw [text_cons, parse_go_braced hbefore hbody hclose, ih]
      simp
  | bare hbefore hbody hopen hblank hends hparts ih =>
      rw [text_cons, parse_go_bare hbefore hbody hopen hblank hends, ih]
      simp

theorem Decomposed.parse_text
    {expression : Expression} (hparts : Decomposed expression.parts expression.rest) :
    parse expression.text = .ok expression := by
  have hgo := hparts.parse_go_text [] 0
  exact hgo

/-! ## What taking apart gives -/

/-- A body that begins with a brace is read as one in braces. -/
theorem head?_takeWhile_ne_brace
    {inside : Text} (hinside : ∀ rest, inside = '{' :: rest → False) :
    (inside.takeWhile (!Text.isBlank ·)).head? ≠ some '{' := by
  intro hhead
  cases inside with
  | nil => cases hhead
  | cons first inside =>
      have hne : (first :: inside).takeWhile (!Text.isBlank ·) ≠ [] := by
        intro hnil
        rw [hnil] at hhead
        cases hhead
      have hfirst := Text.head?_eq_of_begins (List.takeWhile_prefix _) hne
      obtain rfl := Option.some.inj (hhead.symm.trans hfirst)
      exact hinside inside rfl

theorem exists_decomposed_of_parse_go
    {done : List (Text × Reference)} {passed : Nat} {text : Text} {expression : Expression}
    (hparse : parse.go done passed text = .ok expression) :
    ∃ parts,
      expression.parts = done.reverse ++ parts ∧ Decomposed parts expression.rest ∧
        Expression.text ⟨parts, expression.rest⟩ = text := by
  fun_induction parse.go done passed text with
  | case1 done passed text before hopen =>
      obtain rfl := Except.ok.inj hparse
      have htext : before = text :=
        List.takeWhile_eq_self_iff.2 (List.dropWhile_eq_nil_iff.1 hopen)
      have hrest : '$' ∉ before := Text.not_mem_takeWhile_bne '$' text
      exact ⟨[], by simp, .rest hrest, by rw [htext]; rfl⟩
  | case2 => cases hparse
  | case3 => cases hparse
  | case4 done passed text before column c inside hopen body d rest hclose hbody ih =>
      obtain ⟨parts, hdone, hparts, htext⟩ := ih hparse
      have hbefore : '$' ∉ before := Text.not_mem_takeWhile_bne '$' text
      have hno : '}' ∉ body := Text.not_mem_takeWhile_bne '}' inside
      refine ⟨(before, ⟨body, true⟩) :: parts, ?_, ?_, ?_⟩
      · rw [hdone]
        simp
      · exact .braced hbefore (by simpa using hbody) hno hparts
      · rw [text_cons, htext]
        conv => rhs; rw [Text.eq_of_dropWhile_ne hopen, Text.eq_of_dropWhile_ne hclose]
        simp [Reference.text, before, body]
  | case5 => cases hparse
  | case6 done passed text before column c inside hinside hopen body hbody ih =>
      obtain ⟨parts, hdone, hparts, htext⟩ := ih hparse
      have hbefore : '$' ∉ before := Text.not_mem_takeWhile_bne '$' text
      have hinsideText := Text.splitToken_fst_append_snd inside
      refine ⟨(before, ⟨body, false⟩) :: parts, ?_, ?_, ?_⟩
      · rw [hdone]
        simp
      · refine .bare hbefore (by simpa using hbody) ?_ ?_ ?_ hparts
        · exact head?_takeWhile_ne_brace hinside
        · intro c hc
          exact Text.isBlank_of_mem_splitToken_fst hc
        · rw [htext]
          exact Text.endsToken_splitToken_snd inside
      · rw [text_cons, htext]
        conv => rhs; rw [Text.eq_of_dropWhile_ne hopen, ← hinsideText]
        simp [Reference.text, Text.splitToken, before, body]

theorem decomposed_of_parse
    {text : Text} {expression : Expression} (hparse : parse text = .ok expression) :
    Decomposed expression.parts expression.rest := by
  obtain ⟨parts, hdone, hparts, _⟩ := exists_decomposed_of_parse_go hparse
  rw [List.reverse_nil, List.nil_append] at hdone
  rw [hdone]
  exact hparts

end Expression

theorem Reference.exists_text_eq_cons (reference : Reference) :
    ∃ inside, reference.text = '$' :: inside := by
  unfold text
  split
  · exact ⟨_, rfl⟩
  · exact ⟨_, rfl⟩

/-! ## Binding references to a dataset -/

def Reference.qualify (dataset : Nat) (reference : Reference) : Reference :=
  if QualifiedName.isQualified reference.body then reference
  else ⟨(QualifiedName.mk dataset reference.body).text, true⟩

theorem Reference.qualify_of_isQualified
    {reference : Reference} (hbody : QualifiedName.isQualified reference.body = true)
    (dataset : Nat) :
    reference.qualify dataset = reference := by
  unfold qualify
  rw [if_pos hbody]

theorem Reference.qualify_of_not_isQualified
    {reference : Reference} (hbody : QualifiedName.isQualified reference.body = false)
    (dataset : Nat) :
    reference.qualify dataset = ⟨(QualifiedName.mk dataset reference.body).text, true⟩ := by
  unfold qualify
  rw [if_neg (by simp [hbody])]

theorem Reference.mem_text_of_mem_body
    {reference : Reference} {c : Char} (hc : c ∈ reference.body) : c ∈ reference.text := by
  unfold text
  split <;> simp [hc]

theorem Reference.not_mem_text_qualify
    {reference : Reference} {c : Char} (hdigit : c.isDigit = false)
    (hmarks : c ∉ ['$', ':', '{', '}']) (htext : c ∉ reference.text) (dataset : Nat) :
    c ∉ (reference.qualify dataset).text := by
  simp only [List.mem_cons, List.not_mem_nil, or_false, not_or] at hmarks
  obtain ⟨hsigil, hcolon, hopen, hclose⟩ := hmarks
  have hbody : c ∉ reference.body := fun hmem => htext (mem_text_of_mem_body hmem)
  cases hbound : QualifiedName.isQualified reference.body with
  | true =>
      rw [qualify_of_isQualified hbound]
      exact htext
  | false =>
      have hname := QualifiedName.not_mem_text (q := ⟨dataset, reference.body⟩) hdigit hcolon hbody
      rw [qualify_of_not_isQualified hbound]
      simp [text, hsigil, hopen, hclose, hname]

namespace Expression

/-- No reference that gets braces holds a closing brace. -/
def Enclosable (expression : Expression) : Prop :=
  ∀ reference ∈ expression.references, reference.braced = false →
    QualifiedName.isQualified reference.body = false → '}' ∉ reference.body

theorem qualify_eq (dataset : Nat) (expression : Expression) :
    expression.qualify dataset =
      ⟨expression.parts.map fun part => (part.1, part.2.qualify dataset), expression.rest⟩ := by
  unfold qualify
  congr 1
  apply List.map_congr_left
  intro part _
  obtain ⟨before, reference⟩ := part
  cases hbody : QualifiedName.isQualified reference.body with
  | true => simp [hbody, Reference.qualify_of_isQualified hbody]
  | false => simp [hbody, Reference.qualify_of_not_isQualified hbody]

theorem head?_text_map_qualify
    (dataset : Nat) (parts : List (Text × Reference)) (rest : Text) :
    (Expression.text
        ⟨parts.map fun part => (part.1, part.2.qualify dataset), rest⟩).head? =
      (Expression.text ⟨parts, rest⟩).head? := by
  cases parts with
  | nil => rfl
  | cons part parts =>
      obtain ⟨before, reference⟩ := part
      obtain ⟨inside, hinside⟩ := reference.exists_text_eq_cons
      obtain ⟨bound, hbound⟩ := (reference.qualify dataset).exists_text_eq_cons
      rw [List.map_cons, text_cons, text_cons, hinside, hbound]
      cases before <;> rfl

theorem endsToken_text_map_qualify_iff
    (dataset : Nat) (parts : List (Text × Reference)) (rest : Text) :
    Text.EndsToken (Expression.text
        ⟨parts.map fun part => (part.1, part.2.qualify dataset), rest⟩) ↔
      Text.EndsToken (Expression.text ⟨parts, rest⟩) := by
  unfold Text.EndsToken
  rw [head?_text_map_qualify]

/-- Binding keeps what is taken apart.  A bare reference that stays is followed by the blank that
ends it as before; one that gets braces must not close them. -/
theorem Decomposed.map_qualify
    {parts : List (Text × Reference)} {rest : Text} (hparts : Decomposed parts rest)
    (dataset : Nat) (hclosed : Enclosable ⟨parts, rest⟩) :
    Decomposed (parts.map fun part => (part.1, part.2.qualify dataset)) rest := by
  induction hparts with
  | rest hrest => exact .rest hrest
  | @braced before body rest parts hbefore hbody hclose hparts ih =>
      have htail := ih fun reference hreference => hclosed reference (by
        simp only [references, List.map_cons]
        exact List.mem_cons_of_mem _ hreference)
      rw [List.map_cons]
      cases hbound : QualifiedName.isQualified body with
      | true =>
          rw [Reference.qualify_of_isQualified hbound]
          exact .braced hbefore hbody hclose htail
      | false =>
          rw [Reference.qualify_of_not_isQualified hbound]
          refine .braced hbefore (QualifiedName.text_ne_nil _) ?_ htail
          exact QualifiedName.not_mem_text (by decide) (by decide) hclose
  | @bare before body rest parts hbefore hbody hopen hblank hends hparts ih =>
      have htail := ih fun reference hreference => hclosed reference (by
        simp only [references, List.map_cons]
        exact List.mem_cons_of_mem _ hreference)
      rw [List.map_cons]
      cases hbound : QualifiedName.isQualified body with
      | true =>
          rw [Reference.qualify_of_isQualified hbound]
          exact .bare hbefore hbody hopen hblank
            ((endsToken_text_map_qualify_iff dataset parts rest).2 hends) htail
      | false =>
          have hclose := hclosed ⟨body, false⟩ (by simp [references]) rfl hbound
          rw [Reference.qualify_of_not_isQualified hbound]
          refine .braced hbefore (QualifiedName.text_ne_nil _) ?_ htail
          exact QualifiedName.not_mem_text (by decide) (by decide) hclose

theorem head?_text_qualify (dataset : Nat) (expression : Expression) :
    (expression.qualify dataset).text.head? = expression.text.head? := by
  rw [qualify_eq]
  exact head?_text_map_qualify dataset expression.parts expression.rest

theorem text_map_qualify_eq_nil_iff
    (dataset : Nat) (parts : List (Text × Reference)) (rest : Text) :
    Expression.text ⟨parts.map fun part => (part.1, part.2.qualify dataset), rest⟩ = [] ↔
      Expression.text ⟨parts, rest⟩ = [] := by
  rw [← List.head?_eq_none_iff, head?_text_map_qualify, List.head?_eq_none_iff]

theorem getLast?_text_map_qualify
    (dataset : Nat) (parts : List (Text × Reference)) (rest : Text) :
    let bound := Expression.text
      ⟨parts.map fun part => (part.1, part.2.qualify dataset), rest⟩
    bound.getLast? = (Expression.text ⟨parts, rest⟩).getLast? ∨ bound.getLast? = some '}' := by
  induction parts with
  | nil => exact .inl rfl
  | cons part parts ih =>
      obtain ⟨before, reference⟩ := part
      simp only [List.map_cons, text_cons]
      by_cases htail : Expression.text ⟨parts, rest⟩ = []
      · rw [htail, (text_map_qualify_eq_nil_iff dataset parts rest).2 htail]
        cases hbound : QualifiedName.isQualified reference.body with
        | true =>
            rw [Reference.qualify_of_isQualified hbound]
            exact .inl rfl
        | false =>
            rw [Reference.qualify_of_not_isQualified hbound]
            have hclose : before ++ Reference.text ⟨(QualifiedName.mk dataset reference.body).text,
                true⟩ ++ [] = before ++ '$' :: '{' ::
                  (QualifiedName.mk dataset reference.body).text ++ ['}'] := by
              simp [Reference.text]
            rw [hclose, List.getLast?_concat]
            exact .inr rfl
      · have hbound := (not_congr (text_map_qualify_eq_nil_iff dataset parts rest)).2 htail
        rw [List.getLast?_append_of_ne_nil _ htail, List.getLast?_append_of_ne_nil _ hbound]
        exact ih

/-- Binding an expression leaves its last character, or ends it with a brace. -/
theorem getLast?_text_qualify (dataset : Nat) (expression : Expression) :
    (expression.qualify dataset).text.getLast? = expression.text.getLast? ∨
      (expression.qualify dataset).text.getLast? = some '}' := by
  rw [qualify_eq]
  exact getLast?_text_map_qualify dataset expression.parts expression.rest

theorem text_qualify_ne_nil
    {expression : Expression} (hne : expression.text ≠ []) (dataset : Nat) :
    (expression.qualify dataset).text ≠ [] := by
  rw [qualify_eq]
  exact mt (text_map_qualify_eq_nil_iff dataset expression.parts expression.rest).1 hne

theorem not_white_of_getLast?_text_qualify
    {expression : Expression} {dataset : Nat} {c : Char}
    (hlast : ∀ c, expression.text.getLast? = some c → Text.isWhite c = false)
    (hc : (expression.qualify dataset).text.getLast? = some c) :
    Text.isWhite c = false := by
  rcases getLast?_text_qualify dataset expression with hsame | hbrace
  · rw [hsame] at hc
    exact hlast c hc
  · rw [hbrace] at hc
    obtain rfl := Option.some.inj hc
    decide

theorem qualify_eq_self
    {expression : Expression}
    (hbound : ∀ reference ∈ expression.references,
      QualifiedName.isQualified reference.body = true)
    (dataset : Nat) :
    expression.qualify dataset = expression := by
  rw [qualify_eq]
  have hparts : (expression.parts.map fun part => (part.1, part.2.qualify dataset)) =
      expression.parts.map id := by
    apply List.map_congr_left
    intro part hpart
    have hbody := hbound part.2 (List.mem_map_of_mem hpart)
    rw [Reference.qualify_of_isQualified hbody]
    rfl
  rw [hparts, List.map_id]

theorem Decomposed.body_ne_nil
    {parts : List (Text × Reference)} {rest : Text} (hparts : Decomposed parts rest) :
    ∀ part ∈ parts, part.2.body ≠ [] := by
  induction hparts with
  | rest => simp
  | braced _ hbody _ _ ih =>
      intro part hpart
      rcases List.mem_cons.1 hpart with rfl | hpart
      · exact hbody
      · exact ih part hpart
  | bare _ hbody _ _ _ _ ih =>
      intro part hpart
      rcases List.mem_cons.1 hpart with rfl | hpart
      · exact hbody
      · exact ih part hpart

theorem mem_text_iff {expression : Expression} {c : Char} :
    c ∈ expression.text ↔
      (∃ part ∈ expression.parts, c ∈ part.1 ∨ c ∈ part.2.text) ∨ c ∈ expression.rest := by
  simp [text]

theorem mem_text_of_mem_body
    {expression : Expression} {reference : Reference}
    (hreference : reference ∈ expression.references) {c : Char} (hc : c ∈ reference.body) :
    c ∈ expression.text := by
  obtain ⟨part, hpart, rfl⟩ := List.mem_map.1 hreference
  have hinside := Reference.mem_text_of_mem_body hc
  exact mem_text_iff.2 (.inl ⟨part, hpart, .inr hinside⟩)

/-- Binding brings in digits, colons and braces, and no other characters. -/
theorem not_mem_text_qualify
    {expression : Expression} {c : Char} (hdigit : c.isDigit = false)
    (hmarks : c ∉ ['$', ':', '{', '}']) (htext : c ∉ expression.text) (dataset : Nat) :
    c ∉ (expression.qualify dataset).text := by
  rw [mem_text_iff, not_or] at htext
  obtain ⟨hparts, hrest⟩ := htext
  rw [qualify_eq, mem_text_iff]
  rintro (⟨bound, hbound, hc⟩ | hc)
  · obtain ⟨part, hpart, rfl⟩ := List.mem_map.1 hbound
    rcases hc with hc | hc
    · exact hparts ⟨part, hpart, .inl hc⟩
    · have hplain : c ∉ part.2.text := fun hmem => hparts ⟨part, hpart, .inr hmem⟩
      exact Reference.not_mem_text_qualify hdigit hmarks hplain dataset hc
  · exact hrest hc

theorem isQualified_of_mem_qualify
    {expression : Expression} (hparts : Decomposed expression.parts expression.rest)
    (hfeed : '\n' ∉ expression.text) (dataset : Nat) :
    ∀ reference ∈ (expression.qualify dataset).references,
      QualifiedName.isQualified reference.body = true := by
  intro reference hreference
  rw [qualify_eq] at hreference
  simp only [references, List.map_map] at hreference
  obtain ⟨part, hpart, rfl⟩ := List.mem_map.1 hreference
  cases hbound : QualifiedName.isQualified part.2.body with
  | true =>
      simp only [Function.comp_apply, Reference.qualify_of_isQualified hbound]
      exact hbound
  | false =>
      have hne := hparts.body_ne_nil part hpart
      have hbody : '\n' ∉ part.2.body := fun hmem =>
        hfeed (mem_text_of_mem_body (List.mem_map_of_mem hpart) hmem)
      simp only [Function.comp_apply, Reference.qualify_of_not_isQualified hbound]
      exact QualifiedName.isQualified_text hne hbody

theorem parse_text_qualify
    {text : Text} {expression : Expression} (hparse : parse text = .ok expression)
    (hclosed : Enclosable expression) (dataset : Nat) :
    parse (expression.qualify dataset).text = .ok (expression.qualify dataset) := by
  have hparts := decomposed_of_parse hparse
  rw [qualify_eq]
  exact Decomposed.parse_text (hparts.map_qualify dataset hclosed)

/-- Binding a bound expression again changes nothing. -/
theorem qualifyText_text_qualify
    {text : Text} {expression : Expression} (hparse : parse text = .ok expression)
    (hclosed : Enclosable expression) (hfeed : '\n' ∉ text) (dataset other : Nat) :
    qualifyText other (expression.qualify dataset).text =
      .ok (expression.qualify dataset).text := by
  have hparts := decomposed_of_parse hparse
  have htext : '\n' ∉ expression.text := by
    rw [text_of_parse hparse]
    exact hfeed
  have hbound := isQualified_of_mem_qualify hparts htext dataset
  unfold qualifyText
  rw [parse_text_qualify hparse hclosed]
  simp only [Except.map, qualify_eq_self hbound]

end Expression

end ChartScript
