import ChartScript.Proofs.ExpressionShape

/-!
# Which expressions end up bound

Binding is meant to leave no reference without a dataset.  A bare reference runs to the next
blank and may hold a closing brace; when it gets braces of its own, that brace ends it too
early, and what follows is read as an expression anew.  This file says exactly when the text
that binding writes is a bound one, and with it when binding is stable: every bare reference
must leave, behind its first closing brace, a text that is bound already.
-/

namespace ChartScript

namespace Text

theorem exists_append_of_not_mem
    {x : Char} {front text before rest : Text} (hx : x ∉ front)
    (heq : before ++ x :: rest = front ++ text) :
    ∃ between, before = front ++ between ∧ text = between ++ x :: rest := by
  rcases List.append_eq_append_iff.1 heq with ⟨between, rfl, htext⟩ | ⟨between, rfl, htext⟩
  · cases between with
    | nil => exact ⟨[], by simp, by simpa using htext.symm⟩
    | cons c between =>
        obtain ⟨rfl, -⟩ := by simpa using htext
        exact absurd (by simp) hx
  · exact ⟨between, rfl, htext⟩

theorem append_cons_inj_of_not_mem
    {x : Char} {front back other after : Text} (hfront : x ∉ front) (hother : x ∉ other)
    (heq : front ++ x :: back = other ++ x :: after) :
    front = other ∧ back = after := by
  have hfronts := congrArg (List.takeWhile (· != x)) heq
  rw [takeWhile_bne_append hfront, takeWhile_bne_append hother] at hfronts
  subst hfronts
  exact ⟨rfl, (List.cons.inj (List.append_cancel_left heq)).2⟩

theorem mem_of_getLast?_append_cons
    {x last : Char} {front text : Text} (hne : x ≠ last)
    (hlast : ∀ c, (front ++ x :: text).getLast? = some c → c = last) :
    last ∈ text := by
  rw [List.getLast?_append, List.getLast?_cons] at hlast
  cases hend : text.getLast? with
  | none => exact absurd (hlast x (by simp [hend])) hne
  | some c =>
      obtain rfl := hlast c (by simp [hend])
      exact List.mem_of_getLast? hend

end Text

theorem QualifiedName.isQualified_text_iff {q : QualifiedName} (hfeed : '\n' ∉ q.name) :
    isQualified q.text = true ↔ q.name ≠ [] := by
  refine ⟨?_, fun hname => isQualified_text hname hfeed⟩
  intro hqualified
  obtain ⟨⟨digits, name⟩, hsplit⟩ := Option.isSome_iff_exists.1 hqualified
  obtain ⟨htext, _, hdigits, hname, _⟩ := split?_eq_some_iff.1 hsplit
  have hwritten : ':' ∉ Decimal.ofNat q.dataset := Decimal.not_mem_ofNat (by decide) q.dataset
  have hread : ':' ∉ digits := fun hmem => absurd (hdigits ':' hmem) (by decide)
  obtain ⟨_, rfl⟩ := Text.append_cons_inj_of_not_mem hwritten hread htext
  exact hname

theorem Reference.text_braced (body : Text) :
    Reference.text ⟨body, true⟩ = '$' :: '{' :: body ++ ['}'] := rfl

theorem Reference.text_bare (body : Text) :
    Reference.text ⟨body, false⟩ = '$' :: body := rfl

namespace Expression

/-- The text can be taken apart, and each of its references names a dataset. -/
def IsBound (text : Text) : Prop :=
  ∃ expression, parse text = .ok expression ∧
    ∀ reference ∈ expression.references, QualifiedName.isQualified reference.body = true

instance (text : Text) : Decidable (IsBound text) :=
  match hparse : parse text with
  | .ok expression =>
      decidable_of_iff
        (∀ reference ∈ expression.references, QualifiedName.isQualified reference.body = true)
        (by simp [IsBound, hparse])
  | .error _ => .isFalse (by simp [IsBound, hparse])

/-- Binding a bound text to whatever dataset writes it as it is. -/
theorem IsBound.qualifyText_eq {text : Text} (hbound : IsBound text) (dataset : Nat) :
    qualifyText dataset text = .ok text := by
  obtain ⟨expression, hparse, hreferences⟩ := hbound
  unfold qualifyText
  rw [hparse]
  simp only [Except.map, qualify_eq_self hreferences, text_of_parse hparse]

/-! ## A text and its first reference -/

theorem parse_go_eq_ok_iff
    {done : List (Text × Reference)} {passed : Nat} {text : Text} {expression : Expression} :
    parse.go done passed text = .ok expression ↔
      ∃ parts,
        expression.parts = done.reverse ++ parts ∧ Decomposed parts expression.rest ∧
          Expression.text ⟨parts, expression.rest⟩ = text := by
  constructor
  · exact exists_decomposed_of_parse_go
  · rintro ⟨parts, hdone, hparts, rfl⟩
    rw [hparts.parse_go_text, ← hdone]

theorem parse_eq_ok_iff {text : Text} {expression : Expression} :
    parse text = .ok expression ↔
      Decomposed expression.parts expression.rest ∧ expression.text = text := by
  constructor
  · intro hparse
    exact ⟨decomposed_of_parse hparse, text_of_parse hparse⟩
  · rintro ⟨hparts, rfl⟩
    exact hparts.parse_text

theorem isBound_of_not_mem {text : Text} (htext : '$' ∉ text) : IsBound text := by
  refine ⟨⟨[], text⟩, parse_go_of_not_mem htext [] 0, ?_⟩
  simp [references]

/-- One step of taking apart finishes one reference, and the rest is judged by itself. -/
theorem isBound_iff_of_step
    {text rest : Text} {part : Text × Reference} {passed : Nat}
    (hstep : parse text = parse.go [part] passed rest) :
    IsBound text ↔ QualifiedName.isQualified part.2.body = true ∧ IsBound rest := by
  constructor
  · rintro ⟨expression, hparse, hbound⟩
    rw [hstep] at hparse
    obtain ⟨parts, hfirst, hparts, htext⟩ := parse_go_eq_ok_iff.1 hparse
    simp only [references, hfirst, List.reverse_cons, List.reverse_nil, List.nil_append,
      List.singleton_append, List.map_cons, List.forall_mem_cons] at hbound
    exact ⟨hbound.1, ⟨parts, expression.rest⟩, parse_eq_ok_iff.2 ⟨hparts, htext⟩, hbound.2⟩
  · rintro ⟨hfirst, expression, hparse, hbound⟩
    obtain ⟨hparts, htext⟩ := parse_eq_ok_iff.1 hparse
    refine ⟨⟨part :: expression.parts, expression.rest⟩, ?_, ?_⟩
    · rw [hstep]
      exact parse_go_eq_ok_iff.2 ⟨expression.parts, rfl, hparts, htext⟩
    · exact List.forall_mem_cons.2 ⟨hfirst, hbound⟩

theorem isBound_braced
    {before body : Text} (hbefore : '$' ∉ before) (hbody : body ≠ []) (hclose : '}' ∉ body)
    (rest : Text) :
    IsBound (before ++ Reference.text ⟨body, true⟩ ++ rest) ↔
      QualifiedName.isQualified body = true ∧ IsBound rest :=
  isBound_iff_of_step (parse_go_braced hbefore hbody hclose rest [] 0)

theorem isBound_bare
    {before body rest : Text} (hbefore : '$' ∉ before) (hbody : body ≠ [])
    (hopen : body.head? ≠ some '{') (hblank : ∀ c ∈ body, Text.isBlank c = false)
    (hends : Text.EndsToken rest) :
    IsBound (before ++ Reference.text ⟨body, false⟩ ++ rest) ↔
      QualifiedName.isQualified body = true ∧ IsBound rest :=
  isBound_iff_of_step (parse_go_bare hbefore hbody hopen hblank hends [] 0)

theorem not_isBound_empty {before : Text} (hbefore : '$' ∉ before) (rest : Text) :
    ¬ IsBound (before ++ '$' :: '{' :: '}' :: rest) := by
  rintro ⟨expression, hparse, _⟩
  unfold parse at hparse
  rw [parse_go_empty_braced hbefore] at hparse
  cases hparse

theorem Decomposed.change_before
    {before : Text} {reference : Reference} {parts : List (Text × Reference)} {rest : Text}
    (hparts : Decomposed ((before, reference) :: parts) rest) :
    '$' ∉ before ∧
      ∀ other, '$' ∉ other → Decomposed ((other, reference) :: parts) rest := by
  cases hparts with
  | braced hbefore hbody hclose hparts =>
      exact ⟨hbefore, fun other hother => .braced hother hbody hclose hparts⟩
  | bare hbefore hbody hopen hblank hends hparts =>
      exact ⟨hbefore, fun other hother => .bare hother hbody hopen hblank hends hparts⟩

theorem isBound_append_of_not_mem {front : Text} (hfront : '$' ∉ front) (text : Text) :
    IsBound (front ++ text) ↔ IsBound text := by
  constructor
  · rintro ⟨⟨parts, rest⟩, hparse, hbound⟩
    obtain ⟨hparts, htext⟩ := parse_eq_ok_iff.1 hparse
    cases parts with
    | nil =>
        cases hparts with
        | rest hrest =>
            obtain rfl : rest = front ++ text := htext
            exact isBound_of_not_mem fun hmem => hrest (List.mem_append_right front hmem)
    | cons part parts =>
        obtain ⟨before, reference⟩ := part
        obtain ⟨hbefore, hchange⟩ := hparts.change_before
        obtain ⟨inside, hinside⟩ := reference.exists_text_eq_cons
        rw [text_cons, hinside, List.append_assoc] at htext
        obtain ⟨between, rfl, rfl⟩ := Text.exists_append_of_not_mem hfront htext
        have hbetween : '$' ∉ between := fun hmem => hbefore (List.mem_append_right front hmem)
        refine ⟨⟨(between, reference) :: parts, rest⟩, ?_, hbound⟩
        refine parse_eq_ok_iff.2 ⟨hchange between hbetween, ?_⟩
        rw [text_cons, hinside, List.append_assoc]
        rfl
  · rintro ⟨⟨parts, rest⟩, hparse, hbound⟩
    obtain ⟨hparts, rfl⟩ := parse_eq_ok_iff.1 hparse
    cases parts with
    | nil =>
        cases hparts with
        | rest hrest =>
            have hno : '$' ∉ front ++ rest := by simp [hfront, hrest]
            exact isBound_of_not_mem hno
    | cons part parts =>
        obtain ⟨before, reference⟩ := part
        obtain ⟨hbefore, hchange⟩ := hparts.change_before
        have hno : '$' ∉ front ++ before := by simp [hfront, hbefore]
        refine ⟨⟨(front ++ before, reference) :: parts, rest⟩, ?_, hbound⟩
        refine parse_eq_ok_iff.2 ⟨hchange _ hno, ?_⟩
        rw [text_cons, text_cons, List.append_assoc, List.append_assoc, List.append_assoc]

/-! ## What stands behind a closing brace -/

/-- A text that ends with a brace, up to the next blank, is judged apart from what follows. -/
theorem isBound_append_of_endsToken
    {text rest : Text} (hblank : ∀ c ∈ text, Text.isBlank c = false)
    (hlast : ∀ c, text.getLast? = some c → c = '}') (hrest : Text.EndsToken rest) :
    IsBound (text ++ rest) ↔ IsBound text ∧ IsBound rest := by
  induction hlength : text.length using Nat.strong_induction_on generalizing text with
  | _ length ih =>
      by_cases hsigil : '$' ∈ text
      · obtain ⟨before, inside, rfl, hbefore⟩ := List.eq_append_cons_of_mem hsigil
        have hend : '}' ∈ inside := Text.mem_of_getLast?_append_cons (by decide) hlast
        by_cases hopen : inside.head? = some '{'
        · obtain ⟨inside, rfl⟩ := List.head?_eq_some_iff.1 hopen
          have hclosed : '}' ∈ inside := by simpa using hend
          obtain ⟨body, after, rfl, hclose⟩ := List.eq_append_cons_of_mem hclosed
          by_cases hbody : body = []
          · subst hbody
            have hwhole := not_isBound_empty hbefore (after ++ rest)
            have halone := not_isBound_empty hbefore after
            simp only [List.nil_append, List.append_assoc, List.cons_append] at hwhole halone ⊢
            rw [iff_false_left hwhole, not_and]
            exact fun hbound => absurd hbound halone
          · have hafter := ih after.length (by simp at hlength; omega)
              (fun c hc => hblank c (by simp [hc]))
              (fun c hc => hlast c (by simp [List.getLast?_append, List.getLast?_cons, hc])) rfl
            have hwhole := isBound_braced hbefore hbody hclose (after ++ rest)
            have halone := isBound_braced hbefore hbody hclose after
            simp only [Reference.text_braced, List.append_assoc, List.cons_append,
              List.nil_append] at hwhole halone ⊢
            rw [hwhole, halone, hafter, and_assoc]
        · have hword : ∀ c ∈ inside, Text.isBlank c = false := by
            intro c hc
            exact hblank c (by simp [hc])
          have hne : inside ≠ [] := List.ne_nil_of_mem hend
          have hwhole := isBound_bare hbefore hne hopen hword hrest
          have halone := isBound_bare hbefore hne hopen hword Text.endsToken_nil
          rw [List.append_nil, and_iff_left (isBound_of_not_mem (by simp))] at halone
          rw [← Reference.text_bare, hwhole, halone]
      · have hfront := isBound_append_of_not_mem hsigil rest
        have htext := isBound_of_not_mem hsigil
        rw [hfront, and_iff_right htext]

end Expression

/-! ## References that leave nothing unbound -/

/-- Written in braces with a dataset in front, the reference leaves nothing unbound: up to its
first closing brace there is a name, and what follows that brace is bound. -/
def Reference.LeavesBound (reference : Reference) : Prop :=
  reference.braced = false → QualifiedName.isQualified reference.body = false →
    ∀ front back, reference.body = front ++ '}' :: back → '}' ∉ front →
      front ≠ [] ∧ Expression.IsBound (back ++ ['}'])

namespace Reference

theorem leavesBound_of_braced (body : Text) : LeavesBound ⟨body, true⟩ := by
  intro hbare
  cases hbare

theorem leavesBound_of_isQualified
    {reference : Reference} (hbody : QualifiedName.isQualified reference.body = true) :
    reference.LeavesBound := by
  intro _ hnot
  rw [hbody] at hnot
  cases hnot

theorem leavesBound_of_not_mem {reference : Reference} (hclose : '}' ∉ reference.body) :
    reference.LeavesBound := by
  intro _ _ front back hsplit
  rw [hsplit] at hclose
  exact absurd (by simp) hclose

theorem leavesBound_iff_of_split
    {front back : Text} (hfront : '}' ∉ front)
    (hbody : QualifiedName.isQualified (front ++ '}' :: back) = false) :
    LeavesBound ⟨front ++ '}' :: back, false⟩ ↔
      front ≠ [] ∧ Expression.IsBound (back ++ ['}']) := by
  constructor
  · intro hleaves
    exact hleaves rfl hbody front back rfl hfront
  · rintro hbound - - other after hsplit hother
    obtain ⟨rfl, rfl⟩ := Text.append_cons_inj_of_not_mem hfront hother hsplit
    exact hbound

end Reference

namespace Expression

/-- A reference that was given a number is bound if there is a name behind the number. -/
theorem isBound_numbered
    {before name : Text} (hbefore : '$' ∉ before) (hclose : '}' ∉ name) (hfeed : '\n' ∉ name)
    (dataset : Nat) (rest : Text) :
    IsBound (before ++ Reference.text ⟨QualifiedName.text ⟨dataset, name⟩, true⟩ ++ rest) ↔
      name ≠ [] ∧ IsBound rest := by
  have hnot := QualifiedName.not_mem_text (q := ⟨dataset, name⟩) (by decide) (by decide) hclose
  have hname := QualifiedName.isQualified_text_iff (q := ⟨dataset, name⟩) hfeed
  rw [isBound_braced hbefore (QualifiedName.text_ne_nil _) hnot, hname]

theorem isBound_qualify_braced
    {before body : Text} (hbefore : '$' ∉ before) (hbody : body ≠ []) (hclose : '}' ∉ body)
    (hfeed : '\n' ∉ body) (dataset : Nat) (rest : Text) :
    IsBound (before ++ (Reference.qualify dataset ⟨body, true⟩).text ++ rest) ↔
      IsBound rest := by
  cases hbound : QualifiedName.isQualified body with
  | true =>
      rw [Reference.qualify_of_isQualified hbound, isBound_braced hbefore hbody hclose,
        and_iff_right hbound]
  | false =>
      rw [Reference.qualify_of_not_isQualified hbound,
        isBound_numbered hbefore hclose hfeed, and_iff_right hbody]

/-- A bare reference that names no dataset gets braces.  If its body holds a closing brace, they
end there, and the back of the body stands free. -/
theorem isBound_qualify_bare
    {before body rest : Text} (hbefore : '$' ∉ before) (hbody : body ≠ [])
    (hopen : body.head? ≠ some '{') (hblank : ∀ c ∈ body, Text.isBlank c = false)
    (hends : Text.EndsToken rest) (hfeed : '\n' ∉ body) (dataset : Nat) :
    IsBound (before ++ (Reference.qualify dataset ⟨body, false⟩).text ++ rest) ↔
      Reference.LeavesBound ⟨body, false⟩ ∧ IsBound rest := by
  cases hbound : QualifiedName.isQualified body with
  | true =>
      have hleaves : Reference.LeavesBound ⟨body, false⟩ :=
        Reference.leavesBound_of_isQualified hbound
      rw [Reference.qualify_of_isQualified hbound,
        isBound_bare hbefore hbody hopen hblank hends, and_iff_right hbound,
        and_iff_right hleaves]
  | false =>
      rw [Reference.qualify_of_not_isQualified hbound]
      by_cases hclose : '}' ∈ body
      · obtain ⟨front, back, rfl, hfront⟩ := List.eq_append_cons_of_mem hclose
        have hfeedFront : '\n' ∉ front := fun hmem => hfeed (List.mem_append_left _ hmem)
        have hword : ∀ c ∈ back ++ ['}'], Text.isBlank c = false := by
          intro c hc
          apply hblank
          simp only [List.mem_append, List.mem_cons, List.not_mem_nil, or_false] at hc ⊢
          tauto
        have hbehind := isBound_append_of_endsToken hword (by simp) hends
        have htext : before ++ Reference.text ⟨QualifiedName.text ⟨dataset, front ++ '}' :: back⟩,
              true⟩ ++ rest =
            before ++ Reference.text ⟨QualifiedName.text ⟨dataset, front⟩, true⟩ ++
              (back ++ ['}'] ++ rest) := by
          simp [Reference.text_braced, QualifiedName.text]
        rw [htext, isBound_numbered hbefore hfront hfeedFront, hbehind,
          Reference.leavesBound_iff_of_split hfront hbound, and_assoc]
      · have hleaves : Reference.LeavesBound ⟨body, false⟩ :=
          Reference.leavesBound_of_not_mem hclose
        rw [isBound_numbered hbefore hclose hfeed, and_iff_right hbody, and_iff_right hleaves]

theorem isBound_text_map_qualify_iff
    {parts : List (Text × Reference)} {rest : Text} (hparts : Decomposed parts rest)
    (hfeed : ∀ part ∈ parts, '\n' ∉ part.2.body) (dataset : Nat) :
    IsBound (Expression.text ⟨parts.map fun part => (part.1, part.2.qualify dataset), rest⟩) ↔
      ∀ part ∈ parts, part.2.LeavesBound := by
  induction hparts with
  | rest hrest =>
      have hbound := isBound_of_not_mem hrest
      simpa [Expression.text] using hbound
  | braced hbefore hbody hclose hparts ih =>
      obtain ⟨hfeed, hfeeds⟩ := List.forall_mem_cons.1 hfeed
      rw [List.map_cons, text_cons, isBound_qualify_braced hbefore hbody hclose hfeed,
        List.forall_mem_cons, and_iff_right (Reference.leavesBound_of_braced _), ih hfeeds]
  | @bare before body rest parts hbefore hbody hopen hblank hends hparts ih =>
      obtain ⟨hfeed, hfeeds⟩ := List.forall_mem_cons.1 hfeed
      have hendsBound := (endsToken_text_map_qualify_iff dataset parts rest).2 hends
      rw [List.map_cons, text_cons,
        isBound_qualify_bare hbefore hbody hopen hblank hendsBound hfeed,
        List.forall_mem_cons, ih hfeeds]

/-- The text that binding writes is bound, and binding leaves it as it is from then on, exactly
if every reference leaves nothing unbound. -/
theorem qualifyText_bound_stable_iff
    {text out : Text} {expression : Expression} {dataset : Nat} (hfeed : '\n' ∉ text)
    (hparse : parse text = .ok expression) (hout : qualifyText dataset text = .ok out) :
    (IsBound out ∧ ∀ other, qualifyText other out = .ok out) ↔
      ∀ reference ∈ expression.references, reference.LeavesBound := by
  have hbodies : ∀ part ∈ expression.parts, '\n' ∉ part.2.body := by
    intro part hpart hmem
    have hinside := mem_text_of_mem_body (List.mem_map_of_mem hpart) hmem
    rw [text_of_parse hparse] at hinside
    exact hfeed hinside
  have hbound := isBound_text_map_qualify_iff (decomposed_of_parse hparse) hbodies dataset
  rw [← qualify_eq] at hbound
  have hwritten : (expression.qualify dataset).text = out := by
    unfold qualifyText at hout
    rw [hparse] at hout
    exact Except.ok.inj hout
  rw [hwritten] at hbound
  rw [and_iff_left_of_imp IsBound.qualifyText_eq, hbound, references, List.forall_mem_map]

/-- A brace in a bare reference, with a name in front of it and a bound reference behind it. -/
def braceInName : Text := ['$', 'A', '}', '$', '2', ':', 'B', ' ', '+', ' ', '$', 'C']

def braceInNameBound : Text :=
  ['$', '{', '1', ':', 'A', '}', '$', '2', ':', 'B', '}', ' ', '+', ' ', '$', '{', '1', ':', 'C',
    '}']

theorem qualifyText_bound_stable_iff_braceInName :
    '\n' ∉ braceInName ∧ qualifyText 1 braceInName = .ok braceInNameBound ∧
      IsBound braceInNameBound ∧
        ∀ other, qualifyText other braceInNameBound = .ok braceInNameBound := by
  have hfeed : '\n' ∉ braceInName := by decide
  have hparse : parse braceInName =
      .ok ⟨[([], ⟨['A', '}', '$', '2', ':', 'B'], false⟩), ([' ', '+', ' '], ⟨['C'], false⟩)],
        []⟩ := by decide +kernel
  have hout : qualifyText 1 braceInName = .ok braceInNameBound := by decide +kernel
  refine ⟨hfeed, hout, (qualifyText_bound_stable_iff hfeed hparse hout).2 ?_⟩
  have hbrace : Reference.LeavesBound ⟨['A'] ++ '}' :: ['$', '2', ':', 'B'], false⟩ :=
    (Reference.leavesBound_iff_of_split (by decide) (by decide +kernel)).2
      ⟨by decide, by decide +kernel⟩
  have hplain : Reference.LeavesBound ⟨['C'], false⟩ :=
    Reference.leavesBound_of_not_mem (by decide)
  intro reference hreference
  simp only [references, List.map_cons, List.map_nil, List.mem_cons, List.not_mem_nil,
    or_false] at hreference
  rcases hreference with rfl | rfl
  · exact hbrace
  · exact hplain

/-- Two bare references in one word: the brace after the first lets the second free. -/
theorem not_forall_qualifyText_bound_stable :
    ¬ ∀ (text out : Text) (dataset : Nat), '\n' ∉ text → qualifyText dataset text = .ok out →
      IsBound out ∧ ∀ other, qualifyText other out = .ok out := by
  intro hall
  have hout : qualifyText 1 ['$', 'A', '}', '$', 'B'] =
      .ok ['$', '{', '1', ':', 'A', '}', '$', 'B', '}'] := by decide +kernel
  have hagain : qualifyText 2 ['$', '{', '1', ':', 'A', '}', '$', 'B', '}'] =
      .ok ['$', '{', '1', ':', 'A', '}', '$', '{', '2', ':', 'B', '}', '}'] := by decide +kernel
  obtain ⟨_, hstable⟩ := hall _ _ 1 (by decide) hout
  rw [hstable 2] at hagain
  exact absurd hagain (by decide)

end Expression

end ChartScript
