import ChartScript.Proofs.BlankRuns
import ChartScript.Proofs.BoundReferences
import ChartScript.Proofs.WrittenDefinitions

/-!
# Definitions with single blanks

A reader of definitions cuts a line at its tokens and trims the parts, and the references of an
expression begin and end at characters that are no blanks.  So the line with single blanks
between its tokens is read exactly if the line itself is, as the same definition but for the
blanks between the tokens of the expression.
-/

namespace ChartScript

/-! ## Expressions -/

/-- A character that is no blank parts a text where it parts the text with single blanks. -/
theorem Text.collapse_eq_append_cons_iff
    {c : Char} (hc : isBlank c = false) {text front rest : Text} (hfront : c ∉ front) :
    collapse [' '] text = front ++ c :: rest ↔
      ∃ before after, text = before ++ c :: after ∧ c ∉ before ∧
        collapse [' '] before = front ∧ collapse [' '] after = rest := by
  constructor
  · intro heq
    have hmem : c ∈ text := by
      rw [← mem_collapse_iff isBlank_of_mem_blank hc, heq]
      simp
    obtain ⟨before, after, rfl, hbefore⟩ := List.eq_append_cons_of_mem hmem
    rw [collapse_append_cons hc] at heq
    obtain ⟨hsame, hafter⟩ :=
      append_cons_inj_of_not_mem (not_mem_collapse hc hbefore) hfront heq
    exact ⟨before, after, rfl, hbefore, hsame, hafter⟩
  · rintro ⟨before, after, rfl, _, rfl, rfl⟩
    exact collapse_append_cons hc before after

theorem QualifiedName.isQualified_collapse (body : Text) :
    isQualified (Text.collapse [' '] body) = isQualified body := by
  have hdigits : ∀ digits : Text, (∀ c ∈ digits, Decimal.isAnyDigit c = true) →
      ∀ c ∈ digits ++ [':'], Text.isBlank c = false := by
    intro digits hall c hc
    rcases List.mem_append.1 hc with hc | hc
    · exact Decimal.isBlank_of_isAnyDigit (hall c hc)
    · obtain rfl := List.mem_singleton.1 hc
      decide
  have hfeed : ∀ name, '\n' ∈ Text.collapse [' '] name ↔ '\n' ∈ name :=
    Text.mem_collapse_iff Text.isBlank_of_mem_blank (by decide)
  rw [Bool.eq_iff_iff, isQualified_iff, isQualified_iff]
  constructor
  · rintro ⟨digits, name, heq, hne, hall, hname, hnone⟩
    have hall' := hdigits digits hall
    rw [List.append_cons, Text.collapse_eq_append_iff Text.isBlank_of_mem_blank hall'] at heq
    obtain ⟨after, rfl, rfl⟩ := heq
    exact ⟨digits, after, by simp, hne, hall, mt Text.collapse_blank_eq_nil_iff.2 hname,
      mt (hfeed after).2 hnone⟩
  · rintro ⟨digits, name, rfl, hne, hall, hname, hnone⟩
    refine ⟨digits, Text.collapse [' '] name, ?_, hne, hall,
      mt Text.collapse_blank_eq_nil_iff.1 hname, mt (hfeed name).1 hnone⟩
    rw [List.append_cons, Text.collapse_append (hdigits digits hall), ← List.append_cons]

def Reference.collapse (reference : Reference) : Reference :=
  { reference with body := Text.collapse [' '] reference.body }

namespace Expression

def collapsePart (part : Text × Reference) : Text × Reference :=
  (Text.collapse [' '] part.1, part.2.collapse)

def collapse (expression : Expression) : Expression :=
  ⟨expression.parts.map collapsePart, Text.collapse [' '] expression.rest⟩

/-- The bodies that have no braces hold no blanks. -/
def BareWords (expression : Expression) : Prop :=
  ∀ reference ∈ expression.references, reference.braced = false →
    ∀ c ∈ reference.body, Text.isBlank c = false

theorem text_collapse {expression : Expression} (hbare : expression.BareWords) :
    expression.collapse.text = Text.collapse [' '] expression.text := by
  have hsigil : Text.isBlank '$' = false := by decide
  have hopening : Text.isBlank '{' = false := by decide
  have hclosing : Text.isBlank '}' = false := by decide
  obtain ⟨parts, rest⟩ := expression
  simp only [collapse]
  induction parts with
  | nil => simp [text]
  | cons part parts ih =>
      obtain ⟨before, body, braced⟩ := part
      obtain ⟨hfirst, hparts⟩ := List.forall_mem_cons.1 hbare
      rw [List.map_cons, collapsePart, text_cons, text_cons, ih hparts, List.append_assoc,
        List.append_assoc]
      cases braced with
      | true =>
          simp [Reference.collapse, Reference.text, Text.collapse_append_cons hsigil,
            Text.collapse_cons hopening, Text.collapse_append_cons hclosing]
      | false =>
          have hblank := hfirst rfl
          simp [Reference.collapse, Reference.text, Text.collapse_append_cons hsigil,
            Text.collapse_eq_self hblank, Text.collapse_append hblank]

theorem Decomposed.bareWords
    {parts : List (Text × Reference)} {rest : Text} (hparts : Decomposed parts rest) :
    BareWords ⟨parts, rest⟩ := by
  unfold BareWords references
  induction hparts with
  | rest => simp
  | braced _ _ _ _ ih =>
      refine List.forall_mem_cons.2 ⟨?_, ih⟩
      intro hbraced
      cases hbraced
  | bare _ _ _ hblank _ _ ih => exact List.forall_mem_cons.2 ⟨fun _ => hblank, ih⟩

theorem Decomposed.collapse
    {parts : List (Text × Reference)} {rest : Text} (hparts : Decomposed parts rest) :
    Decomposed (parts.map collapsePart) (Text.collapse [' '] rest) := by
  induction hparts with
  | rest hrest => exact .rest (Text.not_mem_collapse (by decide) hrest)
  | braced hbefore hbody hclose _ ih =>
      exact .braced (Text.not_mem_collapse (by decide) hbefore)
        (mt Text.collapse_blank_eq_nil_iff.1 hbody) (Text.not_mem_collapse (by decide) hclose) ih
  | bare hbefore hbody hopen hblank hends hparts ih =>
      have hbehind := Text.endsToken_collapse Text.isBlank_of_mem_blank hends
      rw [← text_collapse hparts.bareWords] at hbehind
      rw [List.map_cons, collapsePart, Reference.collapse, Text.collapse_eq_self hblank]
      exact .bare (Text.not_mem_collapse (by decide) hbefore) hbody hopen hblank hbehind ih

/-- What a text with single blanks is taken apart into stems from the parts of the text. -/
theorem Decomposed.exists_of_collapse
    {parts : List (Text × Reference)} {rest text : Text} (hparts : Decomposed parts rest)
    (htext : Text.collapse [' '] text = Expression.text ⟨parts, rest⟩) :
    ∃ expression, Decomposed expression.parts expression.rest ∧ expression.text = text ∧
      Expression.collapse expression = ⟨parts, rest⟩ := by
  have hsigil : Text.isBlank '$' = false := by decide
  induction hparts generalizing text with
  | @rest rest hrest =>
      have hsame : Text.collapse [' '] text = rest := by simpa [Expression.text] using htext
      subst hsame
      have hnone : '$' ∉ text :=
        mt (Text.mem_collapse_iff Text.isBlank_of_mem_blank hsigil text).2 hrest
      exact ⟨⟨[], text⟩, .rest hnone, by simp [Expression.text], rfl⟩
  | @braced before body rest parts hbefore hbody hclose hparts ih =>
      have hsplit : Text.collapse [' '] text =
          before ++ '$' :: '{' :: (body ++ '}' :: Expression.text ⟨parts, rest⟩) := by
        rw [htext, text_cons]
        simp [Reference.text]
      obtain ⟨front, inside, rfl, hfront, rfl, hinside⟩ :=
        (Text.collapse_eq_append_cons_iff hsigil hbefore).1 hsplit
      obtain ⟨inside, rfl, hbehind⟩ :=
        (Text.collapse_eq_cons_iff Text.isBlank_of_mem_blank (by decide)).1 hinside
      obtain ⟨name, after, rfl, hname, rfl, hafter⟩ :=
        (Text.collapse_eq_append_cons_iff (by decide) hclose).1 hbehind
      obtain ⟨⟨others, last⟩, hothers, rfl, hcollapse⟩ := ih hafter
      obtain ⟨rfl, rfl⟩ := Expression.mk.inj hcollapse
      refine ⟨⟨(front, ⟨name, true⟩) :: others, last⟩, ?_, ?_, rfl⟩
      · exact .braced hfront (mt Text.collapse_blank_eq_nil_iff.2 hbody) hname hothers
      · rw [text_cons]
        simp [Reference.text]
  | @bare before body rest parts hbefore hbody hopen hblank hends hparts ih =>
      have hsplit : Text.collapse [' '] text =
          before ++ '$' :: (body ++ Expression.text ⟨parts, rest⟩) := by
        rw [htext, text_cons]
        simp [Reference.text]
      obtain ⟨front, inside, rfl, hfront, rfl, hinside⟩ :=
        (Text.collapse_eq_append_cons_iff hsigil hbefore).1 hsplit
      obtain ⟨after, rfl, hafter⟩ :=
        (Text.collapse_eq_append_iff Text.isBlank_of_mem_blank hblank).1 hinside
      rw [← hafter] at hends
      obtain ⟨⟨others, last⟩, hothers, rfl, hcollapse⟩ := ih hafter
      obtain ⟨rfl, rfl⟩ := Expression.mk.inj hcollapse
      refine ⟨⟨(front, ⟨body, false⟩) :: others, last⟩, ?_, ?_, ?_⟩
      · exact .bare hfront hbody hopen hblank (Text.endsToken_of_collapse hends) hothers
      · rw [text_cons]
        simp [Reference.text]
      · simp [Expression.collapse, collapsePart, Reference.collapse, Text.collapse_eq_self hblank]

theorem parse_collapse_eq_ok_iff {text : Text} {collapsed : Expression} :
    parse (Text.collapse [' '] text) = .ok collapsed ↔
      ∃ expression, parse text = .ok expression ∧ expression.collapse = collapsed := by
  constructor
  · intro hcollapsed
    obtain ⟨hparts, htext⟩ := parse_eq_ok_iff.1 hcollapsed
    obtain ⟨expression, hwhole, rfl, hcollapse⟩ := hparts.exists_of_collapse htext.symm
    exact ⟨expression, hwhole.parse_text, hcollapse⟩
  · rintro ⟨expression, hparse, rfl⟩
    obtain ⟨hparts, rfl⟩ := parse_eq_ok_iff.1 hparse
    rw [← text_collapse hparts.bareWords]
    exact hparts.collapse.parse_text

end Expression

/-! ## Bound expressions -/

theorem QualifiedName.collapse_text (dataset : Nat) (name : Text) :
    Text.collapse [' '] (QualifiedName.mk dataset name).text =
      (QualifiedName.mk dataset (Text.collapse [' '] name)).text := by
  have hnumber : ∀ c ∈ Decimal.ofNat dataset, Text.isBlank c = false := fun _ hc =>
    Decimal.isBlank_of_isDigit (Decimal.isDigit_of_mem_ofNat hc)
  unfold text
  rw [Text.collapse_append hnumber, Text.collapse_cons (by decide)]

theorem Reference.qualify_collapse (dataset : Nat) (reference : Reference) :
    reference.collapse.qualify dataset = (reference.qualify dataset).collapse := by
  have hsame := QualifiedName.isQualified_collapse reference.body
  cases hbound : QualifiedName.isQualified reference.body with
  | true =>
      rw [hbound] at hsame
      rw [qualify_of_isQualified hbound, qualify_of_isQualified hsame]
  | false =>
      rw [hbound] at hsame
      rw [qualify_of_not_isQualified hbound, qualify_of_not_isQualified hsame]
      simp only [collapse, QualifiedName.collapse_text]

namespace Expression

theorem qualify_collapse (dataset : Nat) (expression : Expression) :
    expression.collapse.qualify dataset = (expression.qualify dataset).collapse := by
  rw [qualify_eq, qualify_eq]
  simp only [collapse, List.map_map]
  congr 1
  apply List.map_congr_left
  intro part _
  simp only [Function.comp_apply, collapsePart, Reference.qualify_collapse]

theorem BareWords.qualify
    {expression : Expression} (hbare : expression.BareWords) (dataset : Nat) :
    (expression.qualify dataset).BareWords := by
  intro reference hreference hbraced
  rw [qualify_eq] at hreference
  simp only [references, List.map_map] at hreference
  obtain ⟨part, hpart, rfl⟩ := List.mem_map.1 hreference
  simp only [Function.comp_apply] at hbraced ⊢
  cases hbound : QualifiedName.isQualified part.2.body with
  | true =>
      rw [Reference.qualify_of_isQualified hbound] at hbraced ⊢
      exact hbare part.2 (List.mem_map_of_mem hpart) hbraced
  | false =>
      rw [Reference.qualify_of_not_isQualified hbound] at hbraced
      cases hbraced

/-- Binding the references and making one blank of every run can change places. -/
theorem qualifyText_collapse_eq_ok_iff {dataset : Nat} {text bound : Text} :
    qualifyText dataset (Text.collapse [' '] text) = .ok bound ↔
      ∃ plain, qualifyText dataset text = .ok plain ∧ Text.collapse [' '] plain = bound := by
  have hcollapse : ∀ expression, parse text = .ok expression →
      (expression.collapse.qualify dataset).text =
        Text.collapse [' '] (expression.qualify dataset).text := by
    intro expression hparse
    have hbare := (decomposed_of_parse hparse).bareWords
    rw [qualify_collapse, text_collapse (hbare.qualify dataset)]
  unfold qualifyText
  simp only [map_eq_ok_iff, parse_collapse_eq_ok_iff]
  constructor
  · rintro ⟨_, ⟨expression, hparse, rfl⟩, rfl⟩
    exact ⟨_, ⟨expression, hparse, rfl⟩, (hcollapse expression hparse).symm⟩
  · rintro ⟨_, ⟨expression, hparse, rfl⟩, rfl⟩
    exact ⟨_, ⟨expression, hparse, rfl⟩, hcollapse expression hparse⟩

end Expression

/-! ## Lines -/

namespace Definition

theorem splitUnit_collapse (name : QualifiedName) (rest : Text) :
    splitUnit name (Text.collapse [] rest) =
      (splitUnit name rest).map fun (unit, after) => (unit, Text.collapse [] after) := by
  have hequals : Text.isBlank '=' = false := by decide
  have hcons := @Text.collapse_eq_cons_iff [] (List.forall_mem_nil _) '=' hequals rest
  have hhead : (Text.collapse [] rest).head? = some '=' ↔ rest.head? = some '=' := by
    simp only [List.head?_eq_some_iff, hcons]
    constructor
    · rintro ⟨_, after, hrest, _⟩
      exact ⟨after, hrest⟩
    · rintro ⟨after, hrest⟩
      exact ⟨_, after, hrest, rfl⟩
  unfold splitUnit
  rw [Text.splitToken_collapse (List.forall_mem_nil _)]
  by_cases hrest : rest.head? = some '='
  · rw [if_pos hrest, if_pos (hhead.2 hrest)]
    rfl
  · rw [if_neg hrest, if_neg (mt hhead.1 hrest)]
    simp only
    split
    · rfl
    · rw [Text.trimStart_collapse (List.forall_mem_nil _)]
      rfl

/-- What trimming leaves does not end in a blank, so it does not matter what such an end gives. -/
theorem trimEnd_collapse_nil (tail : Text) :
    Text.trimEnd (Text.collapse [] tail) = Text.collapse [' '] (Text.trimEnd tail) := by
  rw [Text.trimEnd_collapse (List.forall_mem_nil _)]
  apply Text.collapse_of_last
  intro c hc
  exact Text.isBlank_of_not_white (Text.not_white_of_getLast?_trimEnd hc)

theorem split_collapse_eq_ok_iff {line unit tail : Text} {name : QualifiedName} :
    split (Text.collapse [] line) = .ok (name, unit, tail) ↔
      ∃ plain, split line = .ok (name, unit, plain) ∧ Text.collapse [] plain = tail := by
  have hkeyword : Text.IsWord .blanks keyword := Text.isWord_of_all (by decide) (by decide)
  have hequals : Text.isBlank '=' = false := by decide
  have htrim := @Text.trimStart_collapse [] (List.forall_mem_nil _)
  have htoken := @Text.splitToken_collapse [] (List.forall_mem_nil _)
  have hempty : ∀ tail, Text.trimEnd (Text.collapse [] tail) ≠ [] ↔ Text.trimEnd tail ≠ [] := by
    intro tail
    rw [trimEnd_collapse_nil, ne_eq, Text.collapse_blank_eq_nil_iff]
  constructor
  · intro hsplit
    obtain ⟨_, token, _, _, hline, hfirst, hne, hname, hunit, rfl, htail⟩ :=
      split_eq_ok_iff.1 hsplit
    rw [htrim, Text.collapse_eq_append_iff (List.forall_mem_nil _) hkeyword.2] at hline
    obtain ⟨afterKeyword, hline, rfl⟩ := hline
    rw [htrim, htoken] at hfirst
    obtain ⟨rfl, rfl⟩ := Prod.mk.inj hfirst
    rw [htrim, splitUnit_collapse, map_eq_ok_iff] at hunit
    obtain ⟨⟨_, after⟩, hunit, heq⟩ := hunit
    obtain ⟨rfl, hafter⟩ := Prod.mk.inj heq
    obtain ⟨rest, rfl, rfl⟩ :=
      (Text.collapse_eq_cons_iff (List.forall_mem_nil _) hequals).1 hafter
    rw [htrim, hempty] at htail
    exact ⟨Text.trimStart rest,
      split_eq_ok_iff.2 ⟨afterKeyword, _, _, rest, hline, rfl, hne, hname, hunit, rfl, htail⟩,
      (htrim rest).symm⟩
  · rintro ⟨plain, hsplit, rfl⟩
    obtain ⟨afterKeyword, token, afterName, rest, hline, hfirst, hne, hname, hunit, rfl, htail⟩ :=
      split_eq_ok_iff.1 hsplit
    refine split_eq_ok_iff.2 ⟨Text.collapse [] afterKeyword, token, Text.collapse [] afterName,
      Text.collapse [] rest, ?_, ?_, hne, hname, ?_, (htrim rest).symm, (hempty _).2 htail⟩
    · rw [htrim, hline, Text.collapse_append hkeyword.2]
    · rw [htrim, htoken, hfirst]
    · rw [htrim, splitUnit_collapse, hunit, ← Text.collapse_cons hequals]
      rfl

/-- The definition with single blanks between the tokens of its expression. -/
def squeezed (definition : Definition) : Definition :=
  { definition with expression := definition.expression.squeeze }

theorem squeeze_expression_of_read
    {line : SourceLine} {definition : Definition} (hread : read line = .ok definition) :
    definition.expression.squeeze = Text.collapse [' '] definition.expression := by
  obtain ⟨hhead, hlast⟩ := not_white_of_read hread
  exact Text.squeeze_eq_collapse_of_ends (fun c hc => Text.isBlank_of_not_white (hhead c hc))
    fun c hc => Text.isBlank_of_not_white (hlast c hc)

theorem split_squeeze_eq_ok_iff {line unit tail : Text} {name : QualifiedName} :
    split line.squeeze = .ok (name, unit, tail) ↔
      ∃ plain, split line = .ok (name, unit, plain) ∧ Text.collapse [] plain = tail := by
  have hmargin : split (line.dropWhile Text.isBlank) = split line := by
    unfold split
    rw [Text.trimStart_dropWhile_isBlank]
  rw [Text.squeeze_eq_collapse, split_collapse_eq_ok_iff, hmargin]

/-- A line with single blanks between its tokens is read as the same definition, with single
blanks between the tokens of the expression. -/
theorem read_squeeze_eq_ok_iff {number : Nat} {line : Text} {definition : Definition} :
    read ⟨number, line.squeeze⟩ = .ok definition ↔
      ∃ plain, read ⟨number, line⟩ = .ok plain ∧ plain.squeezed = definition := by
  constructor
  · intro hread
    obtain ⟨tail, hsplit, hbound⟩ := read_eq_ok_iff.1 hread
    obtain ⟨plain, hplain, rfl⟩ := split_squeeze_eq_ok_iff.1 hsplit
    rw [trimEnd_collapse_nil, Expression.qualifyText_collapse_eq_ok_iff] at hbound
    obtain ⟨bound, hbound, hexpression⟩ := hbound
    have hfound : read ⟨number, line⟩ = .ok ⟨definition.name, bound, definition.unit⟩ :=
      read_eq_ok_iff.2 ⟨plain, hplain, hbound⟩
    refine ⟨_, hfound, ?_⟩
    unfold squeezed
    rw [squeeze_expression_of_read hfound, hexpression]
  · rintro ⟨plain, hread, rfl⟩
    obtain ⟨tail, hsplit, hbound⟩ := read_eq_ok_iff.1 hread
    refine read_eq_ok_iff.2 ⟨_, split_squeeze_eq_ok_iff.2 ⟨tail, hsplit, rfl⟩, ?_⟩
    rw [trimEnd_collapse_nil, Expression.qualifyText_collapse_eq_ok_iff]
    exact ⟨_, hbound, (squeeze_expression_of_read hread).symm⟩

end Definition

end ChartScript
