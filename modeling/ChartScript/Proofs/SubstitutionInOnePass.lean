import ChartScript.Proofs.Substitution

/-!
# Substitution in one pass

A loop variable is put in by two replacements: the references in braces come first and the
bare ones second, so the second replacement also reads what the first one has written.  This
file compares the two with a single pass that replaces both forms and never reads the value
again.  The results are the same exactly if the first replacement makes no new reference, or
if the value is the bare reference itself, which is then replaced by itself.

A new reference begins at a sigil of the text, behind which the value completes the name, or
at a sigil that the value brings along.
-/

namespace ChartScript

namespace Text

theorem length_lt_of_after?_eq_some
    {pattern text rest : Text} (hpattern : pattern ≠ [])
    (hafter : after? pattern text = some rest) :
    rest.length < text.length := by
  have htext := after?_eq_some_iff.1 hafter
  have hpos := List.length_pos_iff.2 hpattern
  rw [htext, List.length_append]
  omega

theorem after?_append (pattern rest : Text) : after? pattern (pattern ++ rest) = some rest :=
  after?_eq_some_iff.2 rfl

theorem after?_eq_none_iff {pattern text : Text} :
    after? pattern text = none ↔ ¬ pattern <+: text := by
  rw [Option.eq_none_iff_forall_ne_some]
  constructor
  · rintro hnone ⟨rest, htext⟩
    exact hnone rest (after?_eq_some_iff.2 htext.symm)
  · intro hnot rest hafter
    exact hnot ⟨rest, (after?_eq_some_iff.1 hafter).symm⟩

theorem cons_suffix_append_iff
    {x : Char} {front : Text} (hx : x ∉ front) (rest text : Text) :
    x :: rest <:+ front ++ text ↔ x :: rest <:+ text := by
  induction front with
  | nil => rfl
  | cons c front ih =>
      simp only [List.mem_cons, not_or] at hx
      have hne : x :: rest ≠ c :: (front ++ text) := fun heq => hx.1 (List.cons.inj heq).1
      rw [List.cons_append, List.suffix_cons_iff, or_iff_right hne, ih hx.2]

/-- A beginning that does not hold the first character of the value is no part of a value that
was put in, so it stood there before. -/
theorem begins_of_begins_replaceAll
    {pattern value : Text} (hpattern : pattern ≠ []) (hvalue : value ≠ []) {front text : Text}
    (hfirst : ∀ c, value.head? = some c → c ∉ front)
    (hbegins : front <+: replaceAll pattern value text) :
    front <+: text := by
  induction text using replaceAll_induction hpattern generalizing front with
  | nil => exact hbegins
  | occurrence rest _ =>
      cases front with
      | nil => exact List.nil_prefix
      | cons c front =>
          obtain ⟨d, value, rfl⟩ := List.exists_cons_of_ne_nil hvalue
          rw [replaceAll_append hpattern, List.cons_append, List.cons_prefix_cons] at hbegins
          exact absurd (hbegins.1 ▸ List.mem_cons_self) (hfirst d rfl)
  | kept d rest hd ih =>
      cases front with
      | nil => exact List.nil_prefix
      | cons c front =>
          rw [replaceAll_cons value hd, List.cons_prefix_cons] at hbegins
          have hrest := ih (fun e he hmem => hfirst e he (List.mem_cons_of_mem c hmem)) hbegins.2
          exact List.cons_prefix_cons.2 ⟨hbegins.1, hrest⟩

/-! ## Texts in which some occurrences are replaced -/

/-- The second text is the first one with some occurrences of the pattern replaced; `left` of
them stay as they are. -/
inductive PartlyReplaced (pattern value : Text) : Nat → Text → Text → Prop
  | nil : PartlyReplaced pattern value 0 [] []
  | kept {left : Nat} {c : Char} {text result : Text} (hc : ¬ pattern <+: c :: text)
      (hrest : PartlyReplaced pattern value left text result) :
      PartlyReplaced pattern value left (c :: text) (c :: result)
  | replaced {left : Nat} {text result : Text}
      (hrest : PartlyReplaced pattern value left text result) :
      PartlyReplaced pattern value left (pattern ++ text) (value ++ result)
  | left {left : Nat} {text result : Text}
      (hrest : PartlyReplaced pattern value left text result) :
      PartlyReplaced pattern value (left + 1) (pattern ++ text) (pattern ++ result)

namespace PartlyReplaced

variable {pattern value text result : Text} {left : Nat}

theorem length_add
    (hpattern : pattern ≠ []) (hpartly : PartlyReplaced pattern value left text result) :
    result.length + left * value.length =
      (replaceAll pattern value text).length + left * pattern.length := by
  induction hpartly with
  | nil => simp
  | kept hc _ ih =>
      rw [replaceAll_cons value hc, List.length_cons, List.length_cons]
      omega
  | replaced _ ih =>
      rw [replaceAll_append hpattern, List.length_append, List.length_append]
      omega
  | left _ ih =>
      rw [replaceAll_append hpattern, List.length_append, List.length_append, Nat.add_mul,
        Nat.add_mul]
      omega

theorem eq_replaceAll_of_left_eq_zero
    (hpattern : pattern ≠ []) (hpartly : PartlyReplaced pattern value left text result)
    (hleft : left = 0) :
    result = replaceAll pattern value text := by
  induction hpartly with
  | nil => rfl
  | kept hc _ ih => rw [replaceAll_cons value hc, ih hleft]
  | replaced _ ih => rw [replaceAll_append hpattern, ih hleft]
  | left => cases hleft

theorem eq_replaceAll_of_value_eq
    (hpattern : pattern ≠ []) (hpartly : PartlyReplaced pattern value left text result)
    (hvalue : value = pattern) :
    result = replaceAll pattern value text := by
  induction hpartly with
  | nil => rfl
  | kept hc _ ih => rw [replaceAll_cons value hc, ih]
  | replaced _ ih => rw [replaceAll_append hpattern, ih]
  | left _ ih => rw [replaceAll_append hpattern, ih, hvalue]

/-- Where the value is as long as the pattern, an occurrence that stays shows, unless the two
are the same. -/
theorem left_eq_zero_or_value_eq
    (hpattern : pattern ≠ []) (hpartly : PartlyReplaced pattern value left text result)
    (hlength : pattern.length = value.length) (heq : result = replaceAll pattern value text) :
    left = 0 ∨ value = pattern := by
  induction hpartly with
  | nil => exact .inl rfl
  | kept hc _ ih =>
      rw [replaceAll_cons value hc] at heq
      exact ih (List.cons.inj heq).2
  | replaced _ ih =>
      rw [replaceAll_append hpattern] at heq
      exact ih (List.append_cancel_left heq)
  | left _ _ =>
      rw [replaceAll_append hpattern] at heq
      exact .inr (List.append_inj heq hlength).1.symm

theorem eq_replaceAll_iff
    (hpattern : pattern ≠ []) (hpartly : PartlyReplaced pattern value left text result) :
    result = replaceAll pattern value text ↔ left = 0 ∨ value = pattern := by
  constructor
  · intro heq
    have hlength := hpartly.length_add hpattern
    rw [heq, Nat.add_left_cancel_iff] at hlength
    rcases Nat.eq_zero_or_pos left with hleft | hleft
    · exact .inl hleft
    · have hsame := Nat.eq_of_mul_eq_mul_left hleft hlength
      exact hpartly.left_eq_zero_or_value_eq hpattern hsame.symm heq
  · rintro (hleft | hvalue)
    · exact hpartly.eq_replaceAll_of_left_eq_zero hpattern hleft
    · exact hpartly.eq_replaceAll_of_value_eq hpattern hvalue

theorem exists_of_append
    {x : Char} {front : Text} (hx : x ∉ front)
    (hpartly : PartlyReplaced (x :: pattern) value left (front ++ text) result) :
    ∃ back, result = front ++ back ∧ PartlyReplaced (x :: pattern) value left text back := by
  induction front generalizing result with
  | nil => exact ⟨result, rfl, hpartly⟩
  | cons c front ih =>
      simp only [List.mem_cons, not_or] at hx
      generalize htext : c :: front ++ text = whole at hpartly
      cases hpartly with
      | nil => cases htext
      | kept hc hrest =>
          obtain ⟨rfl, rfl⟩ := List.cons.inj htext
          obtain ⟨back, rfl, hback⟩ := ih hx.2 hrest
          exact ⟨back, rfl, hback⟩
      | replaced => exact absurd (List.cons.inj htext).1.symm hx.1
      | left => exact absurd (List.cons.inj htext).1.symm hx.1

end PartlyReplaced

end Text

namespace Loop

/-! ## One pass -/

theorem bracedForm_ne_nil (var : Text) : bracedForm var ≠ [] := List.cons_ne_nil _ _

theorem bareForm_ne_nil (var : Text) : bareForm var ≠ [] := List.cons_ne_nil _ _

theorem bracedForm_append (var rest : Text) :
    bracedForm var ++ rest = '$' :: ('{' :: (var ++ ['}']) ++ rest) := by
  simp [bracedForm]

theorem bareForm_append (var rest : Text) : bareForm var ++ rest = '$' :: (var ++ rest) := rfl

/-- The text with the value in the place of every reference to the variable, in one pass from
left to right; at each place the form in braces is tried first. -/
def substituteOnce (var value : Text) : Text → Text
  | [] => []
  | c :: rest =>
    match _hbraced : Text.after? (bracedForm var) (c :: rest) with
    | some after => value ++ substituteOnce var value after
    | none =>
      match _hbare : Text.after? (bareForm var) (c :: rest) with
      | some after => value ++ substituteOnce var value after
      | none => c :: substituteOnce var value rest
termination_by text => text.length
decreasing_by
  · exact Text.length_lt_of_after?_eq_some (bracedForm_ne_nil var) _hbraced
  · exact Text.length_lt_of_after?_eq_some (bareForm_ne_nil var) _hbare
  · exact Nat.lt_succ_self rest.length

variable (var value : Text)

@[simp] theorem substituteOnce_nil : substituteOnce var value [] = [] := by
  rw [substituteOnce]

theorem substituteOnce_braced (rest : Text) :
    substituteOnce var value (bracedForm var ++ rest) =
      value ++ substituteOnce var value rest := by
  have hafter := Text.after?_append (bracedForm var) rest
  rw [bracedForm_append] at hafter ⊢
  rw [substituteOnce]
  split
  · next after hsome =>
      obtain rfl := Option.some.inj (hafter.symm.trans hsome)
      rfl
  · next hnone => cases hafter.symm.trans hnone

variable {var}

theorem substituteOnce_bare
    {rest : Text} (hbraced : ¬ bracedForm var <+: bareForm var ++ rest) :
    substituteOnce var value (bareForm var ++ rest) = value ++ substituteOnce var value rest := by
  have hnone := Text.after?_eq_none_iff.2 hbraced
  have hafter := Text.after?_append (bareForm var) rest
  rw [bareForm_append] at hnone hafter ⊢
  rw [substituteOnce]
  split
  · next after hsome => cases hnone.symm.trans hsome
  · split
    · next after hsome =>
        obtain rfl := Option.some.inj (hafter.symm.trans hsome)
        rfl
    · next hbare => cases hafter.symm.trans hbare

theorem substituteOnce_cons
    {c : Char} {rest : Text} (hbraced : ¬ bracedForm var <+: c :: rest)
    (hbare : ¬ bareForm var <+: c :: rest) :
    substituteOnce var value (c :: rest) = c :: substituteOnce var value rest := by
  have hnoBraced := Text.after?_eq_none_iff.2 hbraced
  have hnoBare := Text.after?_eq_none_iff.2 hbare
  rw [substituteOnce]
  split
  · next after hsome => cases hnoBraced.symm.trans hsome
  · split
    · next after hsome => cases hnoBare.symm.trans hsome
    · rfl

theorem reference_induction
    (var : Text) {motive : Text → Prop}
    (nil : motive [])
    (braced : ∀ rest, motive rest → motive (bracedForm var ++ rest))
    (bare : ∀ rest, ¬ bracedForm var <+: bareForm var ++ rest → motive rest →
      motive (bareForm var ++ rest))
    (kept : ∀ c rest, ¬ bracedForm var <+: c :: rest → ¬ bareForm var <+: c :: rest →
      motive rest → motive (c :: rest))
    (text : Text) : motive text := by
  induction hlength : text.length using Nat.strong_induction_on generalizing text with
  | h length ih =>
      by_cases hbraced : bracedForm var <+: text
      · obtain ⟨rest, rfl⟩ := hbraced
        have hpos := List.length_pos_iff.2 (bracedForm_ne_nil var)
        rw [List.length_append] at hlength
        exact braced rest (ih rest.length (by omega) rest rfl)
      · by_cases hbare : bareForm var <+: text
        · obtain ⟨rest, rfl⟩ := hbare
          have hpos := List.length_pos_iff.2 (bareForm_ne_nil var)
          rw [List.length_append] at hlength
          exact bare rest hbraced (ih rest.length (by omega) rest rfl)
        · cases text with
          | nil => exact nil
          | cons c rest =>
              rw [List.length_cons] at hlength
              exact kept c rest hbraced hbare (ih rest.length (by omega) rest rfl)

/-! ## New references -/

/-- Putting the value in the place of the references in braces makes a bare reference that the
text does not have. -/
inductive MakesReference (var value text : Text) : Prop
  /-- The name is completed by a value behind a sigil of the text. -/
  | joined {rest : Text} (hrest : '$' :: rest <:+ text)
      (hbraced : ¬ bracedForm var <+: '$' :: rest) (hbare : ¬ bareForm var <+: '$' :: rest)
      (hmade : bareForm var <+: '$' :: Text.replaceAll (bracedForm var) value rest)
  /-- The sigil belongs to a value that was put in. -/
  | inserted {rest back : Text} (hrest : bracedForm var ++ rest <:+ text)
      (hback : '$' :: back <:+ value)
      (hmade : bareForm var <+: '$' :: back ++ Text.replaceAll (bracedForm var) value rest)

variable {value}

theorem not_makesReference_nil : ¬ MakesReference var value [] := by
  rintro (⟨hrest, _, _, _⟩ | ⟨hrest, _, _⟩)
  · cases List.suffix_nil.1 hrest
  · exact bracedForm_ne_nil var (List.append_eq_nil_iff.1 (List.suffix_nil.1 hrest)).1

theorem makesReference_append_iff {front : Text} (hfront : '$' ∉ front) (text : Text) :
    MakesReference var value (front ++ text) ↔ MakesReference var value text := by
  have hsuffix : ∀ rest, '$' :: rest <:+ front ++ text ↔ '$' :: rest <:+ text :=
    fun rest => Text.cons_suffix_append_iff hfront rest text
  constructor
  · rintro (⟨hrest, hbraced, hbare, hmade⟩ | ⟨hrest, hback, hmade⟩)
    · exact .joined ((hsuffix _).1 hrest) hbraced hbare hmade
    · exact .inserted ((hsuffix _).1 hrest) hback hmade
  · rintro (⟨hrest, hbraced, hbare, hmade⟩ | ⟨hrest, hback, hmade⟩)
    · exact .joined ((hsuffix _).2 hrest) hbraced hbare hmade
    · exact .inserted ((hsuffix _).2 hrest) hback hmade

theorem makesReference_sigil_iff (rest : Text) :
    MakesReference var value ('$' :: rest) ↔
      (¬ bracedForm var <+: '$' :: rest ∧ ¬ bareForm var <+: '$' :: rest ∧
          bareForm var <+: '$' :: Text.replaceAll (bracedForm var) value rest) ∨
        (∃ after back, '$' :: rest = bracedForm var ++ after ∧ '$' :: back <:+ value ∧
          bareForm var <+: '$' :: back ++ Text.replaceAll (bracedForm var) value after) ∨
        MakesReference var value rest := by
  constructor
  · rintro (⟨hrest, hbraced, hbare, hmade⟩ | ⟨hrest, hback, hmade⟩)
    · rcases List.suffix_cons_iff.1 hrest with heq | hrest
      · obtain rfl := (List.cons.inj heq).2
        exact .inl ⟨hbraced, hbare, hmade⟩
      · exact .inr (.inr (.joined hrest hbraced hbare hmade))
    · rcases List.suffix_cons_iff.1 hrest with heq | hrest
      · exact .inr (.inl ⟨_, _, heq.symm, hback, hmade⟩)
      · exact .inr (.inr (.inserted hrest hback hmade))
  · rintro (⟨hbraced, hbare, hmade⟩ | ⟨after, back, heq, hback, hmade⟩ | hrest)
    · exact .joined (List.suffix_refl _) hbraced hbare hmade
    · exact .inserted (heq ▸ List.suffix_refl _) hback hmade
    · rcases hrest with ⟨hrest, hbraced, hbare, hmade⟩ | ⟨hrest, hback, hmade⟩
      · exact .joined (hrest.trans (List.suffix_cons _ _)) hbraced hbare hmade
      · exact .inserted (hrest.trans (List.suffix_cons _ _)) hback hmade

section

variable (hvar : '$' ∉ var)

include hvar

theorem makesReference_braced_iff (rest : Text) :
    MakesReference var value (bracedForm var ++ rest) ↔
      (∃ back, '$' :: back <:+ value ∧
          bareForm var <+: '$' :: back ++ Text.replaceAll (bracedForm var) value rest) ∨
        MakesReference var value rest := by
  have hinside : '$' ∉ '{' :: (var ++ ['}']) := by simp [hvar]
  rw [bracedForm_append, makesReference_sigil_iff, makesReference_append_iff hinside,
    ← bracedForm_append]
  constructor
  · rintro (⟨hnot, _⟩ | ⟨after, back, heq, hmade⟩ | hrest)
    · exact absurd (List.prefix_append _ rest) hnot
    · obtain rfl := List.append_cancel_left heq
      exact .inl ⟨back, hmade⟩
    · exact .inr hrest
  · rintro (⟨back, hmade⟩ | hrest)
    · exact .inr (.inl ⟨rest, back, rfl, hmade⟩)
    · exact .inr (.inr hrest)

theorem makesReference_bare_iff
    {rest : Text} (hbraced : ¬ bracedForm var <+: bareForm var ++ rest) :
    MakesReference var value (bareForm var ++ rest) ↔ MakesReference var value rest := by
  have hhere : bareForm var <+: bareForm var ++ rest := List.prefix_append _ rest
  rw [bareForm_append] at hbraced hhere ⊢
  rw [makesReference_sigil_iff, makesReference_append_iff hvar]
  constructor
  · rintro (⟨_, hnot, _⟩ | ⟨after, back, heq, _⟩ | hrest)
    · exact absurd hhere hnot
    · exact absurd ⟨after, heq.symm⟩ hbraced
    · exact hrest
  · exact fun hrest => .inr (.inr hrest)

omit hvar in
theorem makesReference_cons_iff
    {c : Char} {rest : Text} (hbraced : ¬ bracedForm var <+: c :: rest)
    (hbare : ¬ bareForm var <+: c :: rest) :
    MakesReference var value (c :: rest) ↔
      bareForm var <+: c :: Text.replaceAll (bracedForm var) value rest ∨
        MakesReference var value rest := by
  by_cases hc : c = '$'
  · subst hc
    rw [makesReference_sigil_iff]
    constructor
    · rintro (⟨_, _, hmade⟩ | ⟨after, back, heq, _⟩ | hrest)
      · exact .inl hmade
      · exact absurd ⟨after, heq.symm⟩ hbraced
      · exact .inr hrest
    · rintro (hmade | hrest)
      · exact .inl ⟨hbraced, hbare, hmade⟩
      · exact .inr (.inr hrest)
  · have hfront : '$' ∉ [c] := by simpa using Ne.symm hc
    have hnot := Text.not_begins_cons hc var (Text.replaceAll (bracedForm var) value rest)
    have happend : MakesReference var value (c :: rest) ↔ MakesReference var value rest :=
      makesReference_append_iff hfront rest
    rw [happend]
    exact (or_iff_right hnot).symm

/-! ## The two replacements and the pass -/

theorem exists_partlyReplaced_cons
    {left : Nat} {text result : Text}
    (hpartly : Text.PartlyReplaced (bareForm var) value left text result) (c : Char) :
    ∃ more, Text.PartlyReplaced (bareForm var) value (left + more) (c :: text) (c :: result) ∧
      (more = 0 ↔ ¬ bareForm var <+: c :: text) := by
  by_cases hhere : bareForm var <+: c :: text
  · obtain ⟨after, hafter⟩ := hhere
    rw [bareForm_append] at hafter
    obtain ⟨rfl, rfl⟩ := List.cons.inj hafter
    obtain ⟨back, rfl, hback⟩ := hpartly.exists_of_append hvar
    refine ⟨1, .left hback, ?_⟩
    simp [bareForm]
  · exact ⟨0, .kept hhere hpartly, by simp [hhere]⟩

theorem exists_partlyReplaced_append
    {left : Nat} {text result : Text}
    (hpartly : Text.PartlyReplaced (bareForm var) value left text result) (front : Text) :
    ∃ more, Text.PartlyReplaced (bareForm var) value (left + more) (front ++ text)
        (front ++ result) ∧
      (more = 0 ↔ ∀ back, '$' :: back <:+ front → ¬ bareForm var <+: '$' :: back ++ text) := by
  induction front with
  | nil =>
      refine ⟨0, hpartly, ?_⟩
      simp
  | cons c front ih =>
      obtain ⟨more, hmore, hnone⟩ := ih
      obtain ⟨one, hone, hhere⟩ := exists_partlyReplaced_cons hvar hmore c
      refine ⟨more + one, by rw [← Nat.add_assoc]; exact hone, ?_⟩
      rw [Nat.add_eq_zero_iff, hnone, hhere]
      constructor
      · rintro ⟨hlater, hnot⟩ back hback
        rcases List.suffix_cons_iff.1 hback with heq | hback
        · rw [heq]
          exact hnot
        · exact hlater back hback
      · intro hall
        refine ⟨fun back hback => hall back (hback.trans (List.suffix_cons c front)), ?_⟩
        intro hbegins
        obtain rfl : '$' = c := (List.cons_prefix_cons.1 hbegins).1
        exact hall front (List.suffix_refl _) hbegins

/-- The first replacement leaves the bare references of the text, which the pass replaces, and
those that it makes, which the pass leaves.  At each place the occurrences that stay are counted
against the new references there; in a value these begin at any of its sigils. -/
theorem exists_partlyReplaced_substituteOnce (text : Text) :
    ∃ left, Text.PartlyReplaced (bareForm var) value left
        (Text.replaceAll (bracedForm var) value text) (substituteOnce var value text) ∧
      (left = 0 ↔ ¬ MakesReference var value text) := by
  induction text using reference_induction var with
  | nil =>
      rw [Text.replaceAll_nil, substituteOnce_nil]
      exact ⟨0, .nil, by simp [not_makesReference_nil]⟩
  | braced rest ih =>
      obtain ⟨left, hpartly, hleft⟩ := ih
      obtain ⟨more, hmore, hnone⟩ := exists_partlyReplaced_append hvar hpartly value
      rw [Text.replaceAll_append (bracedForm_ne_nil var), substituteOnce_braced]
      refine ⟨left + more, hmore, ?_⟩
      rw [Nat.add_eq_zero_iff, hleft, hnone, makesReference_braced_iff hvar, not_or, and_comm]
      simp only [not_exists, not_and]
  | bare rest hbraced ih =>
      obtain ⟨left, hpartly, hleft⟩ := ih
      have hkept : Text.replaceAll (bracedForm var) value (bareForm var ++ rest) =
          bareForm var ++ Text.replaceAll (bracedForm var) value rest := by
        rw [bareForm_append] at hbraced ⊢
        rw [Text.replaceAll_cons value hbraced, bracedForm, List.cons_append,
          Text.replaceAll_append_of_not_mem hvar]
        rfl
      rw [hkept, substituteOnce_bare value hbraced]
      refine ⟨left, .replaced hpartly, ?_⟩
      rw [hleft, makesReference_bare_iff hvar hbraced]
  | kept c rest hbraced hbare ih =>
      obtain ⟨left, hpartly, hleft⟩ := ih
      obtain ⟨one, hone, hhere⟩ := exists_partlyReplaced_cons hvar hpartly c
      rw [Text.replaceAll_cons value hbraced, substituteOnce_cons value hbraced hbare]
      refine ⟨left + one, hone, ?_⟩
      rw [Nat.add_eq_zero_iff, hleft, hhere, makesReference_cons_iff hbraced hbare, not_or,
        and_comm]

end

/-- The two replacements come to one pass exactly if the first of them makes no new reference, or
if the value is the bare reference. -/
theorem substitute_eq_substituteOnce_iff
    {var : Text} (hvar : '$' ∉ var) (value text : Text) :
    substitute var value text = substituteOnce var value text ↔
      value = bareForm var ∨ ¬ MakesReference var value text := by
  obtain ⟨left, hpartly, hleft⟩ := @exists_partlyReplaced_substituteOnce var value hvar text
  have hall := hpartly.eq_replaceAll_iff (bareForm_ne_nil var)
  unfold substitute
  rw [eq_comm, hall, hleft, or_comm]

/-- A value without sigils makes no new reference if its first character is not in the name. -/
theorem not_makesReference_of_head
    {var value : Text} (hvalue : value ≠ []) (hsigil : '$' ∉ value)
    (hfirst : ∀ c, value.head? = some c → c ∉ var) (text : Text) :
    ¬ MakesReference var value text := by
  rintro (⟨_, _, hbare, hmade⟩ | ⟨_, hback, _⟩)
  · have hname := (List.cons_prefix_cons.1 hmade).2
    have hrest := Text.begins_of_begins_replaceAll (bracedForm_ne_nil var) hvalue hfirst hname
    exact hbare (List.cons_prefix_cons.2 ⟨rfl, hrest⟩)
  · exact hsigil (hback.subset List.mem_cons_self)

/-- A sigil in front of a reference, both forms of it, and a reference to something else. -/
def sigilInFront : Text := "$${q} + $q * ${p}".toList

theorem substitute_eq_substituteOnce_iff_sigilInFront :
    '$' ∉ ['q'] ∧
      substitute ['q'] "OIL".toList sigilInFront = substituteOnce ['q'] "OIL".toList sigilInFront ∧
      substitute ['q'] "OIL".toList sigilInFront = "$OIL + OIL * ${p}".toList := by
  have hvar : '$' ∉ ['q'] := by decide
  have hfirst : ∀ c, "OIL".toList.head? = some c → c ∉ ['q'] := by
    intro c hc
    obtain rfl := Option.some.inj hc
    decide
  have hmakes := not_makesReference_of_head (by decide) (by decide) hfirst sigilInFront
  exact ⟨hvar, (substitute_eq_substituteOnce_iff hvar _ _).2 (.inr hmakes), by decide⟩

/-- A value that is the name itself completes the sigil in front of it to a new reference. -/
theorem not_forall_substitute_eq_substituteOnce :
    ¬ ∀ var value text : Text, '$' ∉ var →
      substitute var value text = substituteOnce var value text := by
  intro hall
  have hsame := hall ['q'] ['q'] "$${q}".toList (by decide)
  have htwice : substitute ['q'] ['q'] "$${q}".toList = ['q'] := by decide
  have honce : substituteOnce ['q'] ['q'] "$${q}".toList = ['$', 'q'] := by decide +kernel
  rw [htwice, honce] at hsame
  exact absurd hsame (by decide)

end Loop

end ChartScript
