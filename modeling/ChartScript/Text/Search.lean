import ChartScript.Text

/-!
# Searching and replacing

The first occurrence of a pattern splits a text into what stands before it and what stands
after it.  Replacing goes once from left to right, and what was inserted is not looked at
again.
-/

namespace ChartScript.Text

/-- What follows `pattern` in a text that begins with it. -/
def after? : Text → Text → Option Text
  | [], text => some text
  | _ :: _, [] => none
  | p :: pattern, c :: text => if p = c then after? pattern text else none

theorem after?_eq_some_iff {pattern text rest : Text} :
    after? pattern text = some rest ↔ text = pattern ++ rest := by
  induction pattern generalizing text with
  | nil => simp [after?]
  | cons p pattern ih =>
    cases text with
    | nil => simp [after?]
    | cons c text =>
      by_cases h : p = c
      · subst h
        simp [after?, ih]
      · simp [after?, h, Ne.symm h]

/-- What stands before the first occurrence of `pattern` and what stands after it. -/
def cut? (pattern text : Text) : Option (Text × Text) := go [] text
where
  go (before : Text) (text : Text) : Option (Text × Text) :=
    match after? pattern text with
    | some after => some (before.reverse, after)
    | none =>
      match text with
      | [] => none
      | c :: rest => go (c :: before) rest
  termination_by structural text

/-- Replaces the occurrences of a non-empty `pattern`, from left to right and without
overlap. -/
def replaceAll (pattern value text : Text) : Text := go [] 0 text
where
  /-- `done` is the finished part, backwards; `skip` characters still belong to the
  occurrence that was replaced last. -/
  go (done : Text) (skip : Nat) : Text → Text
    | [] => done.reverse
    | c :: rest =>
      match skip with
      | skip + 1 => go done skip rest
      | 0 =>
        if pattern.isPrefixOf (c :: rest) then
          go (value.reverseAux done) (pattern.length - 1) rest
        else
          go (c :: done) 0 rest

theorem cut?_go_eq_some {pattern text before after : Text} (passed : Text)
    (h : cut?.go pattern passed text = some (before, after)) :
    passed.reverse ++ text = before ++ pattern ++ after := by
  induction text generalizing passed with
  | nil =>
    unfold cut?.go at h
    split at h
    · next rest hrest =>
      obtain ⟨rfl, rfl⟩ := by simpa using h
      simp [after?_eq_some_iff.1 hrest]
    · simp at h
  | cons c text ih =>
    unfold cut?.go at h
    split at h
    · next rest hrest =>
      obtain ⟨rfl, rfl⟩ := by simpa using h
      simp [after?_eq_some_iff.1 hrest]
    · simpa using ih (c :: passed) h

/-- The two parts of a cut and the pattern between them make up the text. -/
theorem eq_of_cut?_eq_some {pattern text before after : Text}
    (h : cut? pattern text = some (before, after)) : text = before ++ pattern ++ after := by
  simpa using cut?_go_eq_some [] h

theorem replaceAll_go_eq (pattern value done : Text) (skip : Nat) (text : Text) :
    replaceAll.go pattern value done skip text =
      done.reverse ++ replaceAll.go pattern value [] skip text := by
  induction text generalizing done skip with
  | nil => simp [replaceAll.go]
  | cons c rest ih =>
    cases skip with
    | succ skip =>
      simp only [replaceAll.go]
      exact ih done skip
    | zero =>
      simp only [replaceAll.go]
      split
      · rw [ih (value.reverseAux done), ih (value.reverseAux [])]
        simp [List.reverseAux_eq]
      · rw [ih (c :: done), ih [c]]
        simp

theorem replaceAll_go_append (pattern value : Text) (text rest : Text) :
    replaceAll.go pattern value [] text.length (text ++ rest) = replaceAll pattern value rest := by
  induction text with
  | nil => rfl
  | cons c text ih => simpa [replaceAll.go] using ih

@[simp] theorem replaceAll_nil (pattern value : Text) : replaceAll pattern value [] = [] := rfl

/-- An occurrence at the beginning is replaced. -/
theorem replaceAll_append {pattern : Text} (hpattern : pattern ≠ []) (value rest : Text) :
    replaceAll pattern value (pattern ++ rest) = value ++ replaceAll pattern value rest := by
  cases pattern with
  | nil => exact absurd rfl hpattern
  | cons c pattern =>
    have hocc : (c :: pattern).isPrefixOf (c :: (pattern ++ rest)) = true :=
      List.isPrefixOf_iff_prefix.2 ⟨rest, rfl⟩
    unfold replaceAll
    rw [List.cons_append, replaceAll.go]
    simp only [hocc, if_true]
    rw [replaceAll_go_eq]
    have htail := replaceAll_go_append (c :: pattern) value pattern rest
    simp only [List.length_cons, Nat.add_sub_cancel, htail]
    simp [List.reverseAux_eq]
    rfl

/-- Where no occurrence begins, a character is kept. -/
theorem replaceAll_cons {pattern rest : Text} {c : Char} (value : Text)
    (h : ¬ pattern <+: c :: rest) :
    replaceAll pattern value (c :: rest) = c :: replaceAll pattern value rest := by
  have hocc : pattern.isPrefixOf (c :: rest) = false := by
    rw [Bool.eq_false_iff]
    exact fun hocc => h (List.isPrefixOf_iff_prefix.1 hocc)
  unfold replaceAll
  rw [replaceAll.go]
  simp only [hocc]
  rw [if_neg (by simp), replaceAll_go_eq]
  rfl

end ChartScript.Text
