import ChartScript.Proofs.SourceLines

/-!
# The lines of a file by their numbers

A file is cut at its line feeds, and the number of a piece is one more than the number of line
feeds in front of it.  A piece is a line of the file if it holds more than a comment once the
blanks, tabs and carriage returns at its end are gone.  What is left out leaves a gap in the
numbers, and written to a file of their own the lines close the gaps and stay what they are.
-/

namespace ChartScript

/-! ## Pieces and their numbers -/

/-- The piece of a list between two separators that follow each other, or between one of them
and an end of the list.  Pieces are counted from 1 by the separators in front of them. -/
structure NthPiece {α : Type} [BEq α] (separator : α) (list : List α) (number : Nat)
    (piece : List α) : Prop where
  exists_around : ∃ before after, list = before ++ (piece ++ after) ∧
    (∀ x, before.getLast? = some x → x = separator) ∧
    (∀ x, after.head? = some x → x = separator) ∧ number = before.count separator + 1
  not_mem : separator ∉ piece

section

variable {α : Type} [BEq α] [LawfulBEq α] {separator : α} {list piece : List α} {number : Nat}

/-- A list is one piece, or a piece and what stands behind its separator. -/
theorem pieces_induction (separator : α) {motive : List α → Prop}
    (last : ∀ piece, separator ∉ piece → motive piece)
    (more : ∀ piece rest, separator ∉ piece → motive rest → motive (piece ++ separator :: rest))
    (list : List α) : motive list := by
  induction hlength : list.length using Nat.strong_induction_on generalizing list with
  | _ length ih =>
      by_cases hmem : separator ∈ list
      · obtain ⟨piece, rest, rfl, hpiece⟩ := List.eq_append_cons_of_mem hmem
        apply more piece rest hpiece
        apply ih rest.length ?_ rest rfl
        rw [← hlength, List.length_append, List.length_cons]
        omega
      · exact last list hmem

theorem length_splitOn (list : List α) :
    (list.splitOn separator).length = list.count separator + 1 := by
  induction list using pieces_induction separator with
  | last piece hpiece =>
      rw [List.splitOn_eq_singleton hpiece, List.count_eq_zero_of_not_mem hpiece]
      rfl
  | more piece rest hpiece ih =>
      rw [List.splitOn_append_cons_self_of_not_mem hpiece, List.length_cons, ih, List.count_append,
        List.count_eq_zero_of_not_mem hpiece, List.count_cons_self, Nat.zero_add]

theorem exists_splitOn_append
    (hpiece : separator ∉ piece) {after : List α}
    (hafter : ∀ x, after.head? = some x → x = separator) :
    ∃ others, (piece ++ after).splitOn separator = piece :: others := by
  cases after with
  | nil =>
      rw [List.append_nil]
      exact ⟨[], List.splitOn_eq_singleton hpiece⟩
  | cons x after =>
      obtain rfl := hafter x rfl
      exact ⟨after.splitOn x, List.splitOn_append_cons_self_of_not_mem hpiece after⟩

theorem NthPiece.getElem?_splitOn (hpiece : NthPiece separator list number piece) :
    1 ≤ number ∧ (list.splitOn separator)[number - 1]? = some piece := by
  obtain ⟨⟨before, after, rfl, hbefore, hafter, rfl⟩, hnot⟩ := hpiece
  obtain ⟨others, hsplit⟩ := exists_splitOn_append hnot hafter
  refine ⟨Nat.le_add_left 1 _, ?_⟩
  rw [Nat.add_sub_cancel]
  rcases List.eq_nil_or_concat' before with rfl | ⟨front, x, rfl⟩
  · rw [List.nil_append, hsplit]
    rfl
  · obtain rfl := hbefore x List.getLast?_concat
    have hcount : (front ++ [x]).count x = (front.splitOn x).length := by
      rw [length_splitOn, List.count_append, List.count_singleton_self]
    rw [List.append_assoc, List.singleton_append, List.splitOn_append_cons_self, hsplit, hcount,
      List.getElem?_append_right (Nat.le_refl _), Nat.sub_self]
    rfl

theorem NthPiece.behind
    {first : List α} (hfirst : separator ∉ first) (hpiece : NthPiece separator list number piece) :
    NthPiece separator (first ++ separator :: list) (number + 1) piece := by
  obtain ⟨⟨before, after, rfl, hbefore, hafter, rfl⟩, hnot⟩ := hpiece
  refine ⟨⟨first ++ separator :: before, after, by simp, ?_, hafter, ?_⟩, hnot⟩
  · intro x hx
    rw [List.getLast?_append_of_ne_nil _ (List.cons_ne_nil _ _)] at hx
    cases before with
    | nil => exact (Option.some.inj hx).symm
    | cons y before => exact hbefore x hx
  · rw [List.count_append, List.count_eq_zero_of_not_mem hfirst, List.count_cons_self,
      Nat.zero_add]

theorem NthPiece.of_getElem?_splitOn {index : Nat}
    (hpiece : (list.splitOn separator)[index]? = some piece) :
    NthPiece separator list (index + 1) piece := by
  induction list using pieces_induction separator generalizing index with
  | last whole hwhole =>
      rw [List.splitOn_eq_singleton hwhole] at hpiece
      cases index with
      | succ index => cases hpiece
      | zero =>
          obtain rfl := Option.some.inj hpiece
          exact ⟨⟨[], [], by simp, nofun, nofun, rfl⟩, hwhole⟩
  | more first rest hfirst ih =>
      rw [List.splitOn_append_cons_self_of_not_mem hfirst] at hpiece
      cases index with
      | succ index => exact (ih hpiece).behind hfirst
      | zero =>
          obtain rfl := Option.some.inj hpiece
          refine ⟨⟨[], separator :: rest, rfl, nofun, ?_, rfl⟩, hfirst⟩
          exact fun x hx => (Option.some.inj hx).symm

theorem nthPiece_iff :
    NthPiece separator list number piece ↔
      (piece, number) ∈ (list.splitOn separator).zipIdx 1 := by
  rw [List.mk_mem_zipIdx_iff_le_and_getElem?_sub]
  constructor
  · exact NthPiece.getElem?_splitOn
  · rintro ⟨hnumber, hpiece⟩
    have hnth := NthPiece.of_getElem?_splitOn hpiece
    rwa [Nat.sub_add_cancel hnumber] at hnth

end

/-! ## Lines -/

namespace SourceLine

/-- What is left of a piece of a file: all of it but a longest run of blanks, tabs and carriage
returns at its end, if that is something and begins no comment. -/
structure Keeps (piece text : Text) : Prop where
  exists_end : ∃ back, piece = text ++ back ∧ ∀ c ∈ back, c ∈ [' ', '\t', '\r']
  last_not_mem : ∀ c, text.getLast? = some c → c ∉ [' ', '\t', '\r']
  ne_nil : text ≠ []
  not_dashes : ¬ ['-', '-'] <+: text
  not_hash : ¬ ['#'] <+: text

theorem isLineEnd_iff {c : Char} : isLineEnd c = true ↔ c ∈ [' ', '\t', '\r'] := by
  simp [isLineEnd, or_assoc]

theorem isComment_iff {text : Text} :
    isComment text = true ↔ ['-', '-'] <+: text ∨ ['#'] <+: text := by
  unfold isComment
  split
  · simp
  · simp
  · next hdashes hhash =>
      simp only [Bool.false_eq_true, false_iff, not_or]
      constructor
      · rintro ⟨rest, rfl⟩
        exact hdashes rest rfl
      · rintro ⟨rest, rfl⟩
        exact hhash rest rfl

theorem keeps_iff {piece text : Text} :
    Keeps piece text ↔
      piece.dropEndWhile isLineEnd = text ∧ text ≠ [] ∧ isComment text = false := by
  rw [Text.dropEndWhile_eq_iff, Bool.eq_false_iff, ne_eq (isComment text), isComment_iff, not_or]
  simp only [isLineEnd_iff, Bool.eq_false_iff, ne_eq]
  constructor
  · rintro ⟨hback, hlast, hne, hdashes, hhash⟩
    exact ⟨⟨hback, hlast⟩, hne, hdashes, hhash⟩
  · rintro ⟨⟨hback, hlast⟩, hne, hdashes, hhash⟩
    exact ⟨hback, hlast, hne, hdashes, hhash⟩

theorem mem_ofContent_iff {content : Text} {line : SourceLine} :
    line ∈ ofContent content ↔
      ∃ piece, NthPiece '\n' content line.number piece ∧ Keeps piece line.text := by
  unfold ofContent
  rw [List.mem_filterMap]
  constructor
  · rintro ⟨⟨piece, number⟩, hpiece, hline⟩
    obtain ⟨rfl, hkept⟩ := ofPiece?_eq_some_iff.1 hline
    exact ⟨piece, nthPiece_iff.2 hpiece, keeps_iff.2 ⟨rfl, hkept⟩⟩
  · rintro ⟨piece, hpiece, hkeeps⟩
    obtain ⟨htext, hkept⟩ := keeps_iff.1 hkeeps
    refine ⟨(piece, line.number), nthPiece_iff.1 hpiece, ofPiece?_eq_some_iff.2 ⟨?_, hkept⟩⟩
    rw [htext]

/-- The lines of a file are what is left of its pieces, with the numbers of the pieces and in
their order.  Written to a file of their own they are the same lines without gaps. -/
theorem ofContent_keepsLines (content : Text) :
    (ofContent content).Pairwise (fun line later => line.number < later.number) ∧
      (∀ number text, ⟨number, text⟩ ∈ ofContent content ↔
        ∃ piece, NthPiece '\n' content number piece ∧ Keeps piece text) ∧
      ofContent (['\n'].intercalate ((ofContent content).map SourceLine.text)) =
        (((ofContent content).map SourceLine.text).zipIdx 1).map
          fun (text, number) => ⟨number, text⟩ := by
  refine ⟨pairwise_ofContent content, fun number text => mem_ofContent_iff, ?_⟩
  apply ofContent_of_isLine
  intro text htext
  obtain ⟨line, hline, rfl⟩ := List.mem_map.1 htext
  exact isLine_of_mem_ofContent hline

end SourceLine

end ChartScript
