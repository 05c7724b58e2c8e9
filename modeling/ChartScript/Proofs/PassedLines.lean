import ChartScript.Directive
import ChartScript.Proofs.Substitution
import ChartScript.Proofs.WrittenDefinitions

/-!
# Lines that are passed through

A line without a keyword is passed through, without the white space in front of it.  Written
to a file again it is the same line, unless it begins a comment now: a comment begins in the
first column, and trimming moves the text there.

Trimming removes all white space, while a token ends at blanks and tabs only.  So a line that
begins with other white space can hold a keyword that does not count, or nothing at all, until
it is trimmed.
-/

namespace ChartScript

namespace SourceLine

/-- Trimming a line leaves a line, unless nothing is left or it begins a comment now. -/
theorem IsLine.trimStart_iff {text : Text} (hline : IsLine text) :
    IsLine text.trimStart ↔ text.trimStart ≠ [] ∧ isComment text.trimStart = false := by
  have hsuffix := text.trimStart_suffix
  constructor
  · exact fun htrimmed => ⟨htrimmed.ne_nil, htrimmed.not_comment⟩
  · rintro ⟨hne, hcomment⟩
    refine ⟨fun hfeed => hline.no_lineFeed (hsuffix.subset hfeed), hne, hcomment, ?_⟩
    intro c hc
    obtain ⟨margin, htext⟩ := hsuffix
    have hlast := List.getLast?_append_of_ne_nil margin hne
    rw [htext, hc] at hlast
    exact hline.last_not_lineEnd c hlast

/-- A line of blanks and tabs would have been cut to nothing at its end. -/
theorem IsLine.trimStart_ne_nil
    {text : Text} (hline : IsLine text) (hmargin : text.BlankMargin) :
    text.trimStart ≠ [] := by
  intro hnil
  rw [Text.trimStart_of_blankMargin hmargin] at hnil
  obtain ⟨c, hc⟩ := Option.ne_none_iff_exists'.1 (mt List.getLast?_eq_none_iff.1 hline.ne_nil)
  have hblank := List.dropWhile_eq_nil_iff.1 hnil c (List.mem_of_getLast? hc)
  have hend := hline.last_not_lineEnd c hc
  rw [isLineEnd_eq, hblank] at hend
  cases hend

end SourceLine

namespace Directive

theorem isPassthrough_of_ofAddTokens
    {words : List Text} {directive : Directive} (hread : ofAddTokens words = .ok directive) :
    directive.isPassthrough = false := by
  unfold ofAddTokens ofSeriesTokens at hread
  split at hread
  · cases hread
  · split at hread
    · obtain rfl := Except.ok.inj hread
      rfl
    · split at hread
      · split at hread
        · split at hread
          · cases hread
          · split at hread
            · cases hread
            · obtain rfl := Except.ok.inj hread
              rfl
        · cases hread
      · cases hread

/-- A line is passed through if it has no keyword, and only then. -/
theorem read_eq_passthrough_iff {line : SourceLine} {text : Text} :
    read line = .ok (.passthrough text) ↔
      Keyword.ofLine line.text = .other ∧ text = line.text.trimStart := by
  unfold read
  cases hkeyword : Keyword.ofLine line.text with
  | define =>
      simp only [reduceCtorEq, false_and, iff_false]
      intro hread
      obtain ⟨definition, _, hdirective⟩ := map_eq_ok_iff.1 hread
      cases hdirective
  | add =>
      simp only [reduceCtorEq, false_and, iff_false]
      intro hread
      split at hread
      · cases hread
      · next directive hadd =>
          obtain rfl := Except.ok.inj hread
          cases isPassthrough_of_ofAddTokens hadd
  | other => simp [eq_comm]
  | list => simp
  | loop => simp
  | next => simp

/-- The text of a line that is passed through is a line that is passed through again exactly if
something is left of it, it begins no comment and has no keyword.  If blanks and tabs are the
only white space in front of the line, the comment alone decides. -/
theorem passthrough_again_iff
    {content text : Text} {line : SourceLine} (hline : line ∈ SourceLine.ofContent content)
    (hread : read line = .ok (.passthrough text)) :
    ((SourceLine.ofContent text = [⟨1, text⟩] ∧ read ⟨1, text⟩ = .ok (.passthrough text)) ↔
        text ≠ [] ∧ SourceLine.isComment text = false ∧ Keyword.ofLine text = .other) ∧
      (line.text.BlankMargin → text ≠ [] ∧ Keyword.ofLine text = .other) := by
  obtain ⟨hkeyword, rfl⟩ := read_eq_passthrough_iff.1 hread
  have hisLine := SourceLine.isLine_of_mem_ofContent hline
  have htwice := Text.trimStart_trimStart line.text
  constructor
  · rw [SourceLine.ofContent_eq_singleton_iff, hisLine.trimStart_iff, read_eq_passthrough_iff,
      htwice, and_assoc]
    simp only [and_true]
  · intro hmargin
    refine ⟨hisLine.trimStart_ne_nil hmargin, ?_⟩
    rw [Keyword.ofLine_trimStart hmargin]
    exact hkeyword

/-- A file with an indented line that has no keyword, and a comment sign inside it. -/
def indentedTitle : Text := "ADD CHART\n \tTITLE rates -- oil \r\n".toList

theorem passthrough_again_iff_indentedTitle :
    ⟨2, " \tTITLE rates -- oil".toList⟩ ∈ SourceLine.ofContent indentedTitle ∧
      read ⟨2, " \tTITLE rates -- oil".toList⟩ =
          .ok (.passthrough "TITLE rates -- oil".toList) ∧
        Text.BlankMargin " \tTITLE rates -- oil".toList ∧
          SourceLine.ofContent "TITLE rates -- oil".toList =
              [⟨1, "TITLE rates -- oil".toList⟩] ∧
            read ⟨1, "TITLE rates -- oil".toList⟩ =
              .ok (.passthrough "TITLE rates -- oil".toList) := by
  have hline : ⟨2, " \tTITLE rates -- oil".toList⟩ ∈ SourceLine.ofContent indentedTitle := by
    decide
  have hread : read ⟨2, " \tTITLE rates -- oil".toList⟩ =
      .ok (.passthrough "TITLE rates -- oil".toList) := by
    decide
  have hmargin : Text.BlankMargin " \tTITLE rates -- oil".toList := by
    intro c hc
    obtain rfl := Option.some.inj hc
    decide
  obtain ⟨hagain, hkept⟩ := passthrough_again_iff hline hread
  obtain ⟨hne, hkeyword⟩ := hkept hmargin
  exact ⟨hline, hread, hmargin, hagain.2 ⟨hne, by decide, hkeyword⟩⟩

/-- An indented comment sign is no comment, but it is one where the text begins with it. -/
theorem not_forall_passthrough_again :
    ¬ ∀ (content text : Text) (line : SourceLine), line ∈ SourceLine.ofContent content →
      read line = .ok (.passthrough text) →
        SourceLine.ofContent text = [⟨1, text⟩] ∧ read ⟨1, text⟩ = .ok (.passthrough text) := by
  intro hall
  obtain ⟨hagain, _⟩ := hall "  -- note".toList "-- note".toList ⟨1, "  -- note".toList⟩
    (by decide) (by decide)
  have hdropped : SourceLine.ofContent "-- note".toList = [] := by decide
  rw [hdropped] at hagain
  cases hagain

end Directive

end ChartScript
