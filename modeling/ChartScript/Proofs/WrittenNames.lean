import ChartScript.Proofs.TokenText
import ChartScript.QualifiedName

/-!
# Numbers and qualified names are read back

A number that is written in decimal is read back by every reader whose range holds it.  The
text of a qualified name is taken apart at its first colon, since the digits in front of it
hold none.  A name can be read back if it is not empty and holds no line feed; these are the
names that reading a text can give.
-/

namespace ChartScript

namespace Decimal

theorem toNat_of_isDigit {c : Char} (hc : c.isDigit = true) :
    48 ≤ c.toNat ∧ c.toNat ≤ 57 := by
  simp only [Char.isDigit, Bool.and_eq_true, decide_eq_true_eq] at hc
  exact hc

theorem ne_of_isDigit {c other : Char} (hc : c.isDigit = true)
    (hother : other.isDigit = false) : c ≠ other := by
  intro heq
  rw [heq, hother] at hc
  cases hc

theorem isWhite_of_isDigit {c : Char} (hc : c.isDigit = true) : Text.isWhite c = false := by
  have hbounds := toNat_of_isDigit hc
  unfold Text.isWhite
  simp
  omega

theorem isBlank_of_isDigit {c : Char} (hc : c.isDigit = true) : Text.isBlank c = false :=
  Text.isBlank_of_not_white (isWhite_of_isDigit hc)

theorem isAnyDigit_of_isDigit {c : Char} (hc : c.isDigit = true) : isAnyDigit c = true := by
  have hbounds := toNat_of_isDigit hc
  unfold isAnyDigit zeros
  rw [List.any_cons]
  have hfirst : (decide (0x30 ≤ c.toNat) && decide (c.toNat ≤ 0x30 + 9)) = true := by
    simp
    omega
  rw [hfirst, Bool.true_or]

theorem isBlank_of_isAnyDigit {c : Char} (hc : isAnyDigit c = true) : Text.isBlank c = false := by
  cases hblank : Text.isBlank c with
  | false => rfl
  | true =>
      have hspace : isAnyDigit ' ' = false := by decide
      have htab : isAnyDigit '\t' = false := by decide
      rcases (by simpa [Text.isBlank] using hblank : c = ' ' ∨ c = '\t') with rfl | rfl
      · exact hc.symm.trans hspace
      · exact hc.symm.trans htab

theorem not_mem_ofNat {c : Char} (hc : c.isDigit = false) (n : Nat) : c ∉ ofNat n :=
  fun hmem => ne_of_isDigit (isDigit_of_mem_ofNat hmem) hc rfl

theorem not_mem_ofInt {c : Char} (hc : c.isDigit = false) (hminus : c ≠ '-') (n : Int) :
    c ∉ ofInt n := by
  intro hmem
  rcases isDigit_or_minus_of_mem_ofInt hmem with hdigit | heq
  · exact ne_of_isDigit hdigit hc rfl
  · exact hminus heq

theorem exists_ofNat_eq_cons (n : Nat) : ∃ c digits, ofNat n = c :: digits ∧ c.isDigit = true := by
  obtain ⟨c, digits, heq⟩ := List.exists_cons_of_ne_nil (ofNat_ne_nil n)
  exact ⟨c, digits, heq, isDigit_of_mem_ofNat (heq ▸ List.mem_cons_self)⟩

/-- A written natural number begins with no sign. -/
theorem ofNat_ne_cons {n : Nat} {c : Char} (hc : c.isDigit = false) (rest : Text) :
    ofNat n ≠ c :: rest := by
  intro heq
  exact not_mem_ofNat hc n (heq ▸ List.mem_cons_self)

theorem below?_ofNat {limit n : Nat} (hn : n < limit) :
    below? limit (ofNat n) = some n := by
  unfold below?
  split
  · next digits heq => exact absurd heq (ofNat_ne_cons (by decide) digits)
  · rw [nat?_ofNat]
    simpa using hn

theorem lt_of_below?_eq_some {limit n : Nat} {text : Text}
    (hread : below? limit text = some n) : n < limit := by
  unfold below? at hread
  have hfilter := (Option.filter_eq_some_iff.1 hread).2
  simpa using hfilter

theorem between?_ofInt {low high n : Int} (hlow : low ≤ n) (hhigh : n ≤ high) :
    between? low high (ofInt n) = some n := by
  have hrange : (decide (low ≤ n) && decide (n ≤ high)) = true := by simp [hlow, hhigh]
  cases n with
  | negSucc n =>
      unfold between? ofInt
      simp only [nat?_ofNat]
      exact Option.filter_eq_some_iff.2 ⟨rfl, hrange⟩
  | ofNat n =>
      unfold between?
      split
      · next digits heq => exact absurd heq (ofNat_ne_cons (by decide) digits)
      · next digits heq => exact absurd heq (ofNat_ne_cons (by decide) digits)
      · unfold ofInt
        simp only [nat?_ofNat, Option.map_some]
        exact Option.filter_eq_some_iff.2 ⟨rfl, hrange⟩

theorem bounds_of_between?_eq_some {low high n : Int} {text : Text}
    (hread : between? low high text = some n) : low ≤ n ∧ n ≤ high := by
  unfold between? at hread
  have hfilter := (Option.filter_eq_some_iff.1 hread).2
  simpa using hfilter

end Decimal

namespace QualifiedName

/-- Digits of any script, a colon, and a name that is not empty and holds no line feed. -/
theorem split?_eq_some_iff {text digits name : Text} :
    split? text = some (digits, name) ↔
      text = digits ++ ':' :: name ∧ digits ≠ [] ∧
        (∀ c ∈ digits, Decimal.isAnyDigit c = true) ∧ name ≠ [] ∧ '\n' ∉ name := by
  constructor
  · intro hsplit
    unfold split? at hsplit
    simp only at hsplit
    split at hsplit
    · next after hafter =>
        split at hsplit
        · cases hsplit
        · next hnot =>
            obtain ⟨rfl, rfl⟩ := by simpa using hsplit
            simp only [Bool.or_eq_true, List.isEmpty_iff, List.contains_iff_mem, not_or] at hnot
            refine ⟨?_, hnot.1.1, ?_, hnot.1.2, hnot.2⟩
            · rw [← hafter, List.takeWhile_append_dropWhile]
            · intro c hc
              exact List.mem_takeWhile_imp hc
    · cases hsplit
  · rintro ⟨rfl, hdigits, hall, hname, hfeed⟩
    have hcolon : Decimal.isAnyDigit ':' = false := by decide
    unfold split?
    rw [List.takeWhile_append_of_pos hall, List.dropWhile_append_of_pos hall]
    simp [hcolon, hdigits, hname, hfeed]

theorem isQualified_iff {text : Text} :
    isQualified text = true ↔
      ∃ digits name, text = digits ++ ':' :: name ∧ digits ≠ [] ∧
        (∀ c ∈ digits, Decimal.isAnyDigit c = true) ∧ name ≠ [] ∧ '\n' ∉ name := by
  unfold isQualified
  rw [Option.isSome_iff_exists]
  constructor
  · rintro ⟨⟨digits, name⟩, hsplit⟩
    exact ⟨digits, name, split?_eq_some_iff.1 hsplit⟩
  · rintro ⟨digits, name, hshape⟩
    exact ⟨(digits, name), split?_eq_some_iff.2 hshape⟩

/-- The names that can be read. -/
structure Readable (q : QualifiedName) : Prop where
  dataset_lt : q.dataset < Decimal.wordLimit
  name_ne_nil : q.name ≠ []
  no_lineFeed : '\n' ∉ q.name

theorem split?_text {q : QualifiedName} (hname : q.name ≠ []) (hfeed : '\n' ∉ q.name) :
    split? q.text = some (Decimal.ofNat q.dataset, q.name) := by
  rw [split?_eq_some_iff]
  refine ⟨rfl, Decimal.ofNat_ne_nil _, ?_, hname, hfeed⟩
  intro c hc
  exact Decimal.isAnyDigit_of_isDigit (Decimal.isDigit_of_mem_ofNat hc)

theorem isQualified_text {q : QualifiedName} (hname : q.name ≠ []) (hfeed : '\n' ∉ q.name) :
    isQualified q.text = true := by
  unfold isQualified
  rw [split?_text hname hfeed]
  rfl

/-- A readable name is read from its text. -/
theorem Readable.parse?_text {q : QualifiedName} (hq : q.Readable) : parse? q.text = some q := by
  unfold parse?
  rw [split?_text hq.name_ne_nil hq.no_lineFeed]
  simp only [Decimal.below?_ofNat hq.dataset_lt, Option.map_some]

/-- What is read is readable, and its name ends the text. -/
theorem readable_of_parse? {text : Text} {q : QualifiedName} (hparse : parse? text = some q) :
    q.Readable ∧ q.name <:+ text := by
  unfold parse? at hparse
  split at hparse
  · next digits name hsplit =>
      obtain ⟨dataset, hread, rfl⟩ := Option.map_eq_some_iff.1 hparse
      obtain ⟨htext, _, _, hname, hfeed⟩ := split?_eq_some_iff.1 hsplit
      refine ⟨⟨Decimal.lt_of_below?_eq_some hread, hname, hfeed⟩, ?_⟩
      rw [htext]
      exact ⟨digits ++ [':'], by simp⟩
  · cases hparse

/-- The text of a name begins with a digit. -/
theorem exists_text_eq_cons (q : QualifiedName) :
    ∃ c rest, q.text = c :: rest ∧ c.isDigit = true := by
  obtain ⟨c, rest, hdigits, hc⟩ := Decimal.exists_ofNat_eq_cons q.dataset
  unfold text
  rw [hdigits]
  exact ⟨c, rest ++ ':' :: q.name, rfl, hc⟩

theorem not_white_of_head?_text (q : QualifiedName) :
    ∀ c, q.text.head? = some c → Text.isWhite c = false := by
  obtain ⟨c, rest, htext, hdigit⟩ := exists_text_eq_cons q
  rw [htext]
  intro first hfirst
  obtain rfl := Option.some.inj hfirst
  exact Decimal.isWhite_of_isDigit hdigit

theorem text_ne_nil (q : QualifiedName) : q.text ≠ [] := by
  obtain ⟨c, rest, htext, _⟩ := exists_text_eq_cons q
  rw [htext]
  simp

/-- What is neither a digit nor the colon is in the text only if it is in the name. -/
theorem not_mem_text
    {q : QualifiedName} {c : Char} (hdigit : c.isDigit = false) (hcolon : c ≠ ':')
    (hname : c ∉ q.name) :
    c ∉ q.text := by
  intro hmem
  unfold text at hmem
  rcases List.mem_append.1 hmem with hmem | hmem
  · exact Decimal.not_mem_ofNat hdigit q.dataset hmem
  · rcases List.mem_cons.1 hmem with hc | hmem
    · exact hcolon hc
    · exact hname hmem

end QualifiedName

end ChartScript
