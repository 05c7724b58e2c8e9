import ChartScript.Proofs.WrittenDefinitions
import ChartScript.Range

/-!
# Numbers and bounds as people write them

A number may be written with a plus sign and with leading zeros, and white space may surround
the bounds of a range.  The reader of signed numbers accepts a text exactly if it spells a
number in its range, and the reader of the bounds finds the two numbers wherever the white
space and the comma leave them.
-/

namespace ChartScript

/-! ## Numbers -/

namespace Decimal

/-- At least one ASCII digit, and nothing else. -/
def IsDigits (digits : Text) : Prop := digits ≠ [] ∧ ∀ c ∈ digits, c.isDigit = true

/-- A sign, if there is one, and ASCII digits spell a number. -/
inductive Spells : Text → Int → Prop
  | plain {digits : Text} (hdigits : IsDigits digits) :
      Spells digits (Nat.ofDigitChars 10 digits 0 : Nat)
  | plus {digits : Text} (hdigits : IsDigits digits) :
      Spells ('+' :: digits) (Nat.ofDigitChars 10 digits 0 : Nat)
  | minus {digits : Text} (hdigits : IsDigits digits) :
      Spells ('-' :: digits) (-(Nat.ofDigitChars 10 digits 0 : Nat))

theorem nat?_eq_some_iff {digits : Text} {n : Nat} :
    nat? digits = some n ↔ IsDigits digits ∧ Nat.ofDigitChars 10 digits 0 = n := by
  unfold nat? IsDigits
  simp

theorem nat?_eq_some {digits : Text} (hdigits : IsDigits digits) :
    nat? digits = some (Nat.ofDigitChars 10 digits 0) :=
  nat?_eq_some_iff.2 ⟨hdigits, rfl⟩

theorem isDigits_ofNat (n : Nat) : IsDigits (ofNat n) :=
  ⟨ofNat_ne_nil n, fun _ hc => isDigit_of_mem_ofNat hc⟩

theorem IsDigits.ne_cons {digits : Text} (hdigits : IsDigits digits) {c : Char}
    (hc : c.isDigit = false) (rest : Text) : digits ≠ c :: rest := by
  rintro rfl
  exact ne_of_isDigit (hdigits.2 c List.mem_cons_self) hc rfl

theorem below?_eq_some_iff {limit n : Nat} {digits : Text} (hplus : '+' ∉ digits) :
    below? limit digits = some n ↔
      IsDigits digits ∧ Nat.ofDigitChars 10 digits 0 = n ∧ n < limit := by
  unfold below?
  rw [Option.filter_eq_some_iff, decide_eq_true_iff, ← and_assoc]
  refine and_congr_left fun _ => ?_
  split
  · exact absurd List.mem_cons_self hplus
  · exact nat?_eq_some_iff

/-- A number is read exactly if it is spelled and in the range that is asked for. -/
theorem between?_eq_some_iff {low high n : Int} {text : Text} :
    between? low high text = some n ↔ Spells text n ∧ low ≤ n ∧ n ≤ high := by
  unfold between?
  rw [Option.filter_eq_some_iff]
  simp only [Bool.and_eq_true, decide_eq_true_eq]
  refine and_congr_left fun _ => ⟨fun hread => ?_, fun hspells => ?_⟩
  · split at hread
    · obtain ⟨k, hk, rfl⟩ := Option.map_eq_some_iff.1 hread
      obtain ⟨m, hm, heq⟩ := Option.bind_eq_some_iff.1 hk
      obtain ⟨hdigits, rfl⟩ := nat?_eq_some_iff.1 hm
      obtain rfl := Option.some.inj heq
      exact .minus hdigits
    · obtain ⟨m, hm, rfl⟩ := Option.map_eq_some_iff.1 hread
      obtain ⟨hdigits, rfl⟩ := nat?_eq_some_iff.1 hm
      exact .plus hdigits
    · obtain ⟨m, hm, rfl⟩ := Option.map_eq_some_iff.1 hread
      obtain ⟨hdigits, rfl⟩ := nat?_eq_some_iff.1 hm
      exact .plain hdigits
  · cases hspells with
    | plain hdigits =>
        split
        · exact absurd rfl (hdigits.ne_cons (by decide : '-'.isDigit = false) _)
        · exact absurd rfl (hdigits.ne_cons (by decide : '+'.isDigit = false) _)
        · rw [nat?_eq_some hdigits]
          rfl
    | plus hdigits =>
        simp only [nat?_eq_some hdigits]
        rfl
    | minus hdigits =>
        simp only [nat?_eq_some hdigits]
        rfl

namespace Spells

theorem ofInt (n : Int) : Spells (ofInt n) n :=
  (between?_eq_some_iff.1 (between?_ofInt (Int.le_refl n) (Int.le_refl n))).1

variable {text : Text} {n : Int}

theorem unique (hspells : Spells text n) {m : Int} (hother : Spells text m) : n = m := by
  have hn : between? (min n m) (max n m) text = some n :=
    between?_eq_some_iff.2 ⟨hspells, Int.min_le_left n m, Int.le_max_left n m⟩
  have hm : between? (min n m) (max n m) text = some m :=
    between?_eq_some_iff.2 ⟨hother, Int.min_le_right n m, Int.le_max_right n m⟩
  exact Option.some.inj (hn.symm.trans hm)

theorem ne_nil (hspells : Spells text n) : text ≠ [] := by
  cases hspells with
  | plain hdigits => exact hdigits.1
  | plus => exact List.cons_ne_nil _ _
  | minus => exact List.cons_ne_nil _ _

theorem isDigit_or_sign (hspells : Spells text n) :
    ∀ c ∈ text, c.isDigit = true ∨ c = '+' ∨ c = '-' := by
  intro c hc
  cases hspells with
  | plain hdigits => exact .inl (hdigits.2 c hc)
  | plus hdigits =>
      rcases List.mem_cons.1 hc with rfl | hc
      · exact .inr (.inl rfl)
      · exact .inl (hdigits.2 c hc)
  | minus hdigits =>
      rcases List.mem_cons.1 hc with rfl | hc
      · exact .inr (.inr rfl)
      · exact .inl (hdigits.2 c hc)

theorem not_white (hspells : Spells text n) : ∀ c ∈ text, Text.isWhite c = false := by
  intro c hc
  rcases hspells.isDigit_or_sign c hc with hdigit | rfl | rfl
  · exact isWhite_of_isDigit hdigit
  · decide
  · decide

theorem trimStart_append (hspells : Spells text n) (rest : Text) :
    Text.trimStart (text ++ rest) = text ++ rest := by
  apply Text.trimStart_eq_self
  intro c hc
  rw [List.head?_append_of_ne_nil _ hspells.ne_nil] at hc
  exact hspells.not_white c (List.mem_of_head? hc)

end Spells

/-! ## The shortest spelling -/

theorem digitChar_of_isDigit {c : Char} (hc : c.isDigit = true) :
    Nat.digitChar (c.toNat - 48) = c := by
  have hbounds := toNat_of_isDigit hc
  have hdigit := Nat.toNat_digitChar_of_lt_ten (by omega : c.toNat - 48 < 10)
  rw [← Char.toNat_inj, hdigit]
  omega

/-- Digits are the text of their value with zeros in front.  The induction is from the last digit:
a value below ten has zeros in front of that digit, and a larger one leaves digits of a quotient
that is not zero. -/
theorem IsDigits.exists_zeros {digits : Text} (hdigits : IsDigits digits) :
    ∃ zeros, digits = List.replicate zeros '0' ++ ofNat (Nat.ofDigitChars 10 digits 0) := by
  obtain ⟨hne, hall⟩ := hdigits
  induction digits using List.reverseRecOn with
  | nil => exact absurd rfl hne
  | append_singleton digits c ih =>
      have hdigit := hall c (List.mem_append_right digits List.mem_cons_self)
      have hc := toNat_of_isDigit hdigit
      have hchar := digitChar_of_isDigit hdigit
      have hzero : '0'.toNat = 48 := rfl
      have hfront : ∀ d ∈ digits, d.isDigit = true := fun d hd =>
        hall d (List.mem_append_left [c] hd)
      rw [Nat.ofDigitChars_append, Nat.ofDigitChars_cons, Nat.ofDigitChars_nil, hzero]
      unfold ofNat at ih ⊢
      rw [Nat.toDigits_eq_if (by decide)]
      split
      · next hsmall =>
        have hvalue : Nat.ofDigitChars 10 digits 0 = 0 := by omega
        rw [hvalue, Nat.mul_zero, Nat.zero_add, hchar]
        by_cases hrest : digits = []
        · exact ⟨0, by rw [hrest]; rfl⟩
        · obtain ⟨zeros, hzeros⟩ := ih hrest hfront
          rw [hvalue] at hzeros
          refine ⟨zeros + 1, ?_⟩
          rw [hzeros, List.replicate_succ']
          rfl
      · next hlarge =>
        have hquotient : (10 * Nat.ofDigitChars 10 digits 0 + (c.toNat - 48)) / 10 =
            Nat.ofDigitChars 10 digits 0 := by omega
        have hremainder : (10 * Nat.ofDigitChars 10 digits 0 + (c.toNat - 48)) % 10 =
            c.toNat - 48 := by omega
        have hrest : digits ≠ [] := by
          rintro rfl
          rw [Nat.ofDigitChars_nil] at hlarge
          omega
        obtain ⟨zeros, hzeros⟩ := ih hrest hfront
        refine ⟨zeros, ?_⟩
        rw [hquotient, hremainder, hchar, ← List.append_assoc, ← hzeros]

theorem IsDigits.length_ofNat_le {digits : Text} (hdigits : IsDigits digits) :
    (ofNat (Nat.ofDigitChars 10 digits 0)).length ≤ digits.length := by
  obtain ⟨zeros, heq⟩ := hdigits.exists_zeros
  have hlength := congrArg List.length heq
  rw [List.length_append] at hlength
  omega

/-- Only the number zero is written with a zero in front, and then nothing follows it. -/
theorem eq_nil_of_ofNat_eq_cons {n : Nat} {rest : Text} (heq : ofNat n = '0' :: rest) :
    rest = [] := by
  by_contra hrest
  have hdigits : IsDigits rest := by
    refine ⟨hrest, fun c hc => isDigit_of_mem_ofNat (n := n) ?_⟩
    rw [heq]
    exact List.mem_cons_of_mem '0' hc
  have hvalue : Nat.ofDigitChars 10 rest 0 = n := by
    rw [← (nat?_eq_some_iff.1 (nat?_ofNat n)).2, heq, Nat.ofDigitChars_cons]
    rfl
  have hlength := hdigits.length_ofNat_le
  rw [hvalue, heq, List.length_cons] at hlength
  omega

/-- Among the spellings of a number, the text is as short as any. -/
def Shortest (text : Text) (n : Int) : Prop :=
  Spells text n ∧ ∀ other, Spells other n → text.length ≤ other.length

theorem shortest_ofInt (n : Int) : Shortest (ofInt n) n := by
  refine ⟨.ofInt n, fun other hother => ?_⟩
  cases hother with
  | plain hdigits => exact hdigits.length_ofNat_le
  | plus hdigits => exact Nat.le_succ_of_le hdigits.length_ofNat_le
  | minus hdigits =>
      have hlength := hdigits.length_ofNat_le
      cases hvalue : Nat.ofDigitChars 10 _ 0 with
      | zero =>
          rw [hvalue] at hlength
          exact Nat.le_succ_of_le hlength
      | succ value =>
          rw [hvalue] at hlength
          exact Nat.succ_le_succ hlength

theorem isAnyDigit_of_isWhite {c : Char} (hc : Text.isWhite c = true) : isAnyDigit c = false := by
  have hcodes : c.toNat ∈ [0x9, 0xA, 0xB, 0xC, 0xD, 0x20, 0x85, 0xA0, 0x1680, 0x2000, 0x2001,
      0x2002, 0x2003, 0x2004, 0x2005, 0x2006, 0x2007, 0x2008, 0x2009, 0x200A, 0x2028, 0x2029,
      0x202F, 0x205F, 0x3000] := by
    simp [Text.isWhite] at hc
    simp only [List.mem_cons, List.not_mem_nil, or_false]
    omega
  unfold isAnyDigit
  generalize c.toNat = code at hcodes
  revert code
  decide

/-- No digit comes first, ASCII or other. -/
def EndsNumber (rest : Text) : Prop := ∀ c, rest.head? = some c → isAnyDigit c = false

theorem endsNumber_nil : EndsNumber [] := by
  intro c hc
  cases hc

theorem endsNumber_cons {c : Char} (hc : isAnyDigit c = false) (rest : Text) :
    EndsNumber (c :: rest) := by
  intro d hd
  obtain rfl := Option.some.inj hd
  exact hc

theorem endsNumber_append {space : Text} (hspace : space.IsSpace) {rest : Text}
    (hrest : EndsNumber rest) : EndsNumber (space ++ rest) := by
  cases space with
  | nil => exact hrest
  | cons c space =>
      exact endsNumber_cons (isAnyDigit_of_isWhite (hspace c List.mem_cons_self)) (space ++ rest)

end Decimal

namespace Range

/-! ## Bounds -/

theorem span_digits_append
    {digits rest : Text} (hdigits : Decimal.IsDigits digits) (hrest : Decimal.EndsNumber rest) :
    (digits ++ rest).takeWhile Decimal.isAnyDigit = digits ∧
      (digits ++ rest).dropWhile Decimal.isAnyDigit = rest := by
  have hall : ∀ c ∈ digits, Decimal.isAnyDigit c = true := fun c hc =>
    Decimal.isAnyDigit_of_isDigit (hdigits.2 c hc)
  rw [List.takeWhile_append_of_pos hall, List.dropWhile_append_of_pos hall]
  cases rest with
  | nil => simp
  | cons c rest => simp [hrest c rfl]

theorem takeSigned?_append
    {text rest : Text} {n : Int} (hspells : Decimal.Spells text n)
    (hrest : Decimal.EndsNumber rest) :
    takeSigned? (text ++ rest) = some (text, rest) := by
  cases hspells with
  | plus hdigits =>
      obtain ⟨htake, hdrop⟩ := span_digits_append hdigits hrest
      simp [takeSigned?, htake, hdrop, hdigits.1]
  | minus hdigits =>
      obtain ⟨htake, hdrop⟩ := span_digits_append hdigits hrest
      simp [takeSigned?, htake, hdrop, hdigits.1]
  | plain hdigits =>
      obtain ⟨htake, hdrop⟩ := span_digits_append hdigits hrest
      obtain ⟨c, digits, rfl⟩ := List.exists_cons_of_ne_nil hdigits.1
      have hdigit := hdigits.2 c List.mem_cons_self
      have hplus := Decimal.ne_of_isDigit hdigit (by decide : '+'.isDigit = false)
      have hminus := Decimal.ne_of_isDigit hdigit (by decide : '-'.isDigit = false)
      rw [List.cons_append] at htake hdrop
      simp [takeSigned?, hplus, hminus, htake, hdrop]

theorem eq_append_of_takeSigned?
    {text taken rest : Text} (htaken : takeSigned? text = some (taken, rest)) :
    text = taken ++ rest := by
  have hspan : ∀ digits : Text,
      digits.takeWhile Decimal.isAnyDigit ++ digits.dropWhile Decimal.isAnyDigit = digits :=
    fun digits => List.takeWhile_append_dropWhile
  unfold takeSigned? at htaken
  split at htaken
  · next sign digits hsign =>
    obtain ⟨_, heq⟩ := Option.ite_none_left_eq_some.1 htaken
    obtain ⟨rfl, rfl⟩ := Prod.mk.inj (Option.some.inj heq)
    rw [List.append_assoc, hspan]
    split at hsign
    · obtain ⟨rfl, rfl⟩ := Prod.mk.inj hsign
      rfl
    · obtain ⟨rfl, rfl⟩ := Prod.mk.inj hsign
      rfl
    · obtain ⟨rfl, rfl⟩ := Prod.mk.inj hsign
      rfl

/-- Two numbers with a comma between them, and white space around each. -/
inductive Spells (range : Range) : Text → Prop
  | mk {before low behind ahead high after : Text} (hbefore : before.IsSpace)
      (hlow : Decimal.Spells low range.low) (hbehind : behind.IsSpace) (hahead : ahead.IsSpace)
      (hhigh : Decimal.Spells high range.high) (hafter : after.IsSpace) :
      Spells range (before ++ (low ++ (behind ++ ',' :: (ahead ++ (high ++ after)))))

theorem boundTexts?_append
    {before low behind ahead high after : Text} {a b : Int} (hbefore : before.IsSpace)
    (hlow : Decimal.Spells low a) (hbehind : behind.IsSpace) (hahead : ahead.IsSpace)
    (hhigh : Decimal.Spells high b) (hafter : after.IsSpace) :
    boundTexts? (before ++ (low ++ (behind ++ ',' :: (ahead ++ (high ++ after))))) =
      some (low, high) := by
  have hcomma := Decimal.endsNumber_cons (by decide : Decimal.isAnyDigit ',' = false)
    (ahead ++ (high ++ after))
  have hend := Decimal.endsNumber_append hafter Decimal.endsNumber_nil
  rw [List.append_nil] at hend
  have hfirst := takeSigned?_append hlow (Decimal.endsNumber_append hbehind hcomma)
  have hsecond := takeSigned?_append hhigh hend
  have htrimmed := Text.trimStart_cons_of_not_white (by decide : Text.isWhite ',' = false)
    (ahead ++ (high ++ after))
  unfold boundTexts?
  simp only [Text.trimStart_append_of_isSpace, hbefore, hbehind, hahead, hlow.trimStart_append,
    hhigh.trimStart_append, hfirst, htrimmed, hsecond, hafter.trimStart_eq_nil, List.isEmpty_nil,
    if_true]

theorem eq_append_of_boundTexts?
    {inner low high : Text} (hbounds : boundTexts? inner = some (low, high)) :
    ∃ before behind ahead after : Text, before.IsSpace ∧ behind.IsSpace ∧ ahead.IsSpace ∧
      after.IsSpace ∧ inner = before ++ (low ++ (behind ++ ',' :: (ahead ++ (high ++ after)))) := by
  unfold boundTexts? at hbounds
  split at hbounds
  · cases hbounds
  · next first rest hfirst =>
    split at hbounds
    · next tail htail =>
      split at hbounds
      · cases hbounds
      · next second after hsecond =>
        obtain ⟨hempty, heq⟩ := Option.ite_none_right_eq_some.1 hbounds
        obtain ⟨rfl, rfl⟩ := Prod.mk.inj (Option.some.inj heq)
        obtain ⟨before, hbefore, hinner⟩ := Text.exists_isSpace_append inner
        obtain ⟨behind, hbehind, hrest⟩ := Text.exists_isSpace_append rest
        obtain ⟨ahead, hahead, hahead'⟩ := Text.exists_isSpace_append tail
        refine ⟨before, behind, ahead, after, hbefore, hbehind, hahead,
          Text.isSpace_of_trimStart_eq_nil (List.isEmpty_iff.1 hempty), ?_⟩
        rw [hinner, eq_append_of_takeSigned? hfirst, hrest, htail, hahead',
          eq_append_of_takeSigned? hsecond]
    · cases hbounds

theorem Spells.exists_boundTexts? {range : Range} {inner : Text} (hspells : range.Spells inner) :
    ∃ low high, boundTexts? inner = some (low, high) ∧
      Decimal.Spells low range.low ∧ Decimal.Spells high range.high := by
  obtain ⟨hbefore, hlow, hbehind, hahead, hhigh, hafter⟩ := hspells
  exact ⟨_, _, boundTexts?_append hbefore hlow hbehind hahead hhigh hafter, hlow, hhigh⟩

/-- A text spells the bounds of one range at most. -/
theorem Spells.unique {range other : Range} {inner : Text} (hspells : range.Spells inner)
    (hother : other.Spells inner) : range = other := by
  obtain ⟨low, high, hbounds, hlow, hhigh⟩ := hspells.exists_boundTexts?
  obtain ⟨low', high', hbounds', hlow', hhigh'⟩ := hother.exists_boundTexts?
  obtain ⟨rfl, rfl⟩ := Prod.mk.inj (Option.some.inj (hbounds.symm.trans hbounds'))
  obtain ⟨a, b⟩ := range
  obtain ⟨c, d⟩ := other
  obtain rfl : a = c := hlow.unique hlow'
  obtain rfl : b = d := hhigh.unique hhigh'
  rfl

theorem Spells.not_mem
    {range : Range} {inner : Text} (hspells : range.Spells inner) {c : Char}
    (hwhite : Text.isWhite c = false) (hdigit : c.isDigit = false)
    (hsign : c ∉ ['+', '-', ',']) :
    c ∉ inner := by
  simp only [List.mem_cons, List.not_mem_nil, or_false, not_or] at hsign
  have hspace : ∀ text : Text, text.IsSpace → c ∉ text := by
    intro text htext hc
    rw [htext c hc] at hwhite
    cases hwhite
  have hnumber : ∀ (text : Text) (n : Int), Decimal.Spells text n → c ∉ text := by
    intro text n htext hc
    rcases htext.isDigit_or_sign c hc with hyes | hplus | hminus
    · rw [hyes] at hdigit
      cases hdigit
    · exact hsign.1 hplus
    · exact hsign.2.1 hminus
  obtain ⟨hbefore, hlow, hbehind, hahead, hhigh, hafter⟩ := hspells
  simp only [List.mem_append, List.mem_cons, not_or]
  exact ⟨hspace _ hbefore, hnumber _ _ hlow, hspace _ hbehind, hsign.2.2, hspace _ hahead,
    hnumber _ _ hhigh, hspace _ hafter⟩

end Range

end ChartScript
