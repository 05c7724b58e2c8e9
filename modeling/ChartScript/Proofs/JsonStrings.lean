import ChartScript.Json.Reader
import ChartScript.Proofs.Outcomes

/-!
# Texts are read back from JSON

A text is printed between quotes, with an escape for every character that cannot stand there as it
is.  No escape begins with a quote, so the reader takes one character after the other and stops at
the closing quote.
-/

namespace ChartScript.Json

/-! ## Characters -/

theorem hexDigit?_digitChar {n : Nat} (hn : n < 16) : hexDigit? (Nat.digitChar n) = some n := by
  have hall : ∀ k : Fin 16, hexDigit? (Nat.digitChar k) = some k.val := by decide
  exact hall ⟨n, hn⟩

theorem readHex_codeEscape {n : Nat} (hn : n < 0x20) (rest : Text) :
    readHex ('0' :: '0' :: Nat.digitChar (n / 16) :: Nat.digitChar (n % 16) :: rest) =
      some (n, rest) := by
  have hzero : hexDigit? '0' = some 0 := by decide
  have hhigh := hexDigit?_digitChar (show n / 16 < 16 by omega)
  have hlow := hexDigit?_digitChar (show n % 16 < 16 by omega)
  have hvalue : ((0 * 16 + 0) * 16 + n / 16) * 16 + n % 16 = n := by omega
  simp only [readHex, hzero, hhigh, hlow, bind, Option.bind, hvalue]

theorem readUnit_codeEscape {c : Char} (hc : c.toNat < 0x20) (rest : Text) :
    readUnit (codeEscape c.toNat ++ rest) = some (some c, rest) := by
  have hlead : isLead c.toNat = false := by
    unfold isLead
    simp
    omega
  have htrail : isTrail c.toNat = false := by
    unfold isTrail
    simp
    omega
  have hread := readHex_codeEscape hc rest
  simp only [codeEscape, List.cons_append, List.nil_append, readUnit, hread, hlead, htrail, bind,
    Option.bind, Bool.false_eq_true, if_false, Char.ofNat_toNat]

theorem readUnit_escape (c : Char) (rest : Text) :
    readUnit (escape c ++ rest) = some (some c, rest) := by
  unfold escape
  split
  · rfl
  · rfl
  · rfl
  · rfl
  · rfl
  · rfl
  · rfl
  · next hquote hbackslash _ _ _ _ _ =>
    split
    · next hcontrol => exact readUnit_codeEscape hcontrol rest
    · next hcontrol =>
      unfold readUnit
      split
      · next heq => exact absurd (List.cons.inj heq).1 hbackslash
      · next heq => exact absurd (List.cons.inj heq).1 hbackslash
      · next heq =>
        obtain ⟨rfl, rfl⟩ := List.cons.inj heq
        rw [if_neg (by simpa [hcontrol] using hbackslash)]
        rfl
      · next heq => cases heq

theorem exists_escape_eq_cons (c : Char) :
    ∃ first more, escape c = first :: more ∧ first ≠ '"' := by
  unfold escape
  split <;> try exact ⟨'\\', _, rfl, by decide⟩
  next hquote _ _ _ _ _ _ =>
    split
    · exact ⟨'\\', _, rfl, by decide⟩
    · exact ⟨c, [], rfl, hquote⟩

/-! ## Strings -/

theorem readUnits_escape
    {text : Text} {fuel : Nat} (hfuel : text.length ≤ fuel) (done : List (Option Char))
    (rest : Text) :
    readUnits fuel done (text.flatMap escape ++ '"' :: rest) =
      some (done.reverse ++ text.map some, rest) := by
  induction text generalizing fuel done with
  | nil =>
      rw [List.flatMap_nil, List.nil_append, List.map_nil, List.append_nil]
      unfold readUnits
      rfl
  | cons c text ih =>
      cases fuel with
      | zero => cases hfuel
      | succ fuel =>
          obtain ⟨first, more, hescape, hquote⟩ := exists_escape_eq_cons c
          have hunit := readUnit_escape c (text.flatMap escape ++ '"' :: rest)
          rw [hescape, List.cons_append] at hunit
          rw [List.flatMap_cons, List.append_assoc, hescape, List.cons_append, readUnits]
          · rw [hunit]
            simp only
            rw [ih (Nat.le_of_succ_le_succ hfuel)]
            simp
          · exact fun rest heq => hquote (List.cons.inj heq).1

theorem length_le_length_flatMap_escape (text : Text) :
    text.length ≤ (text.flatMap escape).length := by
  induction text with
  | nil => exact Nat.le_refl 0
  | cons c text ih =>
      obtain ⟨first, more, hescape, _⟩ := exists_escape_eq_cons c
      rw [List.flatMap_cons, List.length_append, hescape, List.length_cons, List.length_cons]
      omega

theorem readString_escape (text rest : Text) :
    readString (text.flatMap escape ++ '"' :: rest) = some (some text, rest) := by
  have hlength := length_le_length_flatMap_escape text
  have hmapM : (text.map some).mapM id = some text := mapM_id_eq_some_iff.2 rfl
  unfold readString
  rw [readUnits_escape (by rw [List.length_append]; omega), List.reverse_nil, List.nil_append,
    Option.map_some]
  simp only [hmapM]

theorem readValue_quote (fuel : Nat) (text rest : Text) :
    readValue (fuel + 1) (quote text ++ rest) = some (.string text, rest) := by
  have hskip : skipGap (quote text ++ rest) = '"' :: (text.flatMap escape ++ '"' :: rest) := by
    unfold quote skipGap
    simp [isGap]
  rw [readValue, hskip]
  simp only [readString_escape]
  rfl

theorem read?_print_string (text : Text) : read? (print (.string text)) = some (.string text) := by
  have hread := readValue_quote (2 * (quote text).length) text []
  rw [List.append_nil] at hread
  unfold read? print
  rw [printAt, hread]
  rfl

end ChartScript.Json
