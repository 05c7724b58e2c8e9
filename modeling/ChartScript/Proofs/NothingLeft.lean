import ChartScript.Proofs.SubstitutionInOnePass
import ChartScript.Proofs.WrittenRanges

/-!
# Nothing is left to replace

A replacement goes over a text once, so a value could join what stands around it into a new
occurrence.  It does not if the pattern begins with a character that the value does not hold and
the value begins with a character that the rest of the pattern does not hold: an occurrence would
begin at a character of the text and stay in the text, where it would have been replaced.

So a line of a loop holds no reference to the loop variable any more, in either form, although
the references are replaced in two passes.
-/

namespace ChartScript

namespace Text

/-! ## What a replacement leaves -/

/-- A character that the value does not hold was kept, and what follows it is the result for what
followed it before. -/
theorem exists_of_cons_suffix_replaceAll
    {pattern value : Text} (hpattern : pattern ≠ []) {x : Char} (hx : x ∉ value)
    {text tail : Text} (hsuffix : x :: tail <:+ replaceAll pattern value text) :
    ∃ rest, x :: rest <:+ text ∧ ¬ pattern <+: x :: rest ∧
      tail = replaceAll pattern value rest := by
  induction text using replaceAll_induction hpattern with
  | nil => exact absurd (List.suffix_nil.1 hsuffix) (List.cons_ne_nil x tail)
  | occurrence rest ih =>
      rw [replaceAll_append hpattern, cons_suffix_append_iff hx] at hsuffix
      obtain ⟨back, hback, hkept⟩ := ih hsuffix
      exact ⟨back, hback.trans (List.suffix_append pattern rest), hkept⟩
  | kept c rest hc ih =>
      rw [replaceAll_cons value hc, List.suffix_cons_iff] at hsuffix
      rcases hsuffix with heq | hsuffix
      · obtain ⟨rfl, rfl⟩ := List.cons.inj heq
        exact ⟨rest, List.suffix_rfl, hc, rfl⟩
      · obtain ⟨back, hback, hkept⟩ := ih hsuffix
        exact ⟨back, hback.trans (List.suffix_cons c rest), hkept⟩

section

variable {x : Char} {name value : Text} (hvalue : value ≠ []) (hx : x ∉ value)
    (hfirst : ∀ c, value.head? = some c → c ∉ name)

include hvalue hx hfirst

/-- What a replacement leaves was there before, and was not replaced where it begins. -/
theorem exists_of_infix_replaceAll
    {pattern : Text} (hpattern : pattern ≠ []) {text : Text}
    (hinside : x :: name <:+: replaceAll pattern value text) :
    ∃ rest, x :: rest <:+ text ∧ ¬ pattern <+: x :: rest ∧ x :: name <+: x :: rest := by
  obtain ⟨back, hbegins, hsuffix⟩ := List.infix_iff_prefix_suffix.1 hinside
  cases back with
  | nil => exact absurd (List.prefix_nil.1 hbegins) (List.cons_ne_nil x name)
  | cons d tail =>
      obtain ⟨rfl, hname⟩ := List.cons_prefix_cons.1 hbegins
      obtain ⟨rest, hrest, hkept, rfl⟩ := exists_of_cons_suffix_replaceAll hpattern hx hsuffix
      have hbefore := begins_of_begins_replaceAll hpattern hvalue hfirst hname
      exact ⟨rest, hrest, hkept, List.cons_prefix_cons.2 ⟨rfl, hbefore⟩⟩

theorem infix_of_infix_replaceAll
    {pattern : Text} (hpattern : pattern ≠ []) {text : Text}
    (hinside : x :: name <:+: replaceAll pattern value text) :
    x :: name <:+: text := by
  obtain ⟨rest, hrest, _, hbegins⟩ := exists_of_infix_replaceAll hvalue hx hfirst hpattern hinside
  exact hbegins.isInfix.trans hrest.isInfix

theorem not_infix_replaceAll (text : Text) :
    ¬ x :: name <:+: replaceAll (x :: name) value text := by
  intro hinside
  obtain ⟨rest, _, hkept, hbegins⟩ :=
    exists_of_infix_replaceAll hvalue hx hfirst (List.cons_ne_nil x name) hinside
  exact hkept hbegins

end

end Text

/-! ## Loop variables -/

namespace Loop

/-- The text holds no reference to the variable, in either form. -/
structure Settled (var text : Text) : Prop where
  not_braced : ¬ bracedForm var <:+: text
  not_bare : ¬ bareForm var <:+: text

/-- A value with which no reference to the variable begins, goes on or ends. -/
structure StandsApart (var value : Text) : Prop where
  ne_nil : value ≠ []
  sigil_not_mem : '$' ∉ value
  first : ∀ c, value.head? = some c → c ∉ ['{', '}'] ∧ c ∉ var

theorem Settled.substitute_eq
    {var text : Text} (hsettled : Settled var text) (value : Text) :
    substitute var value text = text := by
  unfold substitute
  rw [Text.replaceAll_eq_self hsettled.not_braced, Text.replaceAll_eq_self hsettled.not_bare]

/-- The second replacement removes the bare references, and the first one has left no reference
in braces that it could have kept. -/
theorem settled_substitute
    {var value : Text} (hvalue : StandsApart var value) (text : Text) :
    Settled var (substitute var value text) := by
  have hbare : ∀ c, value.head? = some c → c ∉ var := fun c hc => (hvalue.first c hc).2
  have hbraced : ∀ c, value.head? = some c → c ∉ '{' :: var ++ ['}'] := by
    intro c hc hmem
    obtain ⟨hmarks, hvar⟩ := hvalue.first c hc
    simp only [List.mem_cons, List.not_mem_nil, or_false, not_or] at hmarks
    simp [hmarks, hvar] at hmem
  refine ⟨fun hinside => ?_, ?_⟩
  · have hfirst : bracedForm var <:+: Text.replaceAll (bracedForm var) value text :=
      Text.infix_of_infix_replaceAll hvalue.ne_nil hvalue.sigil_not_mem hbraced
        (bareForm_ne_nil var) hinside
    exact Text.not_infix_replaceAll hvalue.ne_nil hvalue.sigil_not_mem hbraced text hfirst
  · exact Text.not_infix_replaceAll hvalue.ne_nil hvalue.sigil_not_mem hbare _

theorem standsApart_of_mem_values
    {var : Text} (hvar : ∀ c ∈ var, c.isDigit = false ∧ c ≠ '-') {range : Range} {value : Text}
    (hvalue : value ∈ range.values) :
    StandsApart var value := by
  obtain ⟨k, _, rfl⟩ := List.mem_map.1 hvalue
  refine ⟨(isWord_ofInt _).1, Decimal.not_mem_ofInt (by decide) (by decide) _, ?_⟩
  intro c hc
  have hmem := List.mem_of_head? hc
  refine ⟨fun hmarks => ?_, fun hname => ?_⟩
  · simp only [List.mem_cons, List.not_mem_nil, or_false] at hmarks
    rcases hmarks with rfl | rfl
    · exact Decimal.not_mem_ofInt (by decide) (by decide) _ hmem
    · exact Decimal.not_mem_ofInt (by decide) (by decide) _ hmem
  · obtain ⟨hdigit, hminus⟩ := hvar c hname
    exact Decimal.not_mem_ofInt hdigit hminus _ hmem

theorem Settled.trimStart {var text : Text} (hsettled : Settled var text) :
    Settled var text.trimStart := by
  have hinside := (Text.trimStart_suffix text).isInfix
  exact ⟨fun hbraced => hsettled.not_braced (hbraced.trans hinside),
    fun hbare => hsettled.not_bare (hbare.trans hinside)⟩

/-- No reference to the variable is left behind a value that stands apart from it, as the values
of a range do from a name without digits and minus signs. -/
theorem settled_of_standsApart (var : Text) :
    (∀ value, StandsApart var value →
        (∀ text, Settled var (substitute var value text) ∧
          ∀ other, substitute var other (substitute var value text) =
            substitute var value text) ∧
          ∀ line, Settled var (instantiate var value line).text) ∧
      ((∀ c ∈ var, c.isDigit = false ∧ c ≠ '-') →
        ∀ range : Range, ∀ value ∈ range.values, StandsApart var value) := by
  refine ⟨fun value hvalue => ⟨fun text => ?_, fun line => ?_⟩, ?_⟩
  · have hsettled := settled_substitute hvalue text
    exact ⟨hsettled, hsettled.substitute_eq⟩
  · exact (settled_substitute hvalue line.text).trimStart
  · exact fun hvar range value hmem => standsApart_of_mem_values hvar hmem

/-- Sigils, braces and halves of references around the references themselves. -/
def nestedReferences : Text := "$$IX $\x7b$\x7bIX\x7dIX\x7d $I$\x7bIX\x7dX".toList

def filledReferences : Text := "$-1 $\x7b-1IX\x7d $I-1X".toList

theorem settled_of_standsApart_nestedReferences :
    StandsApart ['I', 'X'] ['-', '1'] ∧
      substitute ['I', 'X'] ['-', '1'] nestedReferences = filledReferences ∧
      Settled ['I', 'X'] filledReferences := by
  have hname : ∀ c ∈ ['I', 'X'], c.isDigit = false ∧ c ≠ '-' :=
    List.forall_mem_cons.2 ⟨by decide, List.forall_mem_singleton.2 (by decide)⟩
  have hvalues := (settled_of_standsApart ['I', 'X']).2 hname ⟨-1, 1⟩
  have hvalue := hvalues ['-', '1'] (by decide)
  have hresult : substitute ['I', 'X'] ['-', '1'] nestedReferences = filledReferences := by
    decide +kernel
  have hsettled := (((settled_of_standsApart ['I', 'X']).1 _ hvalue).1 nestedReferences).1
  rw [hresult] at hsettled
  exact ⟨hvalue, hresult, hsettled⟩

end Loop

end ChartScript
