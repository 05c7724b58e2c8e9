import ChartScript.Proofs.LineOrigins

/-!
# Runs over files that are put together

Under `abort` a run over segments in a row is the run over the first ones followed by the run
over the others with the lists that these have left behind.  Plain lines are segments of
their own wherever they stand outside a loop, and inside a loop they are all body, so a file
can be taken apart in front of plain lines: either every loop is closed there, or one is open
and takes the lines in.
-/

namespace ChartScript

/-! ## One run after the other -/

namespace Expansion

/-- The lists and the statements that a run under `abort` comes to. -/
def outcome (datasets : Nat) (registry : Registry) :
    List Segment → Except ExpandError (Registry × List Statement)
  | [] => .ok (registry, [])
  | segment :: rest =>
      (segment.run datasets registry).result >>= fun first =>
        (outcome datasets first.1 rest).map fun others => (others.1, first.2 ++ others.2)

theorem ofSegments_abort_eq_map_outcome
    (datasets : Nat) (registry : Registry) (list : List Segment) :
    (ofSegments ⟨datasets, .abort⟩ registry list).result =
      (outcome datasets registry list).map fun found =>
        { statements := found.2, skipped := [], lists := found.1 } := by
  induction list generalizing registry with
  | nil => rfl
  | cons segment rest ih =>
      unfold ofSegments outcome
      dsimp only
      cases (segment.run datasets registry).result with
      | error error => rfl
      | ok first =>
          obtain ⟨lists, statements⟩ := first
          simp only [ih lists, bind, Except.bind]
          cases outcome datasets lists rest with
          | error error => rfl
          | ok others => rfl

theorem ofLines_abort_eq_map_outcome (datasets : Nat) (lines : List SourceLine) :
    (ofLines ⟨datasets, .abort⟩ lines).result =
      (outcome datasets .empty (segments lines)).map fun found =>
        { statements := found.2, skipped := [], lists := found.1 } :=
  ofSegments_abort_eq_map_outcome datasets .empty (segments lines)

theorem outcome_append
    (datasets : Nat) (registry : Registry) (first second : List Segment) :
    outcome datasets registry (first ++ second) =
      outcome datasets registry first >>= fun found =>
        (outcome datasets found.1 second).map fun others => (others.1, found.2 ++ others.2) := by
  induction first generalizing registry with
  | nil =>
      simp only [List.nil_append, outcome, bind, Except.bind]
      cases outcome datasets registry second <;> rfl
  | cons segment rest ih =>
      simp only [List.cons_append, outcome]
      cases hrun : (segment.run datasets registry).result with
      | error error => rfl
      | ok found =>
          simp only [bind, Except.bind, ih]
          cases hrest : outcome datasets found.1 rest with
          | error error => rfl
          | ok others =>
              simp only [Except.map]
              cases outcome datasets others.1 second with
              | error error => rfl
              | ok last => simp

end Expansion

/-! ## Plain lines -/

/-- The line neither begins nor ends a loop. -/
structure SourceLine.KeepsDepth (line : SourceLine) : Prop where
  ne_loop : Keyword.ofLine line.text ≠ .loop
  ne_next : Keyword.ofLine line.text ≠ .next

/-- The line is no list statement either. -/
structure SourceLine.IsPlain (line : SourceLine) : Prop extends SourceLine.KeepsDepth line where
  ne_list : Keyword.ofLine line.text ≠ .list

theorem SourceLine.isPlain_iff {line : SourceLine} :
    line.IsPlain ↔ Keyword.ofLine line.text ∈ [.define, .add, .other] := by
  constructor
  · intro hline
    obtain ⟨⟨hloop, hnext⟩, hlist⟩ := hline
    cases hkeyword : Keyword.ofLine line.text <;> simp_all
  · intro hkeyword
    refine ⟨⟨?_, ?_⟩, ?_⟩ <;>
      · intro heq
        simp [heq] at hkeyword

theorem Block.ofLine_of_isPlain {line : SourceLine} (hline : line.IsPlain) :
    Block.ofLine line = .ok (.plain line) := by
  unfold Block.ofLine
  split
  · next hkeyword => exact absurd hkeyword hline.ne_list
  · next hkeyword => exact absurd hkeyword hline.ne_next
  · rfl

theorem SourceLine.resolveMarkers_append (datasets : Nat) (first second : List SourceLine) :
    resolveMarkers datasets (first ++ second) =
      resolveMarkers datasets first >>= fun found =>
        (resolveMarkers datasets second).map (found ++ ·) := by
  unfold resolveMarkers
  rw [List.mapM_append]
  cases first.mapM (resolveMarker datasets) with
  | error error => rfl
  | ok groups =>
      simp only [bind, Except.bind, Except.map]
      cases second.mapM (resolveMarker datasets) with
      | error error => rfl
      | ok others => simp [pure, Except.pure]

namespace Statement

theorem readAll_result (lines : List SourceLine) :
    (readAll lines).result = lines.mapM read := by
  unfold readAll
  simp only [List.mapM_map]
  rfl

/-- Whether and how lines are read depends on each of them alone. -/
theorem mapM_read_congr {lines others : List SourceLine} (heq : lines.map read = others.map read) :
    lines.mapM read = others.mapM read := by
  have hlines := readAll_result lines
  have hothers := readAll_result others
  unfold readAll at hlines hothers
  rw [heq] at hlines
  exact hlines.symm.trans hothers

end Statement

namespace Block

theorem run_plain_result (datasets : Nat) (registry : Registry) (line : SourceLine) :
    (run datasets registry (.plain line)).result =
      line.resolveMarker datasets >>= fun found =>
        (found.mapM Statement.read).map fun statements => (registry, statements) := by
  unfold run read resolve
  simp only [updateLists]
  cases line.resolveMarker datasets with
  | error error => rfl
  | ok found =>
      simp only [Statement.readAll_result]
      rfl

theorem run_loop_result (datasets : Nat) (registry : Registry) (loop : Loop) :
    (run datasets registry (.loop loop)).result =
      loop.values registry >>= fun values =>
        loop.unroll datasets values >>= fun found =>
          (found.mapM Statement.read).map fun statements => (registry, statements) := by
  unfold run read resolve Loop.resolve
  simp only [updateLists]
  cases loop.values registry with
  | error error => rfl
  | ok values =>
      simp only [bind, Except.bind]
      cases loop.unroll datasets values with
      | error error => rfl
      | ok found =>
          simp only [Statement.readAll_result]

end Block

/-- Plain lines whose markers can be resolved are read where they stand: each line gives a group
of lines of its own. -/
theorem Expansion.outcome_segments_append
    {datasets : Nat} {lines found : List SourceLine}
    (hplain : ∀ line ∈ lines, line.IsPlain)
    (hresolve : SourceLine.resolveMarkers datasets lines = .ok found)
    (registry : Registry) (rest : List SourceLine) :
    outcome datasets registry (segments (lines ++ rest)) =
      found.mapM Statement.read >>= fun statements =>
        (outcome datasets registry (segments rest)).map fun others =>
          (others.1, statements ++ others.2) := by
  induction lines generalizing found with
  | nil =>
      obtain rfl := Except.ok.inj hresolve
      simp only [List.nil_append, bind, Except.bind]
      cases outcome datasets registry (segments rest) <;> rfl
  | cons line lines ih =>
      have hline := hplain line List.mem_cons_self
      obtain ⟨groups, hgroups, rfl⟩ := map_eq_ok_iff.1 hresolve
      obtain ⟨group, others, hgroup, hothers, rfl⟩ :=
        List.forall₂_cons_left_iff.1 (mapM_eq_ok_iff.1 hgroups)
      have hrest := ih (fun other hother => hplain other (List.mem_cons_of_mem line hother))
        (map_eq_ok_iff.2 ⟨others, mapM_eq_ok_iff.2 hothers, rfl⟩)
      rw [List.cons_append, segments_cons_single _ hline.ne_loop, Block.ofLine_of_isPlain hline]
      simp only [outcome, Segment.run, Block.run_plain_result, hgroup, List.flatten_cons,
        List.mapM_append, bind, Except.bind]
      cases group.mapM Statement.read with
      | error error => rfl
      | ok first =>
          simp only [Except.map, hrest, bind, Except.bind]
          cases others.flatten.mapM Statement.read with
          | error error => rfl
          | ok second =>
              simp only [pure, Except.pure]
              cases outcome datasets registry (segments rest) with
              | error error => rfl
              | ok last => simp

/-! ## Loops that take lines in -/

namespace Loop

theorem depthAfter_of_keepsDepth {line : SourceLine} (hline : line.KeepsDepth) (depth : Nat) :
    depthAfter depth line = depth := by
  unfold depthAfter
  split
  · next hkeyword => exact absurd hkeyword hline.ne_next
  · next hkeyword => exact absurd hkeyword hline.ne_loop
  · rfl

theorem not_closes_nil_of_keepsDepth {line : SourceLine} (hline : line.KeepsDepth) (depth : Nat) :
    ¬ Closes depth [] line := fun hcloses => hline.ne_next hcloses.1

theorem splitBody?_append_of_keepsDepth
    {lines : List SourceLine} (hlines : ∀ line ∈ lines, line.KeepsDepth)
    (depth : Nat) (rest : List SourceLine) :
    splitBody? depth (lines ++ rest) =
      (splitBody? depth rest).map fun found => (lines ++ found.1, found.2) := by
  induction lines with
  | nil => simp
  | cons line lines ih =>
      have hline := hlines line List.mem_cons_self
      have hrest := ih fun other hother => hlines other (List.mem_cons_of_mem line hother)
      rw [List.cons_append,
        splitBody?_cons_of_not_closes _ (not_closes_nil_of_keepsDepth hline depth),
        depthAfter_of_keepsDepth hline, hrest, Option.map_map]
      rfl

/-- Either the loop is closed within `front`, whatever follows, or it is still open, with the
same number of inner loops open whatever follows. -/
theorem splitBody?_append (depth : Nat) (front : List SourceLine) :
    (∃ body next between, front = body ++ next :: between ∧
      ∀ rest, splitBody? depth (front ++ rest) = some (body, next, between ++ rest)) ∨
    ∃ inner, ∀ rest, splitBody? depth (front ++ rest) =
      (splitBody? inner rest).map fun found => (front ++ found.1, found.2) := by
  induction front generalizing depth with
  | nil =>
      refine .inr ⟨depth, ?_⟩
      intro rest
      simp
  | cons line front ih =>
      by_cases hline : Closes depth [] line
      · refine .inl ⟨[], line, front, rfl, ?_⟩
        intro rest
        rw [List.cons_append, splitBody?_cons_of_closes _ hline]
      · rcases ih (depthAfter depth line) with ⟨body, next, between, rfl, hclosed⟩ | ⟨inner, hopen⟩
        · refine .inl ⟨line :: body, next, between, rfl, ?_⟩
          intro rest
          rw [List.cons_append, splitBody?_cons_of_not_closes _ hline, hclosed]
          rfl
        · refine .inr ⟨inner, ?_⟩
          intro rest
          rw [List.cons_append, splitBody?_cons_of_not_closes _ hline, hopen, Option.map_map]
          rfl

end Loop

theorem segments_cons_of_splitBody?_eq_some
    {header next : SourceLine} {rest body after : List SourceLine}
    (hheader : Keyword.ofLine header.text = .loop)
    (hsplit : Loop.splitBody? 0 rest = some (body, next, after)) :
    segments (header :: rest) =
      ⟨header :: body ++ [next], (Loop.read header body).map .loop⟩ :: segments after := by
  obtain ⟨rfl, hfirst⟩ := Loop.splitBody?_eq_some_iff.1 hsplit
  exact segments_cons_closed after hheader hfirst

theorem segments_cons_of_splitBody?_eq_none
    {header : SourceLine} {rest : List SourceLine}
    (hheader : Keyword.ofLine header.text = .loop) (hsplit : Loop.splitBody? 0 rest = none) :
    segments (header :: rest) =
      [⟨header :: rest, .error (.ofFault header.number .openLoop)⟩] :=
  segments_cons_open hheader (Loop.splitBody?_eq_none_iff.1 hsplit)

/-- The front of a file is empty, or it begins with a segment that is complete whatever
follows, or it is a loop that takes in what follows. -/
theorem front_induction
    {motive : List SourceLine → Prop}
    (nil : motive [])
    (complete : ∀ front segment between,
      (∀ rest, segments (front ++ rest) = segment :: segments (between ++ rest)) →
        motive between → motive front)
    (opened : ∀ header front inner, Keyword.ofLine header.text = .loop →
      (∀ rest, Loop.splitBody? 0 (front ++ rest) =
        (Loop.splitBody? inner rest).map fun found => (front ++ found.1, found.2)) →
          motive (header :: front))
    (front : List SourceLine) : motive front := by
  induction hlength : front.length using Nat.strong_induction_on generalizing front with
  | h length ih =>
      cases front with
      | nil => exact nil
      | cons header front =>
          rw [List.length_cons] at hlength
          by_cases hheader : Keyword.ofLine header.text = .loop
          · rcases Loop.splitBody?_append 0 front with
              ⟨body, next, between, hfront, hclosed⟩ | ⟨inner, hopen⟩
            · have hshorter : between.length < length := by
                rw [← hlength, hfront, List.length_append, List.length_cons]
                omega
              exact complete _ _ between
                (fun rest => segments_cons_of_splitBody?_eq_some hheader (hclosed rest))
                (ih between.length hshorter between rfl)
            · exact opened header front inner hheader hopen
          · exact complete _ _ front (fun rest => segments_cons_single (front ++ rest) hheader)
              (ih front.length (by omega) front rfl)

end ChartScript
