import Mathlib.Data.List.Forall2

/-!
# Outcomes of a reader

A reader that is composed of others succeeds exactly if these do, each on what the one
before it has left.  These equivalences take such a reader apart and put it together.
-/

namespace ChartScript

variable {ε α β : Type}

theorem bind_eq_ok_iff {x : Except ε α} {f : α → Except ε β} {value : β} :
    (x >>= f) = .ok value ↔ ∃ found, x = .ok found ∧ f found = .ok value := by
  cases x with
  | error error =>
      constructor
      · intro h
        cases h
      · rintro ⟨found, h, _⟩
        cases h
  | ok found =>
      constructor
      · intro h
        exact ⟨found, rfl, h⟩
      · rintro ⟨other, h, hvalue⟩
        obtain rfl := Except.ok.inj h
        exact hvalue

theorem map_eq_ok_iff {x : Except ε α} {f : α → β} {value : β} :
    x.map f = .ok value ↔ ∃ found, x = .ok found ∧ f found = value := by
  cases x with
  | error error => simp [Except.map]
  | ok found => simp [Except.map]

theorem bind_eq_error_iff {x : Except ε α} {f : α → Except ε β} {error : ε} :
    (x >>= f) = .error error ↔
      x = .error error ∨ ∃ found, x = .ok found ∧ f found = .error error := by
  cases x with
  | error other => simp [bind, Except.bind]
  | ok found => simp [bind, Except.bind]

theorem map_eq_error_iff {x : Except ε α} {f : α → β} {error : ε} :
    x.map f = .error error ↔ x = .error error := by
  cases x with
  | error other => simp [Except.map]
  | ok found => simp [Except.map]

/-- Every member of a list is read, in order. -/
theorem mapM_eq_ok_iff {f : α → Except ε β} {list : List α} {values : List β} :
    list.mapM f = .ok values ↔ List.Forall₂ (fun x value => f x = .ok value) list values := by
  induction list generalizing values with
  | nil =>
      rw [List.mapM_nil, List.forall₂_nil_left_iff]
      constructor
      · intro h
        exact (Except.ok.inj h).symm
      · rintro rfl
        rfl
  | cons x rest ih =>
      rw [List.mapM_cons, List.forall₂_cons_left_iff, bind_eq_ok_iff]
      constructor
      · rintro ⟨value, hvalue, h⟩
        obtain ⟨others, hothers, h⟩ := bind_eq_ok_iff.1 h
        exact ⟨value, others, hvalue, ih.1 hothers, (Except.ok.inj h).symm⟩
      · rintro ⟨value, others, hvalue, hothers, rfl⟩
        exact ⟨value, hvalue, bind_eq_ok_iff.2 ⟨others, ih.2 hothers, rfl⟩⟩

theorem mapM_id_eq_some_iff {list : List (Option α)} {values : List α} :
    list.mapM id = some values ↔ list = values.map some := by
  induction list generalizing values with
  | nil =>
      rw [List.mapM_nil, List.nil_eq, List.map_eq_nil_iff]
      constructor
      · intro h
        exact (Option.some.inj h).symm
      · rintro rfl
        rfl
  | cons x rest ih =>
      rw [List.mapM_cons, Option.bind_eq_bind, Option.bind_eq_some_iff, eq_comm,
        List.map_eq_cons_iff]
      constructor
      · rintro ⟨value, rfl, h⟩
        obtain ⟨others, hothers, h⟩ := Option.bind_eq_some_iff.1 h
        exact ⟨value, others, (Option.some.inj h).symm, rfl, (ih.1 hothers).symm⟩
      · rintro ⟨value, others, rfl, rfl, hothers⟩
        exact ⟨value, rfl, Option.bind_eq_some_iff.2 ⟨others, ih.2 hothers.symm, rfl⟩⟩

/-- A list is read up to the member that is the error. -/
theorem exists_front_of_mapM_eq_error
    {f : α → Except ε β} {list : List α} {error : ε} (hread : list.mapM f = .error error) :
    ∃ front x back values, list = front ++ x :: back ∧ front.mapM f = .ok values ∧
      f x = .error error := by
  induction list with
  | nil => cases hread
  | cons x rest ih =>
      rw [List.mapM_cons, bind_eq_error_iff] at hread
      rcases hread with hfirst | ⟨value, hvalue, hread⟩
      · exact ⟨[], x, rest, [], rfl, rfl, hfirst⟩
      · rcases bind_eq_error_iff.1 hread with hrest | ⟨values, _, hread⟩
        · obtain ⟨front, y, back, values, rfl, hfront, herror⟩ := ih hrest
          exact ⟨x :: front, y, back, value :: values, rfl,
            mapM_eq_ok_iff.2 (.cons hvalue (mapM_eq_ok_iff.1 hfront)), herror⟩
        · cases hread

/-- The error of a list is that of one of its members. -/
theorem exists_of_mapM_eq_error
    {f : α → Except ε β} {list : List α} {error : ε} (hread : list.mapM f = .error error) :
    ∃ x ∈ list, f x = .error error := by
  obtain ⟨front, x, back, _, rfl, _, herror⟩ := exists_front_of_mapM_eq_error hread
  exact ⟨x, by simp, herror⟩

/-- A reader can be exchanged for one that reads whatever it reads. -/
theorem mapM_eq_ok_of_imp
    {f g : α → Except ε β} {list : List α}
    (himp : ∀ x ∈ list, ∀ value, f x = .ok value → g x = .ok value)
    {values : List β} (hread : list.mapM f = .ok values) :
    list.mapM g = .ok values := by
  induction list generalizing values with
  | nil => exact hread
  | cons x rest ih =>
      obtain ⟨value, others, hvalue, hothers, rfl⟩ :=
        List.forall₂_cons_left_iff.1 (mapM_eq_ok_iff.1 hread)
      have hrest := ih (fun y hy => himp y (List.mem_cons_of_mem x hy)) (mapM_eq_ok_iff.2 hothers)
      exact mapM_eq_ok_iff.2
        (.cons (himp x List.mem_cons_self value hvalue) (mapM_eq_ok_iff.1 hrest))

theorem exists_left_of_forall₂
    {r : α → β → Prop} {xs : List α} {ys : List β} (hlists : List.Forall₂ r xs ys) :
    ∀ y ∈ ys, ∃ x ∈ xs, r x y := by
  induction hlists with
  | nil => simp
  | cons hfirst _ ih =>
      intro y hy
      rcases List.mem_cons.1 hy with rfl | hy
      · exact ⟨_, List.mem_cons_self, hfirst⟩
      · obtain ⟨x, hx, hxy⟩ := ih y hy
        exact ⟨x, List.mem_cons_of_mem _ hx, hxy⟩

theorem exists_right_of_forall₂
    {r : α → β → Prop} {xs : List α} {ys : List β} (hlists : List.Forall₂ r xs ys) :
    ∀ x ∈ xs, ∃ y ∈ ys, r x y :=
  exists_left_of_forall₂ hlists.flip

/-- What can be done to each of the lists can be done to their concatenation. -/
theorem flatten_mapM_congr
    {α β γ ε : Type} {f : α → Except ε (List β)} {g : α → Except ε (List γ)}
    {change : List β → List γ} (hnil : change [] = [])
    (happend : ∀ first second, change (first ++ second) = change first ++ change second)
    (heq : ∀ x, g x = (f x).map change) (list : List α) :
    (list.mapM g).map List.flatten = ((list.mapM f).map List.flatten).map change := by
  induction list with
  | nil =>
      simp only [List.mapM_nil, pure, Except.pure, Except.map, List.flatten_nil, hnil]
  | cons x rest ih =>
      simp only [List.mapM_cons, heq x]
      cases f x with
      | error error => rfl
      | ok group =>
          cases hfound : rest.mapM f with
          | error error =>
              rw [hfound] at ih
              cases hchanged : rest.mapM g with
              | error other =>
                  rw [hchanged] at ih
                  obtain rfl := Except.error.inj ih
                  rfl
              | ok groups =>
                  rw [hchanged] at ih
                  cases ih
          | ok found =>
              rw [hfound] at ih
              obtain ⟨changed, hchanged, hflatten⟩ := map_eq_ok_iff.1 ih
              simp only [hchanged, bind, Except.bind, pure, Except.pure, Except.map,
                List.flatten_cons, hflatten, happend]

end ChartScript
