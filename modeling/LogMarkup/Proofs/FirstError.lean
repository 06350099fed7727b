/-!
# Walks that end at the first error

Building and reducing both walk through a message from left to right and fail at the
first site where something is wrong.  This module compares such a walk with the list of
the sites that it comes to.  What is wrong at a site is said by a relation, apart from
the walk.

Main results:

- `EndsAtFirst.bind`: a walk that goes on comes to the sites of both its pieces.
- `EndsAtFirst.of_filterMap`: a walk can be followed in a finer list of places.
- `EndsAtFirst.exists_eq_ok_iff`: a walk succeeds exactly when nothing is wrong.
- `EndsAtFirst.eq_error_iff`: it fails exactly with what is wrong at the first site.
-/

namespace LogMarkup

variable {σ ε β γ : Type} {wrong : σ → ε → Prop} {sites others : List σ}

/-- `e` is what is wrong at the first of the sites where something is wrong. -/
def IsFirstError (wrong : σ → ε → Prop) (sites : List σ) (e : ε) : Prop :=
  ∃ before v after, sites = before ++ v :: after ∧
    (∀ u ∈ before, ∀ e', ¬ wrong u e') ∧ wrong v e

/-- The walk that comes to the sites in turn fails with what is wrong at the first one
where something is wrong, and succeeds if nothing is wrong at any of them. -/
def EndsAtFirst (wrong : σ → ε → Prop) (sites : List σ) : Except ε β → Prop
  | .ok _ => ∀ v ∈ sites, ∀ e, ¬ wrong v e
  | .error e => IsFirstError wrong sites e

namespace IsFirstError

/-- The sites behind the first wrong one do not matter. -/
theorem append_right {e : ε} (h : IsFirstError wrong sites e) (others : List σ) :
    IsFirstError wrong (sites ++ others) e := by
  obtain ⟨before, v, after, rfl, hbefore, hv⟩ := h
  exact ⟨before, v, after ++ others, by simp, hbefore, hv⟩

/-- Sites where nothing is wrong do not matter. -/
theorem append_left {e : ε} (hsites : ∀ v ∈ sites, ∀ e', ¬ wrong v e')
    (h : IsFirstError wrong others e) : IsFirstError wrong (sites ++ others) e := by
  obtain ⟨before, v, after, rfl, hbefore, hv⟩ := h
  refine ⟨sites ++ before, v, after, by simp, ?_, hv⟩
  intro u hu
  rcases List.mem_append.mp hu with hu | hu
  · exact hsites u hu
  · exact hbefore u hu

/-- There is only one first error, if only one thing can be wrong at a site. -/
theorem unique (hwrong : ∀ v e e', wrong v e → wrong v e' → e = e') {e e' : ε}
    (h : IsFirstError wrong sites e) (h' : IsFirstError wrong sites e') : e = e' := by
  obtain ⟨before, v, after, rfl, hbefore, hv⟩ := h
  obtain ⟨before', v', after', hsites, hbefore', hv'⟩ := h'
  -- The first wrong site of one list cannot stand in front of that of the other.
  rcases List.append_eq_append_iff.mp hsites with ⟨more, rfl, hmore⟩ | ⟨more, rfl, hmore⟩
  · cases more with
    | nil =>
      obtain ⟨rfl, -⟩ := List.cons.inj hmore
      exact hwrong v e e' hv hv'
    | cons a more =>
      obtain ⟨rfl, -⟩ := List.cons.inj hmore
      exact absurd hv (hbefore' v (by simp) e)
  · cases more with
    | nil =>
      obtain ⟨rfl, -⟩ := List.cons.inj hmore
      exact hwrong v' e e' hv hv'
    | cons a more =>
      obtain ⟨rfl, -⟩ := List.cons.inj hmore
      exact absurd hv' (hbefore v' (by simp) e')

end IsFirstError

namespace EndsAtFirst

/-- A walk that comes to no site and gives a result. -/
theorem ok (b : β) : EndsAtFirst wrong [] (.ok b) := by
  intro v hv
  simp at hv

/-- A walk that comes to one site and fails there. -/
theorem error {v : σ} {e : ε} (hv : wrong v e) :
    EndsAtFirst wrong [v] (.error e : Except ε β) :=
  ⟨[], v, [], rfl, by simp, hv⟩

/-- A walk that comes to one site, at which nothing is wrong. -/
theorem passed {v : σ} (hv : ∀ e, ¬ wrong v e) (b : β) : EndsAtFirst wrong [v] (.ok b) := by
  intro u hu
  obtain rfl := List.mem_singleton.mp hu
  exact hv

/-- A walk that looks something up at one site, and fails there if that is not found. -/
theorem lookup {x : Except ε β} {found : Option β} {v : σ} {e : ε}
    (hx : x = found.elim (.error e) .ok) (hsome : ∀ b, found = some b → ∀ e', ¬ wrong v e')
    (hnone : found = none → wrong v e) : EndsAtFirst wrong [v] x := by
  subst hx
  cases found with
  | some b => exact passed (hsome b rfl) b
  | none => exact error (hnone rfl)

/-- A walk that goes on comes to the sites of its first piece and then to those of the
other. -/
theorem bind {x : Except ε β} {f : β → Except ε γ} (hx : EndsAtFirst wrong sites x)
    (hf : ∀ b, x = .ok b → EndsAtFirst wrong others (f b)) :
    EndsAtFirst wrong (sites ++ others) (x >>= f) := by
  cases x with
  | error e => exact IsFirstError.append_right hx others
  | ok b =>
    have hnext := hf b rfl
    change EndsAtFirst wrong (sites ++ others) (f b)
    cases hfb : f b with
    | error e =>
      rw [hfb] at hnext
      exact IsFirstError.append_left hx hnext
    | ok c =>
      rw [hfb] at hnext
      intro v hv
      rcases List.mem_append.mp hv with hv | hv
      · exact hx v hv
      · exact hnext v hv

/-- What is made of the result does not matter. -/
theorem bind_ok {x : Except ε β} {f : β → Except ε γ} (hx : EndsAtFirst wrong sites x)
    (hf : ∀ b, ∃ c, f b = .ok c) : EndsAtFirst wrong sites (x >>= f) := by
  rw [← List.append_nil sites]
  refine hx.bind fun b _ => ?_
  obtain ⟨c, hc⟩ := hf b
  rw [hc]
  exact ok c

/-- A walk through sites is one through any places behind which these sites stand, if a
place is wrong exactly when its site is. -/
theorem of_filterMap {τ : Type} {f : τ → Option σ} {faulty : τ → ε → Prop} {places : List τ}
    {x : Except ε β} (hfaulty : ∀ v ∈ places, ∀ e, faulty v e ↔ ∃ u, f v = some u ∧ wrong u e)
    (h : EndsAtFirst wrong (places.filterMap f) x) : EndsAtFirst faulty places x := by
  cases x with
  | ok b =>
    intro v hv e he
    obtain ⟨u, hu, hwrong⟩ := (hfaulty v hv e).mp he
    exact h u (List.mem_filterMap.mpr ⟨v, hv, hu⟩) e hwrong
  | error e =>
    obtain ⟨before, u, after, hsplit, hbefore, hwrong⟩ := h
    obtain ⟨front, rest, rfl, hfront, hrest⟩ := List.filterMap_eq_append_iff.mp hsplit
    obtain ⟨skipped, v, back, rfl, hskipped, hv, -⟩ := List.filterMap_eq_cons_iff.mp hrest
    refine ⟨front ++ skipped, v, back, by simp, ?_, (hfaulty v (by simp) e).mpr ⟨u, hv, hwrong⟩⟩
    intro w hw e' he'
    have hplace : w ∈ front ++ (skipped ++ v :: back) := by
      rw [← List.append_assoc]
      exact List.mem_append_left _ hw
    obtain ⟨u', hu', hwrong'⟩ := (hfaulty w hplace e').mp he'
    rcases List.mem_append.mp hw with hw | hw
    · have hmem : u' ∈ before := by
        rw [← hfront]
        exact List.mem_filterMap.mpr ⟨w, hw, hu'⟩
      exact hbefore u' hmem e' hwrong'
    · rw [hskipped w hw] at hu'
      contradiction

/-- A walk succeeds exactly when nothing is wrong at its sites. -/
theorem exists_eq_ok_iff {x : Except ε β} (hx : EndsAtFirst wrong sites x) :
    (∃ b, x = .ok b) ↔ ∀ v ∈ sites, ∀ e, ¬ wrong v e := by
  cases x with
  | ok b => exact ⟨fun _ => hx, fun _ => ⟨b, rfl⟩⟩
  | error e =>
    constructor
    · rintro ⟨b, hb⟩
      contradiction
    · intro hnone
      obtain ⟨before, v, after, rfl, -, hv⟩ := hx
      exact absurd hv (hnone v (by simp) e)

/-- A walk fails exactly with what is wrong at the first site where something is wrong. -/
theorem eq_error_iff (hwrong : ∀ v e e', wrong v e → wrong v e' → e = e')
    {x : Except ε β} (hx : EndsAtFirst wrong sites x) {e : ε} :
    x = .error e ↔ IsFirstError wrong sites e := by
  constructor
  · rintro rfl
    exact hx
  · intro h
    cases x with
    | ok b =>
      obtain ⟨before, v, after, rfl, -, hv⟩ := h
      exact absurd hv (hx v (by simp) e)
    | error e' => rw [IsFirstError.unique hwrong hx h]

end EndsAtFirst

end LogMarkup
