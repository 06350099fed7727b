import LogMarkup.Proofs.Batch
import LogMarkup.Proofs.CacheStep
import Mathlib.Data.List.Induction
import Mathlib.Tactic.Tauto

/-!
# Runs of a cache

A program may change the setting of its cache, reduce markup and clear the cache in any
order.  However these steps are mixed, every reduction is the one that the markup has without
a cache, and what is stored can be told from the steps alone.

Main results:

- `Cache.sound_of_run`: every cache that comes about is sound.
- `Cache.exists_run_eq_ok`: only a path that no system can be asked for ends a run.
- `Cache.mem_stored_iff`: what is stored belongs to the caches that were used.
- `Cache.run_accounts`: what reductions give after a run, and what is stored then.
-/

namespace LogMarkup

namespace Cache

/-! ## Steps and runs -/

/-- What a program does with its cache. -/
inductive Step where
  /-- It changes the setting. -/
  | set (setting : Option String)
  /-- It reduces a markup. -/
  | reduce (markup : String)
  /-- It clears the cache. -/
  | clear
deriving DecidableEq

/-- The cache after a step. -/
def step (c : Cache) : Step → Except Disk.Failure Cache
  | .set setting => (c.configure setting).map Prod.fst
  | .reduce markup => .ok (c.reduce markup).2
  | .clear => .ok c.cleared

/-- The cache after some steps, if none of them fails. -/
def run (c : Cache) (steps : List Step) : Except Disk.Failure Cache := steps.foldlM step c

/-- A change of the setting in the steps that gives the cache this directory. -/
def Sets (steps : List Step) (p : Path) : Prop :=
  ∃ setting, .set setting ∈ steps ∧ directoryOf setting = some p

/-- The reduction of the markup belongs to the cache in `p`: some step reduced the markup
when that cache was in use, and no later step cleared a directory in which `p` is. -/
def Holds (disk : Disk) (steps : List Step) (p : Path) (markup : String) : Prop :=
  ∃ i, steps[i]? = some (.reduce markup) ∧
    (∃ c, run (off disk) (steps.take i) = .ok c ∧ c.location = some p) ∧
    ∀ j, i < j → steps[j]? = some .clear →
      ∀ c, run (off disk) (steps.take j) = .ok c →
        ∀ q, c.directory = some q → ¬ q.steps <+: p.steps

variable {c c' : Cache} {disk : Disk} {steps : List Step} {x : Step} {p : Path}
  {markup : String}

theorem run_append_singleton_eq_ok_iff :
    run c (steps ++ [x]) = .ok c' ↔ ∃ c₁, run c steps = .ok c₁ ∧ step c₁ x = .ok c' := by
  rw [run, List.foldlM_append, bind_eq_ok_iff]
  simp [run]

/-- The entries of a list with one more at its end. -/
theorem getElem?_append_singleton_iff {β : Type} {xs : List β} {x y : β} {i : Nat} :
    (xs ++ [x])[i]? = some y ↔ xs[i]? = some y ∨ (i = xs.length ∧ x = y) := by
  rcases Nat.lt_or_ge i xs.length with hlt | hge
  · have hne : i ≠ xs.length := Nat.ne_of_lt hlt
    rw [List.getElem?_append_left hlt]
    simp [hne]
  · have hnone : xs[i]? = none := List.getElem?_eq_none hge
    rw [List.getElem?_append_right hge, List.getElem?_singleton, hnone]
    rcases Nat.eq_or_lt_of_le hge with heq | hlt
    · simp [heq]
    · have hne : i - xs.length ≠ 0 := Nat.sub_ne_zero_of_lt hlt
      simp [hne, Nat.ne_of_gt hlt]

/-- What one more step changes of what belongs to a cache. -/
theorem holds_append_singleton_iff :
    Holds disk (steps ++ [x]) p markup ↔
      (Holds disk steps p markup ∧ (x = .clear → ∀ c, run (off disk) steps = .ok c →
        ∀ q, c.directory = some q → ¬ q.steps <+: p.steps)) ∨
      (x = .reduce markup ∧ ∃ c, run (off disk) steps = .ok c ∧ c.location = some p) := by
  have hlt : ∀ {i y}, steps[i]? = some y → i < steps.length := fun h =>
    (List.getElem?_eq_some_iff.mp h).1
  have htake : ∀ {i y}, steps[i]? = some y → (steps ++ [x]).take i = steps.take i := fun h =>
    List.take_append_of_le_length (Nat.le_of_lt (hlt h))
  constructor
  · rintro ⟨i, hi, hlocation, hclear⟩
    rcases getElem?_append_singleton_iff.mp hi with hold | ⟨rfl, rfl⟩
    · left
      rw [htake hold] at hlocation
      refine ⟨⟨i, hold, hlocation, fun j hij hj => ?_⟩, ?_⟩
      · have hlater := hclear j hij (getElem?_append_singleton_iff.mpr (.inl hj))
        rwa [htake hj] at hlater
      · rintro rfl
        have hlater := hclear steps.length (hlt hold)
          (getElem?_append_singleton_iff.mpr (.inr ⟨rfl, rfl⟩))
        rwa [List.take_left] at hlater
    · right
      rw [List.take_left] at hlocation
      exact ⟨rfl, hlocation⟩
  · rintro (⟨⟨i, hi, hlocation, hclear⟩, hlast⟩ | ⟨rfl, hlocation⟩)
    · refine ⟨i, getElem?_append_singleton_iff.mpr (.inl hi), by rwa [htake hi], ?_⟩
      intro j hij hj
      rcases getElem?_append_singleton_iff.mp hj with hj | ⟨rfl, rfl⟩
      · rw [htake hj]
        exact hclear j hij hj
      · rw [List.take_left]
        exact hlast rfl
    · refine ⟨steps.length, getElem?_append_singleton_iff.mpr (.inr ⟨rfl, rfl⟩),
        by rwa [List.take_left], ?_⟩
      intro j hij hj
      rcases getElem?_append_singleton_iff.mp hj with hj | ⟨rfl, -⟩
      · exact absurd (hlt hj) (Nat.lt_asymm hij)
      · exact absurd hij (Nat.lt_irrefl _)

/-! ## What comes about -/

theorem sets_append_singleton_iff : Sets (steps ++ [x]) p ↔ Sets steps p ∨ Sets [x] p := by
  simp [Sets, or_and_right, exists_or]

/-- What a change of the setting that does not fail is. -/
theorem step_set_eq_ok {setting : Option String} (h : step c (.set setting) = .ok c') :
    ∃ notes, c.configure setting = .ok (c', notes) := by
  rw [step] at h
  cases hconfigure : c.configure setting with
  | error f =>
    rw [hconfigure] at h
    cases h
  | ok r =>
    rw [hconfigure] at h
    obtain rfl := Except.ok.inj h
    exact ⟨r.2, rfl⟩

theorem isHome_of_set {setting : Option String} (hx : ∀ p, Sets [.set setting] p → IsHome p) :
    ∀ p, directoryOf setting = some p → IsHome p :=
  fun p hp => hx p ⟨setting, List.mem_singleton_self _, hp⟩

/-- A sound cache stays sound in a step. -/
theorem Sound.step (h : c.Sound) (hx : ∀ p, Sets [x] p → IsHome p) (hc' : c.step x = .ok c') :
    c'.Sound := by
  cases x with
  | set setting =>
    obtain ⟨notes, hconfigure⟩ := step_set_eq_ok hc'
    exact h.configure (isHome_of_set hx) hconfigure
  | reduce markup =>
    obtain rfl := Except.ok.inj hc'
    exact h.reduce markup
  | clear =>
    obtain rfl := Except.ok.inj hc'
    exact h.clear

/-- What a step changes of what is stored on the shelf of a home. -/
theorem Sound.mem_step_iff (h : c.Sound) (hx : ∀ p, Sets [x] p → IsHome p)
    (hc' : c.step x = .ok c') (hp : IsHome p) {r : Reduction} :
    ⟨shelfSpot p, markup, r⟩ ∈ c'.disk.stored ↔
      (⟨shelfSpot p, markup, r⟩ ∈ c.disk.stored ∧
        (x = .clear → ∀ q, c.directory = some q → ¬ q.steps <+: p.steps)) ∨
      (x = .reduce markup ∧ c.location = some p ∧ Markup.reduce markup = .ok r) := by
  cases x with
  | set setting =>
    obtain ⟨notes, hconfigure⟩ := step_set_eq_ok hc'
    obtain ⟨-, hgrows, -⟩ := configure_eq_ok (isHome_of_set hx) hconfigure
    rw [hgrows.stored]
    simp
  | reduce markup' =>
    obtain rfl := Except.ok.inj hc'
    have hlocation : (∃ q, c.location = some q ∧ shelfSpot p = shelfSpot q) ↔
        c.location = some p := by
      constructor
      · rintro ⟨q, hq, hplace⟩
        rw [shelfSpot_injective hp (h.home q (h.location q hq).1) hplace]
        exact hq
      · intro hp
        exact ⟨p, hp, rfl⟩
    rw [h.mem_reduce_iff, hlocation]
    constructor
    · rintro (hmem | ⟨rfl, hreduce, hp⟩)
      · exact .inl ⟨hmem, nofun⟩
      · exact .inr ⟨rfl, hp, hreduce⟩
    · rintro (⟨hmem, -⟩ | ⟨hmarkup, hp, hreduce⟩)
      · exact .inl hmem
      · obtain rfl := Step.reduce.inj hmarkup
        exact .inr ⟨rfl, hreduce, hp⟩
  | clear =>
    obtain rfl := Except.ok.inj hc'
    have hwithin : ∀ q, c.directory = some q →
        ((shelfSpot p).isWithin (Spot.here.follow q.steps) = false ↔ ¬ q.steps <+: p.steps) := by
      intro q hq
      rw [Bool.eq_false_iff, ne_eq, shelfSpot_isWithin_iff (h.home q hq)]
    rw [h.mem_cleared_iff]
    constructor
    · rintro ⟨hmem, hkept⟩
      exact .inl ⟨hmem, fun _ q hq => (hwithin q hq).mp (hkept q hq)⟩
    · rintro (⟨hmem, hkept⟩ | ⟨hother, -⟩)
      · exact ⟨hmem, fun q hq => (hwithin q hq).mpr (hkept rfl q hq)⟩
      · contradiction

section

variable (hstored : disk.stored = []) (hfiles : ∀ f ∈ disk.files, ownName ∉ f.1.names)

include hstored hfiles

/-- Every cache that comes about is sound, if only homes are set. -/
theorem sound_of_run (hsteps : ∀ p, Sets steps p → IsHome p)
    (h : run (off disk) steps = .ok c) : c.Sound := by
  induction steps using List.reverseRecOn generalizing c with
  | nil =>
    obtain rfl := Except.ok.inj h
    exact sound_off hstored hfiles
  | append_singleton steps x ih =>
    simp only [sets_append_singleton_iff, or_imp, forall_and] at hsteps
    obtain ⟨c₁, hc₁, hstep⟩ := run_append_singleton_eq_ok_iff.mp h
    exact (ih hsteps.1 hc₁).step hsteps.2 hstep

/-- A run ends early only at a setting of whose shelf no system can be asked for. -/
theorem exists_run_eq_ok (hsteps : ∀ p, Sets steps p → IsHome p)
    (hpossible : ∀ p, Sets steps p → Disk.pathFailure? (shelf p) = none) :
    ∃ c, run (off disk) steps = .ok c := by
  induction steps using List.reverseRecOn with
  | nil => exact ⟨_, rfl⟩
  | append_singleton steps x ih =>
    simp only [sets_append_singleton_iff, or_imp, forall_and] at hsteps hpossible
    obtain ⟨c, hc⟩ := ih hsteps.1 hpossible.1
    have hsound := sound_of_run hstored hfiles hsteps.1 hc
    obtain ⟨c', hc'⟩ : ∃ c', step c x = .ok c' := by
      cases x with
      | set setting =>
        obtain ⟨c', notes, hconfigure⟩ := hsound.configure_ok (isHome_of_set hsteps.2)
          fun p hp => hpossible.2 p ⟨setting, List.mem_singleton_self _, hp⟩
        exact ⟨c', by rw [step, hconfigure]; rfl⟩
      | reduce markup => exact ⟨_, rfl⟩
      | clear => exact ⟨_, rfl⟩
    exact ⟨c', run_append_singleton_eq_ok_iff.mpr ⟨c, hc, hc'⟩⟩

/-- What is stored on the shelf of a home are the reductions that belong to its cache. -/
theorem mem_stored_iff (hsteps : ∀ p, Sets steps p → IsHome p)
    (h : run (off disk) steps = .ok c) (hp : IsHome p) {r : Reduction} :
    ⟨shelfSpot p, markup, r⟩ ∈ c.disk.stored ↔
      Markup.reduce markup = .ok r ∧ Holds disk steps p markup := by
  induction steps using List.reverseRecOn generalizing c with
  | nil =>
    obtain rfl := Except.ok.inj h
    simp [off, hstored, Holds]
  | append_singleton steps x ih =>
    simp only [sets_append_singleton_iff, or_imp, forall_and] at hsteps
    obtain ⟨c₁, hc₁, hstep⟩ := run_append_singleton_eq_ok_iff.mp h
    have hsound := sound_of_run hstored hfiles hsteps.1 hc₁
    rw [hsound.mem_step_iff hsteps.2 hstep hp, ih hsteps.1 hc₁, holds_append_singleton_iff]
    simp only [hc₁, Except.ok.injEq, forall_eq', exists_eq_left']
    tauto

/-- A cache is transparent and accounts exactly.  Let a program begin with its cache off, on
a disk on which nothing is stored and no file is where caches keep things, and let it only
set homes.  Unless a setting is of no use to any system, no step fails.  After any steps,
reducing gives every markup the reduction or the error that it has without a cache, and what
is stored are, once each, the reductions that belong to the caches that were used. -/
theorem run_accounts (hsteps : ∀ p, Sets steps p → IsHome p) :
    ((∀ p, Sets steps p → Disk.pathFailure? (shelf p) = none) →
        ∃ c, run (off disk) steps = .ok c) ∧
      ∀ c, run (off disk) steps = .ok c →
        (∀ markup, (c.reduce markup).1 = Markup.reduce markup) ∧
        (∀ e ∈ c.stored, ∃ p, IsHome p ∧ e.directory = shelfSpot p) ∧
        (∀ p markup r, IsHome p → (⟨shelfSpot p, markup, r⟩ ∈ c.stored ↔
          Markup.reduce markup = .ok r ∧ Holds disk steps p markup)) ∧
        (c.stored.map fun e => (e.directory, e.markup)).Nodup := by
  refine ⟨exists_run_eq_ok hstored hfiles hsteps, fun c hc => ?_⟩
  have hsound := sound_of_run hstored hfiles hsteps hc
  rw [hsound.stored_eq]
  refine ⟨hsound.reduce_fst, ?_, ?_, hsound.keys⟩
  · intro e he
    obtain ⟨p, hp, hplace, -⟩ := hsound.stored e he
    exact ⟨p, hp, hplace⟩
  · intro p markup r hp
    exact mem_stored_iff hstored hfiles hsteps hc hp

end

/-- The theorem at two caches, one inside the directory of the other.  Clearing the inner one
leaves what is stored in the outer one. -/
theorem run_accounts_nested :
    ∃ c, run (off ⟨[], [(⟨.above 0, ["notes".toList]⟩, "")], []⟩)
        [.set (some "a"), .reduce "w", .set (some "a/b"), .clear] = .ok c ∧
      ⟨shelfSpot ⟨[], [['a']]⟩, "w", [⟨[], .static "w"⟩]⟩ ∈ c.stored := by
  have houter : directoryOf (some "a") = some ⟨[], [['a']]⟩ := by decide +kernel
  have hinner : directoryOf (some "a/b") = some ⟨[], [['a'], ['b']]⟩ := by decide +kernel
  have hhome : IsHome ⟨[], [['a']]⟩ ∧ IsHome ⟨[], [['a'], ['b']]⟩ := by
    constructor <;> exact ⟨⟨rfl, by decide⟩, by decide, by decide⟩
  have hsets : ∀ p, Sets [.set (some "a"), .reduce "w", .set (some "a/b"), .clear] p →
      p = ⟨[], [['a']]⟩ ∨ p = ⟨[], [['a'], ['b']]⟩ := by
    rintro p ⟨setting, hmem, hset⟩
    simp only [List.mem_cons, Step.set.injEq, List.not_mem_nil, reduceCtorEq, false_or,
      or_false] at hmem
    rcases hmem with rfl | rfl
    · exact .inl (Option.some.inj (hset.symm.trans houter))
    · exact .inr (Option.some.inj (hset.symm.trans hinner))
  have hsteps : ∀ p, Sets [.set (some "a"), .reduce "w", .set (some "a/b"), .clear] p →
      IsHome p := by
    intro p hp
    rcases hsets p hp with rfl | rfl
    · exact hhome.1
    · exact hhome.2
  have hstored : (⟨[], [(⟨.above 0, ["notes".toList]⟩, "")], []⟩ : Disk).stored = [] := rfl
  obtain ⟨hruns, haccounts⟩ := run_accounts hstored (by decide) hsteps
  obtain ⟨c, hc⟩ := hruns fun p hp => by
    rcases hsets p hp with rfl | rfl <;> rfl
  obtain ⟨-, -, hmem, -⟩ := haccounts c hc
  have hreduce : Markup.reduce "w" = .ok [⟨[], .static "w"⟩] :=
    Markup.reduce_of_isText (by decide)
  refine ⟨c, hc, (hmem _ _ _ hhome.1).mpr ⟨hreduce, 1, rfl, ?_, ?_⟩⟩
  · obtain ⟨d, hd⟩ : ∃ d, configure (off ⟨[], [(⟨.above 0, ["notes".toList]⟩, "")], []⟩)
        (some "a") = .ok (⟨d, some ⟨[], [['a']]⟩, some ⟨[], [['a']]⟩⟩, []) :=
      ⟨_, by simp only [configure, houter]; rfl⟩
    have hfirst : run (off ⟨[], [(⟨.above 0, ["notes".toList]⟩, "")], []⟩)
        ([] ++ [.set (some "a")]) = .ok ⟨d, some ⟨[], [['a']]⟩, some ⟨[], [['a']]⟩⟩ := by
      refine run_append_singleton_eq_ok_iff.mpr ⟨_, rfl, ?_⟩
      simp only [step, hd]
      rfl
    exact ⟨_, hfirst, rfl⟩
  · -- The only later step that clears does so after the second change of the setting.
    intro j hj hclear c₃ hc₃ q hq
    have hthird : ∀ i < 4, 1 < i → ([.set (some "a"), .reduce "w", .set (some "a/b"), .clear] :
        List Step)[i]? = some .clear → i = 3 := by decide
    obtain rfl := hthird j (List.getElem?_eq_some_iff.mp hclear).1 hj hclear
    have hlast : run _ ([.set (some "a"), .reduce "w"] ++ [.set (some "a/b")]) = .ok c₃ := hc₃
    obtain ⟨c₂, -, hset⟩ := run_append_singleton_eq_ok_iff.mp hlast
    obtain ⟨notes, hconfigure⟩ := step_set_eq_ok hset
    have hdirectory : c₃.directory = directoryOf (some "a/b") := by
      refine (configure_eq_ok (fun p hp => ?_) hconfigure).1
      obtain rfl := Option.some.inj (hinner.symm.trans hp)
      exact hhome.2
    obtain rfl := Option.some.inj (hinner.symm.trans (hdirectory.symm.trans hq))
    decide

end Cache

end LogMarkup
