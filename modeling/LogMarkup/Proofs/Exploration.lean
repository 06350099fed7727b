import LogMarkup.Concrete.Parse
import LogMarkup.Proofs.Derivation
import LogMarkup.Proofs.Scanning

/-!
# What exploring finds

A chain from a reading over a text is a sequence of lexemes that scanning takes from the
text and that the reading can take.  Exploring follows all chains at once.  What it finds
is described by the places that chains reach: a complete message if some chain ends with
one, and otherwise the furthest of these places with what is expected there.

Main results:

- `Reading.reaches_iff`: a chain is empty, or begins with one of the continuations.
- `Reading.describes_explore`: exploring finds out what the chains reach.
- `Reading.reaches_initial_iff_viable`, `Reading.reaches_allowed_iff_viable`: the chains
  of a text are the sequences of longest matches whose terminals begin a derivable one.
-/

namespace LogMarkup

namespace Reading

/-! ## Chains -/

/-- A chain leads from the reading `r`, before `s`, to the reading `r'`, before `rest`. -/
def Reaches (r : Reading) (s : List Char) (r' : Reading) (rest : List Char) : Prop :=
  ∃ ls, Scans s ls rest ∧ r.run ls = some r'

/-- Without words a reading can take the terminals that it can take with them. -/
theorem allows_of_advance {r r' : Reading} {t : Terminal} {w : List Char}
    (h : r.advance t w = some r') : r.allows t = true := by
  cases advance_eq_some_iff.mp h <;> simp_all [allows, advance]

theorem reaches_refl (r : Reading) (s : List Char) : r.Reaches s r s :=
  ⟨[], .nil s, rfl⟩

/-- A chain is empty, or begins with one of the continuations. -/
theorem reaches_iff {r r' : Reading} {s rest : List Char} :
    r.Reaches s r' rest ↔
      (r' = r ∧ rest = s) ∨ ∃ p ∈ r.next s, Reaches p.1 p.2 r' rest := by
  constructor
  · rintro ⟨_, hscans, hrun⟩
    cases hscans with
    | nil => exact .inl ⟨(Option.some.inj hrun).symm, rfl⟩
    | @cons l ls _ mid _ hmatch hscans =>
      obtain ⟨r₁, hadvances, hrun⟩ := run_cons_eq_some_iff.mp hrun
      have hadvance : r.advance l.kind l.chars = some r₁ := advance_eq_some_iff.mpr hadvances
      refine .inr ⟨(r₁, mid), ?_, ls, hscans, hrun⟩
      exact mem_next_iff.mpr ⟨l.kind, l.chars, allows_of_advance hadvance, hmatch, hadvance⟩
  · rintro (⟨rfl, rfl⟩ | ⟨⟨r₁, mid⟩, hp, ls, hscans, hrun⟩)
    · exact reaches_refl _ _
    · obtain ⟨t, w, -, hmatch, hadvance⟩ := mem_next_iff.mp hp
      have hadvances : Advances r ⟨t, w⟩ r₁ := advance_eq_some_iff.mp hadvance
      exact ⟨⟨t, w⟩ :: ls, .cons hmatch hscans, run_cons_eq_some_iff.mpr ⟨r₁, hadvances, hrun⟩⟩

end Reading

/-! ## What a set of chains amounts to -/

/-- The outcome is what chains with these ends amount to. -/
def Outcome.Describes (ends : Reading → List Char → Prop) : Outcome → Prop
  | finished m => ∃ r, ends r [] ∧ r.finished? = some m
  | stuck l expected =>
      (∀ r, ends r [] → r.finished? = none) ∧ (∃ r s, ends r s ∧ s.length = l) ∧
        (∀ r s, ends r s → l ≤ s.length) ∧
        ∀ t, t ∈ expected ↔ ∃ r s, ends r s ∧ s.length = l ∧ t ∈ r.allowed

namespace Outcome

variable {ends ends' : Reading → List Char → Prop}

/-- Chains that do not get as far do not count. -/
theorem Describes.or_of_lt {l l' : Nat} {e e' : List Terminal}
    (h : (stuck l e).Describes ends) (h' : (stuck l' e').Describes ends') (hlt : l < l') :
    (stuck l e).Describes (fun r s => ends r s ∨ ends' r s) := by
  obtain ⟨hnone, ⟨r, s, hends, hl⟩, hle, hmem⟩ := h
  obtain ⟨hnone', -, hle', -⟩ := h'
  refine ⟨fun r hr => hr.elim (hnone r) (hnone' r), ⟨r, s, .inl hends, hl⟩, ?_, ?_⟩
  · rintro r s (hr | hr)
    · exact hle r s hr
    · exact hlt.le.trans (hle' r s hr)
  · intro t
    rw [hmem]
    constructor
    · rintro ⟨r, s, hr, hlength, ht⟩
      exact ⟨r, s, .inl hr, hlength, ht⟩
    · rintro ⟨r, s, hr | hr, hlength, ht⟩
      · exact ⟨r, s, hr, hlength, ht⟩
      · have hfar := hle' r s hr
        omega

/-- Chains that get equally far count together. -/
theorem Describes.or_same {l : Nat} {e e' : List Terminal}
    (h : (stuck l e).Describes ends) (h' : (stuck l e').Describes ends') :
    (stuck l (e ++ e')).Describes (fun r s => ends r s ∨ ends' r s) := by
  obtain ⟨hnone, ⟨r, s, hends, hl⟩, hle, hmem⟩ := h
  obtain ⟨hnone', -, hle', hmem'⟩ := h'
  refine ⟨fun r hr => hr.elim (hnone r) (hnone' r), ⟨r, s, .inl hends, hl⟩,
    fun r s hr => hr.elim (hle r s) (hle' r s), fun t => ?_⟩
  rw [List.mem_append, hmem, hmem']
  constructor
  · rintro (⟨r, s, hr, ht⟩ | ⟨r, s, hr, ht⟩)
    · exact ⟨r, s, .inl hr, ht⟩
    · exact ⟨r, s, .inr hr, ht⟩
  · rintro ⟨r, s, hr | hr, ht⟩
    · exact .inl ⟨r, s, hr, ht⟩
    · exact .inr ⟨r, s, hr, ht⟩

/-- Two sets of chains amount together to what they amount to one by one. -/
theorem Describes.merge {o o' : Outcome} (ho : o.Describes ends)
    (ho' : o'.Describes ends') : (o.merge o').Describes (fun r s => ends r s ∨ ends' r s) := by
  cases o with
  | finished m =>
    obtain ⟨r, hr, hm⟩ := ho
    exact ⟨r, .inl hr, hm⟩
  | stuck l e =>
    cases o' with
    | finished m =>
      obtain ⟨r, hr, hm⟩ := ho'
      exact ⟨r, .inr hr, hm⟩
    | stuck l' e' =>
      rw [Outcome.merge]
      rcases lt_trichotomy l l' with hlt | rfl | hlt
      · rw [if_pos hlt]
        exact ho.or_of_lt ho' hlt
      · rw [if_neg (lt_irrefl l), if_neg (lt_irrefl l)]
        exact ho.or_same ho'
      · rw [if_neg hlt.not_gt, if_pos hlt]
        simpa only [or_comm] using ho'.or_of_lt ho hlt

/-- Many sets of chains amount together to what they amount to one by one. -/
theorem Describes.foldl_merge {β : Type} {reach : β → Reading → List Char → Prop}
    {f : β → Outcome} {o : Outcome} (ho : o.Describes ends) {xs : List β}
    (hxs : ∀ x ∈ xs, (f x).Describes (reach x)) :
    ((xs.map f).foldl Outcome.merge o).Describes
      (fun r s => ends r s ∨ ∃ x ∈ xs, reach x r s) := by
  induction xs generalizing o ends with
  | nil => simpa using ho
  | cons x xs ih =>
    have hx := ho.merge (hxs x List.mem_cons_self)
    have hmerge := ih hx fun y hy => hxs y (List.mem_cons_of_mem x hy)
    simpa [or_assoc] using hmerge

end Outcome

namespace Reading

/-- The chain that stops at once amounts to what it is taken for. -/
theorem describes_stop (r : Reading) (s : List Char) :
    (r.stop s).Describes (fun r' rest => r' = r ∧ rest = s) := by
  have hstuck (hnone : s = [] → r.finished? = none) :
      (Outcome.stuck s.length r.allowed).Describes (fun r' rest => r' = r ∧ rest = s) := by
    refine ⟨?_, ⟨r, s, ⟨rfl, rfl⟩, rfl⟩, ?_, by simp⟩
    · rintro r' ⟨rfl, hs⟩
      exact hnone hs.symm
    · rintro r' rest ⟨rfl, rfl⟩
      exact le_rfl
  cases s with
  | cons c s => exact hstuck (by simp)
  | nil =>
    cases hm : r.finished? with
    | none =>
      have hstop : r.stop [] = .stuck 0 r.allowed := by simp [stop, hm]
      rw [hstop]
      exact hstuck fun _ => hm
    | some m => simp [stop, hm, Outcome.Describes]

/-- Exploring finds out what the chains reach.  The induction is on what is left of the
text, since every continuation takes something from it. -/
theorem describes_explore (r : Reading) (s : List Char) :
    (r.explore s).Describes (r.Reaches s) := by
  induction hlength : s.length using Nat.strong_induction_on generalizing r s with
  | h n ih =>
    subst hlength
    have hnext : ∀ p ∈ r.next s, (p.1.explore p.2).Describes (Reaches p.1 p.2) :=
      fun p hp => ih p.2.length (length_lt_of_mem_next hp) p.1 p.2 rfl
    have hmerge := (describes_stop r s).foldl_merge hnext
    rw [explore_eq]
    convert hmerge using 3
    exact reaches_iff

/-! ## Chains of a text -/

/-- The chains of a text are the sequences of longest matches whose terminals begin a
derivable sequence. -/
theorem reaches_initial_iff_viable {s rest : List Char} :
    (∃ r, initial.Reaches s r rest) ↔ ∃ ls, Scans s ls rest ∧ Viable (ls.map Lexeme.kind) := by
  constructor
  · rintro ⟨r, ls, hscans, hrun⟩
    exact ⟨ls, hscans, viable_iff.mpr ⟨r, hrun⟩⟩
  · rintro ⟨ls, hscans, hviable⟩
    obtain ⟨r, hrun⟩ := viable_iff.mp hviable
    exact ⟨r, ls, hscans, hrun⟩

/-- A terminal is allowed behind a chain exactly when with it the chain's terminals still
begin a derivable sequence. -/
theorem reaches_allowed_iff_viable {s rest : List Char} {t : Terminal} :
    (∃ r, initial.Reaches s r rest ∧ t ∈ r.allowed) ↔
      ∃ ls, Scans s ls rest ∧ Viable (ls.map Lexeme.kind ++ [t]) := by
  have happend : ∀ ls : List Lexeme, Viable (ls.map Lexeme.kind ++ [t]) ↔
      ∃ r, initial.run (ls ++ [⟨t, []⟩]) = some r := by
    intro ls
    rw [← viable_iff, List.map_append, List.map_singleton]
  constructor
  · rintro ⟨r, ⟨ls, hscans, hrun⟩, ht⟩
    obtain ⟨r', hr'⟩ := Option.isSome_iff_exists.mp (mem_allowed_iff.mp ht)
    have hlast : r.run [⟨t, []⟩] = some r' :=
      run_cons_eq_some_iff.mpr ⟨r', advance_eq_some_iff.mp hr', rfl⟩
    refine ⟨ls, hscans, (happend ls).mpr ⟨r', ?_⟩⟩
    rw [run_append, hrun]
    exact hlast
  · rintro ⟨ls, hscans, hviable⟩
    obtain ⟨r', hr'⟩ := (happend ls).mp hviable
    rw [run_append] at hr'
    obtain ⟨r, hrun, hlast⟩ := Option.bind_eq_some_iff.mp hr'
    obtain ⟨_, hadvances, -⟩ := run_cons_eq_some_iff.mp hlast
    refine ⟨r, ⟨ls, hscans, hrun⟩, mem_allowed_iff.mpr ?_⟩
    exact Option.isSome_iff_exists.mpr ⟨_, advance_eq_some_iff.mpr hadvances⟩

end Reading

end LogMarkup
