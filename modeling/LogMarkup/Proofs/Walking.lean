import LogMarkup.Disk

/-!
# Walking downward

A path that never goes up leads from the directory in which the program runs down through
one directory for each of its steps.  This module says when such a path can be walked and
when its directories can be made, in terms of what is on the disk along the way: a walk needs
all directories, and making them only needs that no file is in the way.

Main results:

- `Disk.makeFrom_eq_ok`, `Disk.makeFrom_of_free`: what is there when directories were made,
  and that they can be made where no file is in the way.
- `Disk.walk_eq_ok`, `Disk.walk_of_hasWay`: what is there when a walk succeeds, and that the
  way down can be walked.
- `Disk.makeDirectories_extends`, `Disk.ensure_extends`: making directories changes nothing
  else.
-/

namespace LogMarkup

/-! ## Places below a directory -/

namespace Spot

/-- Where these names lead from `s`, each inside the one before. -/
def follow (s : Spot) (names : List (List Char)) : Spot := { s with names := s.names ++ names }

@[simp] theorem follow_nil (s : Spot) : s.follow [] = s := by simp [follow]

@[simp] theorem follow_cons (s : Spot) (name : List Char) (names : List (List Char)) :
    s.follow (name :: names) = (s.child name).follow names := by
  simp [follow, child]

theorem here_follow (names : List (List Char)) : here.follow names = ⟨.above 0, names⟩ := by
  simp [follow, here]

theorem follow_injective (s : Spot) : Function.Injective s.follow := by
  intro xs ys h
  simpa [follow] using h

/-- Below where the program runs, a place is within another exactly if the names of the
other lead to it. -/
theorem isWithin_follow_iff {xs ys : List (List Char)} :
    (here.follow xs).isWithin (here.follow ys) = true ↔ ys <+: xs := by
  have hinside : (here.follow xs).isInside (here.follow ys) = (ys.isPrefixOf xs && xs != ys) := by
    simp [isInside, here_follow]
  rw [isWithin, hinside, Bool.or_eq_true, Bool.and_eq_true, List.isPrefixOf_iff_prefix]
  constructor
  · rintro (h | ⟨h, -⟩)
    · obtain rfl := follow_injective here (eq_of_beq h)
      exact List.prefix_rfl
    · exact h
  · intro h
    by_cases heq : xs = ys
    · subst heq
      exact .inl (beq_self_eq_true _)
    · exact .inr ⟨h, bne_iff_ne.mpr heq⟩

end Spot

/-! ## Paths that never go up -/

namespace Path

/-- The path begins where the program runs and never goes up. -/
structure IsDownward (p : Path) : Prop where
  lead : p.lead = []
  up : Path.up ∉ p.steps

/-- A path that never goes up, and that a system can be asked for. -/
structure IsUsable (p : Path) : Prop extends p.IsDownward where
  possible : Disk.pathFailure? p = none
  short : ∀ name ∈ p.steps, isTooLongName name = false

/-- More pieces are written behind the others. -/
theorem joinPieces_prefix {xs : List (List Char)} (h : xs ≠ []) (ys : List (List Char)) :
    joinPieces xs <+: joinPieces (xs ++ ys) := by
  induction xs with
  | nil => contradiction
  | cons x xs ih =>
    cases xs with
    | nil =>
      cases ys with
      | nil => exact List.prefix_rfl
      | cons y ys => exact List.prefix_append x _
    | cons z zs =>
      change x ++ '/' :: joinPieces (z :: zs) <+: x ++ '/' :: joinPieces (z :: zs ++ ys)
      rw [List.prefix_append_right_inj, List.cons_prefix_cons]
      exact ⟨rfl, ih (by simp)⟩

/-- Where a path without a lead goes on, it is written on. -/
theorem chars_prefix {p q : Path} (hp : p.lead = []) (hq : q.lead = []) (hne : q.steps ≠ [])
    (h : q.steps <+: p.steps) : q.chars <+: p.chars := by
  obtain ⟨more, hmore⟩ := h
  have hsteps : p.steps ≠ [] := by
    rw [← hmore]
    simp [hne]
  rw [chars, chars, if_neg (fun h => hne h.2), if_neg (fun h => hsteps h.2), hp, hq, ← hmore]
  exact joinPieces_prefix hne more

/-- What a system can be asked for, it can be asked for the beginning of. -/
theorem pathFailure?_of_prefix {p q : Path} (hp : p.lead = []) (hq : q.lead = [])
    (hne : q.steps ≠ []) (h : q.steps <+: p.steps) (hpossible : Disk.pathFailure? p = none) :
    Disk.pathFailure? q = none := by
  obtain ⟨more, hmore⟩ := chars_prefix hp hq hne h
  unfold Disk.pathFailure? at hpossible
  split at hpossible
  next => contradiction
  next hnull =>
    split at hpossible
    next => contradiction
    next hlong =>
      have hnull' : ¬ q.holdsNull = true := by
        intro hq
        apply hnull
        rw [holdsNull, List.contains_iff_mem] at hq ⊢
        rw [← hmore]
        exact List.mem_append_left _ hq
      have hlong' : ¬ q.isTooLong = true := by
        intro hq
        apply hlong
        rw [isTooLong, decide_eq_true_eq, text] at hq ⊢
        rw [← hmore, String.ofList_append, String.utf8ByteSize_append]
        exact Nat.lt_add_right _ hq
      rw [Disk.pathFailure?, if_neg hnull', if_neg hlong']

theorem IsUsable.of_prefix {p q : Path} (hp : p.IsUsable) (hq : q.IsDownward)
    (hne : q.steps ≠ []) (h : q.steps <+: p.steps) : q.IsUsable where
  toIsDownward := hq
  possible := pathFailure?_of_prefix hp.lead hq.lead hne h hp.possible
  short name hname := hp.short name (h.subset hname)

end Path

namespace Disk

/-! ## Along the way -/

/-- There is a directory at each place on the way that the names lead from `s`. -/
def HasWay (d : Disk) (s : Spot) (names : List (List Char)) : Prop :=
  ∀ front, front <+: names → d.isDirectory (s.follow front) = true

/-- There is no file on the way that the names lead from `s`. -/
def IsFree (d : Disk) (s : Spot) (names : List (List Char)) : Prop :=
  ∀ front, front <+: names → d.isDirectory (s.follow front) = true ∨
    d.file? (s.follow front) = none

variable {d d' d'' : Disk} {s t : Spot} {name : List Char} {names steps : List (List Char)}

theorem isDirectory_mono (h : d.directories ⊆ d'.directories) (hs : d.isDirectory s = true) :
    d'.isDirectory s = true := by
  simp only [isDirectory, Bool.or_eq_true, decide_eq_true_eq] at hs ⊢
  exact hs.imp_right fun hmem => h hmem

theorem HasWay.mono (hway : d.HasWay s names) (h : d.directories ⊆ d'.directories) :
    d'.HasWay s names :=
  fun front hfront => isDirectory_mono h (hway front hfront)

theorem HasWay.of_prefix (h : d.HasWay s names) (hsteps : steps <+: names) :
    d.HasWay s steps :=
  fun front hfront => h front (hfront.trans hsteps)

/-- Something is true all the way exactly if it is true at its start, and all the way from
the first step. -/
theorem forall_prefix_cons_iff (P : Spot → Prop) :
    (∀ front, front <+: name :: names → P (s.follow front)) ↔
      P s ∧ ∀ front, front <+: names → P ((s.child name).follow front) := by
  constructor
  · intro h
    refine ⟨by simpa using h [] List.nil_prefix, fun front hfront => ?_⟩
    simpa using h (name :: front) (List.cons_prefix_cons.mpr ⟨rfl, hfront⟩)
  · rintro ⟨hs, h⟩ front hfront
    rcases List.prefix_cons_iff.mp hfront with rfl | ⟨rest, rfl, hrest⟩
    · simpa using hs
    · simpa using h rest hrest

theorem hasWay_cons_iff :
    d.HasWay s (name :: names) ↔ d.isDirectory s = true ∧ d.HasWay (s.child name) names :=
  forall_prefix_cons_iff fun t => d.isDirectory t = true

theorem isFree_cons_iff :
    d.IsFree s (name :: names) ↔ (d.isDirectory s = true ∨ d.file? s = none) ∧
      d.IsFree (s.child name) names :=
  forall_prefix_cons_iff fun t => d.isDirectory t = true ∨ d.file? t = none

/-- Nothing is changed on the disk, but there may be more directories. -/
structure Extends (d d' : Disk) : Prop where
  files : d'.files = d.files
  stored : d'.stored = d.stored
  directories : d.directories ⊆ d'.directories

namespace Extends

theorem refl (d : Disk) : d.Extends d := ⟨rfl, rfl, List.Subset.refl _⟩

theorem trans (h : d.Extends d') (h' : d'.Extends d'') : d.Extends d'' :=
  ⟨h'.files.trans h.files, h'.stored.trans h.stored, List.Subset.trans h.directories h'.directories⟩

theorem file? (h : d.Extends d') : d'.file? s = d.file? s := by
  rw [Disk.file?, Disk.file?, h.files]

theorem isFree (h : d.Extends d') (hfree : d.IsFree s names) : d'.IsFree s names := by
  intro front hfront
  rw [h.file?]
  exact (hfree front hfront).imp_left (isDirectory_mono h.directories)

end Extends

/-! ## Making directories -/

/-- One more directory. -/
theorem extends_added (d : Disk) (s : Spot) :
    d.Extends { d with directories := s :: d.directories } :=
  ⟨rfl, rfl, List.subset_cons_self s d.directories⟩

/-- Making directories changes nothing else. -/
theorem makeFrom_extends (d : Disk) (s : Spot) (steps : List (List Char)) :
    d.Extends (d.makeFrom s steps).1 := by
  fun_induction makeFrom d s steps with
  | case1 d s => exact .refl d
  | case2 d s steps ih => exact ih
  | case3 d s step steps => exact .refl d
  | case4 d s step steps _ _ next _ ih => exact ih
  | case5 d s step steps => exact .refl d
  | case6 d s step steps _ _ next _ _ ih =>
    exact (extends_added d next).trans ih

theorem makeDirectories_extends (d : Disk) (p : Path) : d.Extends (d.makeDirectories p).1 := by
  unfold makeDirectories
  split
  · exact .refl d
  · exact makeFrom_extends d p.begin p.steps

/-- So does making sure that there is something at the end of a path. -/
theorem ensure_extends (d : Disk) (p : Path) : d.Extends (d.ensure p).1 := by
  unfold ensure
  split
  · exact .refl d
  · exact makeDirectories_extends d p

/-- Where directories could be made, the way down is there. -/
theorem makeFrom_eq_ok (hup : Path.up ∉ steps) (hs : d.isDirectory s = true)
    (h : d.makeFrom s steps = (d', .ok t)) :
    t = s.follow steps ∧ (∀ name ∈ steps, Path.isTooLongName name = false) ∧
      d'.HasWay s steps := by
  induction steps generalizing d s with
  | nil =>
    obtain ⟨rfl, rfl⟩ : d = d' ∧ s = t := by simpa [makeFrom] using h
    refine ⟨by simp, by simp, fun front hfront => ?_⟩
    obtain rfl := List.prefix_nil.mp hfront
    simpa using hs
  | cons step steps ih =>
    obtain ⟨hstep, hup⟩ : step ≠ Path.up ∧ Path.up ∉ steps := by
      simpa [eq_comm] using hup
    rw [makeFrom, if_neg hstep] at h
    by_cases hlong : Path.isTooLongName step = true
    · rw [if_pos hlong] at h
      cases h
    rw [if_neg hlong] at h
    dsimp only at h
    -- Whether the next directory is there or is made now, the rest is made below it.
    obtain ⟨d₁, hd₁, hnext, hrest⟩ : ∃ d₁, d.Extends d₁ ∧
        d₁.isDirectory (s.child step) = true ∧ d₁.makeFrom (s.child step) steps = (d', .ok t) := by
      by_cases hnext : d.isDirectory (s.child step) = true
      · rw [if_pos hnext] at h
        exact ⟨d, .refl d, hnext, h⟩
      · rw [if_neg hnext] at h
        by_cases hfile : (d.file? (s.child step)).isSome = true
        · rw [if_pos hfile] at h
          cases h
        · rw [if_neg hfile] at h
          exact ⟨_, extends_added d _, by simp [isDirectory], h⟩
    obtain ⟨rfl, hshort, hway⟩ := ih hup hnext hrest
    have hextends := makeFrom_extends d₁ (s.child step) steps
    rw [hrest] at hextends
    have hs' := isDirectory_mono (hd₁.trans hextends).directories hs
    refine ⟨by simp, ?_, hasWay_cons_iff.mpr ⟨hs', hway⟩⟩
    intro name hname
    rcases List.mem_cons.mp hname with rfl | hname
    · simpa using hlong
    · exact hshort name hname

/-- Directories can be made where no file is in the way. -/
theorem makeFrom_of_free (hup : Path.up ∉ steps)
    (hshort : ∀ name ∈ steps, Path.isTooLongName name = false) (hfree : d.IsFree s steps) :
    ∃ d', d.makeFrom s steps = (d', .ok (s.follow steps)) := by
  induction steps generalizing d s with
  | nil => exact ⟨d, by simp [makeFrom]⟩
  | cons step steps ih =>
    obtain ⟨hstep, hup⟩ : step ≠ Path.up ∧ Path.up ∉ steps := by
      simpa [eq_comm] using hup
    obtain ⟨hlong, hshort⟩ := List.forall_mem_cons.mp hshort
    obtain ⟨-, hfree⟩ := isFree_cons_iff.mp hfree
    have hnext : d.isDirectory (s.child step) = true ∨ d.file? (s.child step) = none := by
      simpa using hfree [] List.nil_prefix
    rw [makeFrom, if_neg hstep, if_neg (by simp [hlong]), Spot.follow_cons]
    dsimp only
    by_cases hdirectory : d.isDirectory (s.child step) = true
    · rw [if_pos hdirectory]
      exact ih hup hshort hfree
    · have hfile := hnext.resolve_left hdirectory
      rw [if_neg hdirectory, if_neg (by simp [hfile])]
      exact ih hup hshort ((extends_added d _).isFree hfree)

/-! ## Walking -/

/-- Where a walk succeeds, there are directories all along the way, save perhaps at its
end. -/
theorem walk_eq_ok (hup : Path.up ∉ steps) (h : d.walk s steps = .ok t) :
    t = s.follow steps ∧ (∀ name ∈ steps, Path.isTooLongName name = false) ∧
      ∀ front, front <+: steps → front ≠ steps → d.isDirectory (s.follow front) = true := by
  induction steps generalizing s with
  | nil =>
    obtain rfl : s = t := by simpa [walk] using h
    refine ⟨by simp, by simp, fun front hfront hne => ?_⟩
    exact absurd (List.prefix_nil.mp hfront) hne
  | cons step steps ih =>
    obtain ⟨hstep, hup⟩ : step ≠ Path.up ∧ Path.up ∉ steps := by
      simpa [eq_comm] using hup
    rw [walk] at h
    by_cases hs : d.isDirectory s = true
    · rw [if_neg (by simp [hs]), if_neg hstep] at h
      by_cases hlong : Path.isTooLongName step = true
      · rw [if_pos hlong] at h
        cases h
      rw [if_neg hlong] at h
      dsimp only at h
      split at h
      next =>
        obtain ⟨rfl, hshort, hway⟩ := ih hup h
        refine ⟨by simp, ?_, fun front hfront hne => ?_⟩
        · intro name hname
          rcases List.mem_cons.mp hname with rfl | hname
          · simpa using hlong
          · exact hshort name hname
        · rcases List.prefix_cons_iff.mp hfront with rfl | ⟨rest, rfl, hrest⟩
          · simpa using hs
          · simpa using hway rest hrest fun heq => hne (by rw [heq])
      next => cases h
    · rw [if_pos (by simp [hs])] at h
      cases h

/-- The way down can be walked. -/
theorem walk_of_hasWay (hup : Path.up ∉ steps)
    (hshort : ∀ name ∈ steps, Path.isTooLongName name = false) (hway : d.HasWay s steps) :
    d.walk s steps = .ok (s.follow steps) := by
  induction steps generalizing s with
  | nil => simp [walk]
  | cons step steps ih =>
    obtain ⟨hstep, hup⟩ : step ≠ Path.up ∧ Path.up ∉ steps := by
      simpa [eq_comm] using hup
    obtain ⟨hlong, hshort⟩ := List.forall_mem_cons.mp hshort
    obtain ⟨hs, hway⟩ := hasWay_cons_iff.mp hway
    have hnext : d.isDirectory (s.child step) = true := by
      simpa using hway [] List.nil_prefix
    rw [walk, if_neg (by simp [hs]), if_neg hstep, if_neg (by simp [hlong]),
      if_pos (by simp [hnext]), ih hup hshort hway, Spot.follow_cons]

/-! ## Removing -/

/-- A directory that is not removed stays. -/
theorem isDirectory_without {gone : Spot → Bool} (hs : d.isDirectory s = true)
    (hgone : gone s = false) : (d.without gone).isDirectory s = true := by
  simp only [isDirectory, without, Bool.or_eq_true, decide_eq_true_eq, List.mem_filter] at hs ⊢
  exact hs.imp_right fun hmem => ⟨hmem, by simp [hgone]⟩

/-- A way stays if nothing on it is removed. -/
theorem HasWay.without {gone : Spot → Bool} (h : d.HasWay s names)
    (hgone : ∀ front, front <+: names → gone (s.follow front) = false) :
    (d.without gone).HasWay s names :=
  fun front hfront => isDirectory_without (h front hfront) (hgone front hfront)

/-- Where a place is removed, it is removed with its file. -/
theorem file?_without_eq_none {gone : Spot → Bool} (hs : d.file? s = none ∨ gone s = true) :
    (d.without gone).file? s = none := by
  rw [file?, Option.map_eq_none_iff, List.find?_eq_none]
  intro f hf hplace
  obtain ⟨hf, hkept⟩ := List.mem_filter.mp hf
  rcases hs with hs | hs
  · rw [file?, Option.map_eq_none_iff, List.find?_eq_none] at hs
    exact hs f hf hplace
  · rw [of_decide_eq_true hplace, hs] at hkept
    contradiction

/-- Removing places brings no file in the way. -/
theorem IsFree.without {gone : Spot → Bool} (h : d.IsFree s names) :
    (d.without gone).IsFree s names := by
  intro front hfront
  cases hgone : gone (s.follow front) with
  | true => exact .inr (file?_without_eq_none (.inr hgone))
  | false =>
    rcases h front hfront with hdirectory | hfile
    · exact .inl (isDirectory_without hdirectory hgone)
    · exact .inr (file?_without_eq_none (.inl hfile))

/-! ## Paths on a disk -/

variable {p : Path}

theorem begin_of_isDownward (hp : p.IsDownward) : p.begin = Spot.here := by
  rw [Path.begin, if_pos hp.lead]

/-- Where a path leads that never goes up. -/
theorem locate_eq_ok (hp : p.IsDownward) (h : d.locate p = .ok t) :
    t = Spot.here.follow p.steps ∧ p.IsUsable ∧
      ∀ front, front <+: p.steps → front ≠ p.steps →
        d.isDirectory (Spot.here.follow front) = true := by
  unfold locate at h
  cases hpossible : pathFailure? p with
  | some f =>
    rw [hpossible] at h
    cases h
  | none =>
    rw [hpossible, begin_of_isDownward hp] at h
    obtain ⟨ht, hshort, hway⟩ := walk_eq_ok hp.up h
    exact ⟨ht, ⟨hp, hpossible, hshort⟩, hway⟩

theorem locate_of_hasWay (hp : p.IsUsable) (hway : d.HasWay .here p.steps) :
    d.locate p = .ok (Spot.here.follow p.steps) := by
  rw [locate, hp.possible, begin_of_isDownward hp.toIsDownward]
  exact walk_of_hasWay hp.up hp.short hway

theorem isDirectory_here (d : Disk) : d.isDirectory .here = true := rfl

/-- What is there when the directories of a path were made. -/
theorem makeDirectories_eq_ok (hp : p.IsDownward) (h : d.makeDirectories p = (d', .ok t)) :
    t = Spot.here.follow p.steps ∧ p.IsUsable ∧ d'.HasWay .here p.steps := by
  unfold makeDirectories at h
  cases hpossible : pathFailure? p with
  | some f =>
    rw [hpossible] at h
    cases h
  | none =>
    rw [hpossible, begin_of_isDownward hp] at h
    obtain ⟨ht, hshort, hway⟩ := makeFrom_eq_ok hp.up (isDirectory_here d) h
    exact ⟨ht, ⟨hp, hpossible, hshort⟩, hway⟩

theorem makeDirectories_of_isFree (hp : p.IsUsable) (hfree : d.IsFree .here p.steps) :
    ∃ d', d.makeDirectories p = (d', .ok (Spot.here.follow p.steps)) := by
  rw [makeDirectories, hp.possible, begin_of_isDownward hp.toIsDownward]
  exact makeFrom_of_free hp.up hp.short hfree

/-- What is there when something is at the end of a path. -/
theorem ensure_eq_ok (hp : p.IsDownward) (h : d.ensure p = (d', .ok ())) :
    p.IsUsable ∧ ∀ front, front <+: p.steps → front ≠ p.steps →
      d'.isDirectory (Spot.here.follow front) = true := by
  unfold ensure at h
  split at h
  next hcontains =>
    obtain ⟨rfl, -⟩ := Prod.mk.inj h
    rw [contains] at hcontains
    cases hlocate : d.locate p with
    | error f =>
      rw [hlocate] at hcontains
      contradiction
    | ok t =>
      obtain ⟨-, husable, hway⟩ := locate_eq_ok hp hlocate
      exact ⟨husable, hway⟩
  next =>
    cases hmade : d.makeDirectories p with
    | mk d₁ r =>
      rw [hmade] at h
      obtain ⟨rfl, hr⟩ := Prod.mk.inj h
      cases r with
      | error f => cases hr
      | ok t =>
        obtain ⟨-, husable, hway⟩ := makeDirectories_eq_ok hp hmade
        exact ⟨husable, fun front hfront _ => hway front hfront⟩

/-- Something can be put at the end of a path if no file is in the way. -/
theorem ensure_of_isFree (hp : p.IsUsable) (hfree : d.IsFree .here p.steps) :
    ∃ d', d.ensure p = (d', .ok ()) := by
  unfold ensure
  split
  · exact ⟨d, rfl⟩
  · obtain ⟨d', hmade⟩ := makeDirectories_of_isFree hp hfree
    rw [hmade]
    exact ⟨d', rfl⟩

end Disk

end LogMarkup
