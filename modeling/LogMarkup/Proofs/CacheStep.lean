import LogMarkup.Cache
import LogMarkup.Proofs.Walking

/-!
# Steps of a cache

A cache is used by changing its setting, by reducing markup and by clearing.  Settings may
name directories inside each other, a file may be in the way of a directory, and a directory
may be removed while it is in use.  This module says what the caches have in common that come
about in this way, and what each of the three steps does to one of them.

Main results:

- `Cache.Sound.reduce_cases`, `Cache.Sound.cleared_cases`, `Cache.configure_eq_ok`: what the
  steps can do.
- `Cache.Sound.reduce_fst`: a sound cache gives every markup its reduction.
- `Cache.Sound.mem_reduce_iff`, `Cache.Sound.mem_cleared_iff`: what is stored after a
  reduction and after clearing.
- `Cache.Sound.configure_ok`: a setting can only fail on a path that no system can be asked
  for.
-/

namespace LogMarkup

namespace Cache

/-! ## Homes and shelves -/

/-- The name of the directory in which a cache keeps everything. -/
def ownName : List Char := "joblib".toList

/-- The path can be the directory of a cache: it names something below where the program
runs, and leads into no cache's own directory. -/
structure IsHome (p : Path) : Prop extends p.IsDownward where
  named : p.steps ≠ []
  outside : ownName ∉ p.steps

/-- Where the shelf of the cache in `p` is found. -/
def shelfSpot (p : Path) : Spot := Spot.here.follow (shelf p).steps

variable {p q : Path}

theorem IsHome.shelf (hp : IsHome p) : (shelf p).IsDownward where
  lead := hp.lead
  up := by
    have hnames : Path.up ∉ shelfNames := by decide
    simp [Cache.shelf, Path.append, hp.up, hnames]

/-- What is in front of the own directory of a cache, or inside. -/
theorem prefix_shelf {front : List (List Char)} (h : front <+: (shelf p).steps) :
    front <+: p.steps ∨ ownName ∈ front := by
  rcases Nat.le_total front.length p.steps.length with hle | hle
  · exact .inl (List.prefix_of_prefix_length_le h (List.prefix_append _ _) hle)
  · obtain ⟨inside, rfl⟩ := List.prefix_of_prefix_length_le (List.prefix_append _ _) h hle
    cases inside with
    | nil => exact .inl (by simp)
    | cons name inside =>
      have hinside : name :: inside <+: shelfNames := (List.prefix_append_right_inj _).mp h
      obtain ⟨rfl, -⟩ := List.cons_prefix_cons.mp hinside
      exact .inr (List.mem_append_right _ List.mem_cons_self)

/-- The shelf of a cache is within those directories in which its home is. -/
theorem shelfSpot_isWithin_iff (hq : IsHome q) :
    (shelfSpot p).isWithin (Spot.here.follow q.steps) = true ↔ q.steps <+: p.steps := by
  rw [shelfSpot, Spot.isWithin_follow_iff]
  constructor
  · intro h
    exact (prefix_shelf h).resolve_right hq.outside
  · intro h
    exact h.trans (List.prefix_append _ _)

theorem IsHome.endsInName (hp : IsHome p) : p.endsInName = true := by
  unfold Path.endsInName
  cases hlast : p.steps.getLast? with
  | none => exact absurd (List.getLast?_eq_none_iff.mp hlast) hp.named
  | some name =>
    have hne : name ≠ Path.up := by
      rintro rfl
      exact hp.up (List.mem_of_getLast? hlast)
    simpa using hne

/-- No two homes have the same shelf. -/
theorem shelfSpot_injective (hp : IsHome p) (hq : IsHome q) (h : shelfSpot p = shelfSpot q) :
    p = q := by
  have hsteps : p.steps = q.steps := List.append_cancel_right (Spot.follow_injective _ h)
  have hlead : p.lead = q.lead := hp.lead.trans hq.lead.symm
  cases p
  cases q
  exact Path.mk.injEq .. ▸ ⟨hlead, hsteps⟩

end Cache

namespace Disk

/-! ## What a setting may change -/

/-- There may be more directories, and more files outside the own directories of caches. -/
structure Grows (d d' : Disk) : Prop where
  files : ∀ f ∈ d'.files, f ∈ d.files ∨ Cache.ownName ∉ f.1.names
  stored : d'.stored = d.stored
  directories : d.directories ⊆ d'.directories

variable {d d' d'' : Disk}

theorem Grows.trans (h : d.Grows d') (h' : d'.Grows d'') : d.Grows d'' where
  files f hf := (h'.files f hf).elim (h.files f) .inr
  stored := h'.stored.trans h.stored
  directories := List.Subset.trans h.directories h'.directories

theorem Extends.grows (h : d.Extends d') : d.Grows d' where
  files _ hf := .inl (h.files ▸ hf)
  stored := h.stored
  directories := h.directories

/-- No file is in a cache's own directory, and so none is in the way to a shelf whose home
is there. -/
theorem isFree_shelf {p : Path} (hfiles : ∀ f ∈ d.files, Cache.ownName ∉ f.1.names)
    (hway : d.HasWay .here p.steps) : d.IsFree .here (Cache.shelf p).steps := by
  intro front hfront
  rcases Cache.prefix_shelf hfront with houtside | hinside
  · exact .inl (hway front houtside)
  · right
    rw [file?, Option.map_eq_none_iff, List.find?_eq_none]
    intro f hf hplace
    have hspot : f.1 = ⟨.above 0, front⟩ := by
      rw [of_decide_eq_true hplace, Spot.here_follow]
    exact hfiles f hf (by rw [hspot]; exact hinside)

end Disk

namespace Cache

variable {c c' : Cache} {d d' : Disk} {p q : Path} {markup : String} {r : Reduction}

/-- Telling version control to ignore a cache puts a file in its home at most. -/
theorem ignore_grows (hp : IsHome p) (h : ignore d p = .ok d') : d.Grows d' := by
  unfold ignore at h
  split at h
  next =>
    obtain rfl := Except.ok.inj h
    exact (Disk.Extends.refl d).grows
  next =>
    unfold Disk.write at h
    split at h
    next => cases h
    next => cases h
    next name _ hname =>
      have hbegin : (p.append [ignoreName]).begin = Spot.here := by
        rw [Path.begin, Path.append, if_pos hp.lead]
      have hsteps : (p.append [ignoreName]).steps.dropLast = p.steps := by
        simp [Path.append]
      obtain rfl : ignoreName = name := by simpa [Path.append] using hname
      rw [hbegin, hsteps] at h
      split at h
      next => cases h
      next d₁ s hmade =>
        have hextends := Disk.makeFrom_extends d .here p.steps
        obtain ⟨rfl, -⟩ := Disk.makeFrom_eq_ok hp.up (Disk.isDirectory_here d) hmade
        rw [hmade] at hextends
        unfold Disk.writeIn at h
        split at h
        next => cases h
        next =>
          split at h
          next => cases h
          next =>
            obtain rfl := Except.ok.inj h
            refine hextends.grows.trans ⟨?_, rfl, List.Subset.refl _⟩
            intro f hf
            rcases List.mem_cons.mp hf with rfl | hf
            · right
              have hother : ownName ≠ ignoreName := by decide
              simp [Spot.child, Spot.here_follow, hp.outside, hother]
            · exact .inl hf

/-- Preparing a directory for a cache stores and removes nothing.  If it succeeds, the
directory is there. -/
theorem prepare_grows (hp : IsHome p) {prepared : Bool} (h : prepare d p = (d', prepared)) :
    d.Grows d' ∧ (prepared = true → p.IsUsable ∧ d'.HasWay .here p.steps) := by
  have hmade := Disk.makeDirectories_extends d p
  unfold prepare at h
  split at h
  next d₁ f hd₁ =>
    obtain ⟨rfl, rfl⟩ := Prod.mk.inj h
    rw [hd₁] at hmade
    exact ⟨hmade.grows, nofun⟩
  next d₁ s hd₁ =>
    rw [hd₁] at hmade
    obtain ⟨-, husable, hway⟩ := Disk.makeDirectories_eq_ok hp.toIsDownward hd₁
    have hensured := Disk.ensure_extends d₁ (p.append (shelfNames.take 1))
    split at h
    next d₂ f hd₂ =>
      obtain ⟨rfl, rfl⟩ := Prod.mk.inj h
      rw [hd₂] at hensured
      exact ⟨(hmade.trans hensured).grows, nofun⟩
    next d₂ hd₂ =>
      rw [hd₂] at hensured
      split at h
      next =>
        obtain ⟨rfl, rfl⟩ := Prod.mk.inj h
        exact ⟨(hmade.trans hensured).grows, nofun⟩
      next d₃ hd₃ =>
        obtain ⟨rfl, rfl⟩ := Prod.mk.inj h
        have hignored := ignore_grows hp hd₃
        refine ⟨(hmade.trans hensured).grows.trans hignored, fun _ => ⟨husable, ?_⟩⟩
        exact hway.mono (hensured.grows.trans hignored).directories

/-! ## Sound caches -/

/-- What caches have in common that come about by steps: only homes are used, no file is in
the way to the shelf in use, and what is stored are reductions, on shelves that are there. -/
structure Sound (c : Cache) : Prop where
  files : ∀ f ∈ c.disk.files, ownName ∉ f.1.names
  home : ∀ p, c.directory = some p → IsHome p
  location : ∀ p, c.location = some p → c.directory = some p ∧ (shelf p).IsUsable ∧
    c.disk.IsFree .here (shelf p).steps
  stored : ∀ e ∈ c.disk.stored, ∃ p, IsHome p ∧ e.directory = shelfSpot p ∧
    (shelf p).IsUsable ∧ c.disk.HasWay .here (shelf p).steps
  reduced : ∀ e ∈ c.disk.stored, Markup.reduce e.markup = .ok e.reduction
  keys : (c.disk.stored.map fun e => (e.directory, e.markup)).Nodup

/-- A cache that is off is sound, if nothing is stored and no file is where caches keep
things. -/
theorem sound_off (hstored : d.stored = []) (hfiles : ∀ f ∈ d.files, ownName ∉ f.1.names) :
    (off d).Sound where
  files := hfiles
  home := nofun
  location := nofun
  stored := by simp [off, hstored]
  reduced := by simp [off, hstored]
  keys := by simp [off, hstored]

/-- Everything that is stored is below the directory in which the program runs. -/
theorem Sound.stored_eq (h : c.Sound) : c.stored = c.disk.stored := by
  rw [Cache.stored, List.filter_eq_self]
  intro e he
  obtain ⟨p, -, hplace, -⟩ := h.stored e he
  have hwithin := Spot.isWithin_follow_iff.mpr (List.nil_prefix (l := (shelf p).steps))
  rwa [Spot.follow_nil, ← shelfSpot, ← hplace] at hwithin

/-! ## Changing the setting -/

/-- What is there after a change of the setting. -/
theorem configure_eq_ok {setting : Option String} {notes : List Note}
    (hset : ∀ p, directoryOf setting = some p → IsHome p)
    (h : c.configure setting = .ok (c', notes)) :
    c'.directory = directoryOf setting ∧ c.disk.Grows c'.disk ∧
      ∀ p, c'.location = some p → directoryOf setting = some p ∧ (shelf p).IsUsable ∧
        c'.disk.HasWay .here p.steps := by
  unfold configure at h
  cases hdirectory : directoryOf setting with
  | none =>
    rw [hdirectory] at h
    obtain ⟨rfl, -⟩ := Prod.mk.inj (Except.ok.inj h)
    exact ⟨rfl, (Disk.Extends.refl _).grows, nofun⟩
  | some p =>
    have hp := hset p hdirectory
    rw [hdirectory] at h
    dsimp only at h
    split at h
    next => cases h
    next =>
      split at h
      next d hd =>
        obtain ⟨rfl, -⟩ := Prod.mk.inj (Except.ok.inj h)
        exact ⟨rfl, (prepare_grows hp hd).1, nofun⟩
      next d hd =>
        obtain ⟨hprepared, hready⟩ := prepare_grows hp hd
        have hensured := Disk.ensure_extends d (shelf p)
        split at h
        next => cases h
        next d' hd' =>
          obtain ⟨rfl, -⟩ := Prod.mk.inj (Except.ok.inj h)
          rw [hd'] at hensured
          obtain ⟨husable, -⟩ := Disk.ensure_eq_ok hp.shelf hd'
          refine ⟨rfl, hprepared.trans hensured.grows, ?_⟩
          rintro _ ⟨⟩
          exact ⟨rfl, husable, (hready rfl).2.mono hensured.directories⟩

/-- A change of the setting only fails if no system can be asked for the path of the
shelf. -/
theorem Sound.configure_ok (h : c.Sound) {setting : Option String}
    (hset : ∀ p, directoryOf setting = some p → IsHome p)
    (hpossible : ∀ p, directoryOf setting = some p → Disk.pathFailure? (shelf p) = none) :
    ∃ c' notes, c.configure setting = .ok (c', notes) := by
  unfold configure
  cases hdirectory : directoryOf setting with
  | none => exact ⟨_, _, rfl⟩
  | some p =>
    have hp := hset p hdirectory
    have hp_possible := Path.pathFailure?_of_prefix hp.shelf.lead hp.lead hp.named
      (List.prefix_append _ _) (hpossible p hdirectory)
    dsimp only
    have hnull : p.holdsNull = false := by
      unfold Disk.pathFailure? at hp_possible
      split at hp_possible
      next => cases hp_possible
      next hnull => simpa using hnull
    rw [if_neg (by simp [hnull])]
    split
    next => exact ⟨_, _, rfl⟩
    next d hd =>
      obtain ⟨hprepared, hready⟩ := prepare_grows hp hd
      obtain ⟨husable, hway⟩ := hready rfl
      have hfiles : ∀ f ∈ d.files, ownName ∉ f.1.names := by
        intro f hf
        exact (hprepared.files f hf).elim (h.files f) id
      have hnames : ∀ name ∈ shelfNames, Path.isTooLongName name = false := by decide
      have hshelf : (shelf p).IsUsable := by
        refine ⟨hp.shelf, hpossible p hdirectory, fun name hname => ?_⟩
        exact (List.mem_append.mp hname).elim (husable.short name) (hnames name)
      obtain ⟨d', hd'⟩ := Disk.ensure_of_isFree hshelf (Disk.isFree_shelf hfiles hway)
      rw [hd']
      exact ⟨_, _, rfl⟩

/-- A sound cache stays sound when the setting changes. -/
theorem Sound.configure (h : c.Sound) {setting : Option String} {notes : List Note}
    (hset : ∀ p, directoryOf setting = some p → IsHome p)
    (hc' : c.configure setting = .ok (c', notes)) : c'.Sound := by
  obtain ⟨hdirectory, hgrows, hlocation⟩ := configure_eq_ok hset hc'
  have hfiles : ∀ f ∈ c'.disk.files, ownName ∉ f.1.names := by
    intro f hf
    exact (hgrows.files f hf).elim (h.files f) id
  refine ⟨hfiles, ?_, ?_, ?_, ?_, ?_⟩
  · intro p hp
    exact hset p (hdirectory ▸ hp)
  · intro p hp
    obtain ⟨hset, husable, hway⟩ := hlocation p hp
    exact ⟨hdirectory.trans hset, husable, Disk.isFree_shelf hfiles hway⟩
  · rw [hgrows.stored]
    intro e he
    obtain ⟨p, hp, hplace, husable, hway⟩ := h.stored e he
    exact ⟨p, hp, hplace, husable, hway.mono hgrows.directories⟩
  · rw [hgrows.stored]
    exact h.reduced
  · rw [hgrows.stored]
    exact h.keys

/-! ## Reducing -/

/-- A reduction that is kept is stored on the shelf in use. -/
theorem Sound.mem_of_kept? (h : c.Sound) (hkept : c.kept? markup = some r) :
    ∃ p, c.location = some p ∧ ⟨shelfSpot p, markup, r⟩ ∈ c.disk.stored := by
  unfold Cache.kept? at hkept
  obtain ⟨p, hp, hkept⟩ := Option.bind_eq_some_iff.mp hkept
  obtain ⟨s, hs, hfound⟩ := Option.bind_eq_some_iff.mp hkept
  have hlocated : c.disk.locate (shelf p) = .ok s := by
    cases hl : c.disk.locate (shelf p) with
    | error f =>
      rw [hl] at hs
      cases hs
    | ok s' =>
      rw [hl] at hs
      exact congrArg _ (Option.some.inj hs)
  obtain ⟨hdirectory, husable, -⟩ := h.location p hp
  obtain ⟨rfl, -⟩ := Disk.locate_eq_ok husable.toIsDownward hlocated
  obtain ⟨e, he, rfl⟩ := Option.map_eq_some_iff.mp hfound
  obtain ⟨hplace, hmarkup⟩ : e.directory = Spot.here.follow (shelf p).steps ∧
      e.markup = markup := by simpa using List.find?_some he
  refine ⟨p, hp, ?_⟩
  rw [shelfSpot, ← hplace, ← hmarkup]
  exact List.mem_of_find?_eq_some he

/-- A reduction can be kept on the shelf in use. -/
theorem Sound.keep_eq (h : c.Sound) (hp : c.location = some p) (markup : String)
    (r : Reduction) : ∃ d, c.disk.Extends d ∧ d.HasWay .here (shelf p).steps ∧
      c.keep markup r = { c with disk := d.store (shelfSpot p) markup r } := by
  obtain ⟨-, husable, hfree⟩ := h.location p hp
  obtain ⟨d, hd⟩ := Disk.makeDirectories_of_isFree husable hfree
  have hextends := Disk.makeDirectories_extends c.disk (shelf p)
  obtain ⟨-, -, hway⟩ := Disk.makeDirectories_eq_ok husable.toIsDownward hd
  rw [hd] at hextends
  refine ⟨d, hextends, hway, ?_⟩
  simp only [keep, hp, hd]
  rfl

/-- What reducing can do: either the cache stays as it is, and has the reduction already if
it is in use, or the reduction is new and put on the shelf. -/
theorem Sound.reduce_cases (h : c.Sound) (markup : String) :
    (c.reduce markup = (Markup.reduce markup, c) ∧
        ∀ p r, c.location = some p → Markup.reduce markup = .ok r →
          ⟨shelfSpot p, markup, r⟩ ∈ c.disk.stored) ∨
      ∃ p r d, c.location = some p ∧ Markup.reduce markup = .ok r ∧ c.disk.Extends d ∧
        d.HasWay .here (shelf p).steps ∧
        c.reduce markup = (Markup.reduce markup,
          { c with disk := d.store (shelfSpot p) markup r }) := by
  unfold Cache.reduce
  cases hkept : c.kept? markup with
  | some r =>
    obtain ⟨p, hp, hmem⟩ := h.mem_of_kept? hkept
    have hreduce : Markup.reduce markup = .ok r := h.reduced ⟨shelfSpot p, markup, r⟩ hmem
    refine .inl ⟨by rw [hreduce], ?_⟩
    rintro q r' hq hr'
    obtain rfl := Option.some.inj (hp.symm.trans hq)
    obtain rfl := Except.ok.inj (hreduce.symm.trans hr')
    exact hmem
  | none =>
    cases hreduce : Markup.reduce markup with
    | error e => exact .inl ⟨rfl, by rintro p r - ⟨⟩⟩
    | ok r =>
      cases hlocation : c.location with
      | none =>
        refine .inl ⟨?_, nofun⟩
        simp only [keep, hlocation]
      | some p =>
        obtain ⟨d, hextends, hway, hkeep⟩ := h.keep_eq hlocation markup r
        refine .inr ⟨p, r, d, rfl, rfl, hextends, hway, ?_⟩
        simp only [hkeep, hlocation]

/-- A sound cache gives every markup its reduction, or its error. -/
theorem Sound.reduce_fst (h : c.Sound) (markup : String) :
    (c.reduce markup).1 = Markup.reduce markup := by
  rcases h.reduce_cases markup with ⟨heq, -⟩ | ⟨p, r, d, -, -, -, -, heq⟩
  · rw [heq]
  · rw [heq]

/-- Afterwards the reduction is stored on the shelf in use, and nothing else is new. -/
theorem Sound.mem_reduce_iff (h : c.Sound) {e : Stored} :
    e ∈ (c.reduce markup).2.disk.stored ↔ e ∈ c.disk.stored ∨
      (e.markup = markup ∧ Markup.reduce markup = .ok e.reduction ∧
        ∃ p, c.location = some p ∧ e.directory = shelfSpot p) := by
  rcases h.reduce_cases markup with ⟨heq, hmem⟩ | ⟨p, r, d, hp, hreduce, hextends, -, heq⟩
  · rw [heq]
    constructor
    · exact .inl
    · rintro (he | ⟨rfl, hreduce, p, hp, hplace⟩)
      · exact he
      · have hstored := hmem p e.reduction hp hreduce
        rwa [← hplace] at hstored
  · rw [heq]
    simp only [Disk.store, hextends.stored, List.mem_cons, List.mem_filter, decide_eq_true_eq]
    constructor
    · rintro (rfl | ⟨he, -⟩)
      · exact .inr ⟨rfl, hreduce, p, hp, rfl⟩
      · exact .inl he
    · intro he
      by_cases hkey : e.directory = shelfSpot p ∧ e.markup = markup
      · left
        obtain ⟨hplace, hmarkup⟩ := hkey
        have hreduction : Markup.reduce markup = .ok e.reduction := by
          rcases he with he | ⟨-, hr, -⟩
          · rw [← hmarkup]
            exact h.reduced e he
          · exact hr
        obtain rfl := Except.ok.inj (hreduction.symm.trans hreduce)
        rw [← hplace, ← hmarkup]
      · right
        rcases he with he | ⟨hmarkup, -, q, hq, hplace⟩
        · exact ⟨he, hkey⟩
        · obtain rfl := Option.some.inj (hp.symm.trans hq)
          exact absurd ⟨hplace, hmarkup⟩ hkey

/-- A sound cache stays sound when it reduces. -/
theorem Sound.reduce (h : c.Sound) (markup : String) : (c.reduce markup).2.Sound := by
  rcases h.reduce_cases markup with ⟨heq, -⟩ | ⟨p, r, d, hp, hreduce, hextends, hway, heq⟩
  · rw [heq]
    exact h
  rw [heq]
  obtain ⟨hdirectory, husable, -⟩ := h.location p hp
  refine ⟨?_, h.home, ?_, ?_, ?_, ?_⟩
  · exact hextends.files ▸ h.files
  · intro q hq
    obtain ⟨hdirectory, husable, hfree⟩ := h.location q hq
    exact ⟨hdirectory, husable, hextends.isFree hfree⟩
  · intro e he
    rcases List.mem_cons.mp he with rfl | he
    · exact ⟨p, h.home p hdirectory, rfl, husable, hway⟩
    · have hold := (List.mem_filter.mp he).1
      rw [hextends.stored] at hold
      obtain ⟨q, hq, hplace, husable, hway⟩ := h.stored e hold
      exact ⟨q, hq, hplace, husable, hway.mono hextends.directories⟩
  · intro e he
    rcases List.mem_cons.mp he with rfl | he
    · exact hreduce
    · have hold := (List.mem_filter.mp he).1
      rw [hextends.stored] at hold
      exact h.reduced e hold
  · -- What was stored of this markup is replaced.
    simp only [Disk.store, hextends.stored, List.map_cons, List.nodup_cons]
    constructor
    · intro hmem
      obtain ⟨e, he, hkey⟩ := List.mem_map.mp hmem
      obtain ⟨hplace, hmarkup⟩ := Prod.mk.inj hkey
      have hother := (List.mem_filter.mp he).2
      simp [hplace, hmarkup] at hother
    · exact h.keys.sublist (List.filter_sublist.map _)

/-! ## Clearing -/

/-- The cache after it was cleared; if that fails, as it was. -/
def cleared (c : Cache) : Cache :=
  match c.clear with
  | .ok (c', _) => c'
  | .error _ => c

/-- What clearing can do: either the cache stays as it is, and nothing is stored within its
directory, or everything within its directory is removed. -/
theorem Sound.cleared_cases (h : c.Sound) :
    (c.cleared = c ∧ ∀ q, c.directory = some q → ∀ e ∈ c.disk.stored,
        e.directory.isWithin (Spot.here.follow q.steps) = false) ∨
      ∃ q, c.directory = some q ∧
        c.cleared = { c with disk := c.disk.without (·.isWithin (Spot.here.follow q.steps)) } := by
  rcases Option.eq_none_or_eq_some c.directory with hq | ⟨q, hq⟩
  · refine .inl ⟨?_, fun q hq' => absurd (hq.symm.trans hq') nofun⟩
    simp only [cleared, clear, hq]
  have hhome := h.home q hq
  by_cases hthere : c.disk.locate q = .ok (Spot.here.follow q.steps) ∧
      c.disk.isDirectory (Spot.here.follow q.steps) = true
  · obtain ⟨hlocate, hdirectory⟩ := hthere
    refine .inr ⟨q, hq, ?_⟩
    simp only [cleared, clear, hq, hlocate, Disk.removeDirectory, hdirectory, hhome.endsInName]
    rfl
  · refine .inl ⟨?_, ?_⟩
    · cases hlocate : c.disk.locate q with
      | error f => cases f <;> simp only [cleared, clear, hq, hlocate]
      | ok s =>
        obtain ⟨rfl, -⟩ := Disk.locate_eq_ok hhome.toIsDownward hlocate
        have hnone : c.disk.isDirectory (Spot.here.follow q.steps) = false := by
          simpa [hlocate] using hthere
        simp only [cleared, clear, hq, hlocate, Disk.removeDirectory, hnone]
        change (⟨c.disk, some q, c.location⟩ : Cache) = c
        rw [← hq]
    · -- What is stored within the directory would be reached through it.
      intro q' hq' e he
      obtain rfl := Option.some.inj (hq.symm.trans hq')
      rw [Bool.eq_false_iff]
      intro hwithin
      obtain ⟨p, -, hplace, husable, hway⟩ := h.stored e he
      rw [hplace, shelfSpot, Spot.isWithin_follow_iff] at hwithin
      have hway' := hway.of_prefix hwithin
      have husable' := husable.of_prefix hhome.toIsDownward hhome.named hwithin
      exact hthere ⟨Disk.locate_of_hasWay husable' hway', hway' _ List.prefix_rfl⟩

/-- After clearing, nothing is stored within the directory, and everything else is. -/
theorem Sound.mem_cleared_iff (h : c.Sound) {e : Stored} :
    e ∈ c.cleared.disk.stored ↔ e ∈ c.disk.stored ∧ ∀ q, c.directory = some q →
      e.directory.isWithin (Spot.here.follow q.steps) = false := by
  rcases h.cleared_cases with ⟨heq, hnone⟩ | ⟨q, hq, heq⟩
  · rw [heq]
    exact ⟨fun he => ⟨he, fun q hq => hnone q hq e he⟩, And.left⟩
  · rw [heq]
    simp only [Disk.without, List.mem_filter, Bool.not_eq_eq_eq_not, Bool.not_true, hq,
      Option.some.injEq, forall_eq']

/-- A sound cache stays sound when it is cleared. -/
theorem Sound.clear (h : c.Sound) : c.cleared.Sound := by
  rcases h.cleared_cases with ⟨heq, -⟩ | ⟨q, hq, heq⟩
  · rw [heq]
    exact h
  rw [heq]
  have hstored : ∀ e ∈ (c.disk.without (·.isWithin (Spot.here.follow q.steps))).stored,
      e ∈ c.disk.stored ∧ e.directory.isWithin (Spot.here.follow q.steps) = false := by
    intro e he
    simpa [Disk.without] using he
  refine ⟨?_, h.home, ?_, ?_, ?_, ?_⟩
  · intro f hf
    exact h.files f (List.mem_filter.mp hf).1
  · intro p hp
    obtain ⟨hdirectory, husable, hfree⟩ := h.location p hp
    exact ⟨hdirectory, husable, hfree.without⟩
  · intro e he
    obtain ⟨he, hkept⟩ := hstored e he
    obtain ⟨p, hp, hplace, husable, hway⟩ := h.stored e he
    refine ⟨p, hp, hplace, husable, hway.without fun front hfront => ?_⟩
    rw [Bool.eq_false_iff]
    intro hwithin
    rw [Spot.isWithin_follow_iff] at hwithin
    rw [hplace, shelfSpot, Bool.eq_false_iff, ne_eq, Spot.isWithin_follow_iff] at hkept
    exact hkept (hwithin.trans hfront)
  · intro e he
    exact h.reduced e (hstored e he).1
  · exact h.keys.sublist (List.filter_sublist.map _)

end Cache

end LogMarkup
