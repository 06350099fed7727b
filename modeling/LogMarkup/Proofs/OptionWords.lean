import LogMarkup.CommandLine.Words
import LogMarkup.Proofs.LongestMatch

/-!
# What the words of a command line say

The reader takes words one by one and looks into each of them.  Here it is said the other
way round how options and plain words are written, and that the reader understands just
that, as long as the names of the options can be told from everything else.

Main results:

- `Words.splitOption_eq_iff`: an option is split into what it is written of.
- `Words.read_eq_some_iff`: what is read is what the words say.
- `Words.Says.mono`: where more options are known, the words say the same.
-/

namespace LogMarkup

variable {σ : Type}

namespace Words

/-! ## Splitting an option -/

/-- How an option is written: by its name, and perhaps a value behind an equals sign. -/
def optionWord (name : String) : Option String → String
  | none => name
  | some value => name ++ "=" ++ value

/-- An option is split into the name and the value that it is written of. -/
theorem splitOption_eq_iff {word name : String} {value? : Option String} :
    splitOption word = (name, value?) ↔ '=' ∉ name.toList ∧ word = optionWord name value? := by
  constructor
  · intro h
    obtain ⟨hname, hhead, hword⟩ := (@Terminal.span_eq_iff (· != '=') word.toList _ _).mp rfl
    rw [splitOption] at h
    generalize word.toList.takeWhile (· != '=') = cs at h hname hword
    generalize word.toList.dropWhile (· != '=') = rest at h hhead hword
    have hnone : '=' ∉ cs := fun hmem => by simpa using hname _ hmem
    cases rest with
    | nil =>
      obtain ⟨rfl, rfl⟩ := Prod.mk.inj h
      rw [List.append_nil] at hword
      refine ⟨by rwa [String.toList_ofList], ?_⟩
      rw [optionWord, ← hword, String.ofList_toList]
    | cons c value =>
      obtain ⟨rfl, rfl⟩ := Prod.mk.inj h
      obtain rfl : c = '=' := by simpa using hhead c rfl
      refine ⟨by rwa [String.toList_ofList], ?_⟩
      rw [← String.toList_inj, hword]
      simp [optionWord]
  · rintro ⟨hname, rfl⟩
    have hall : ∀ c ∈ name.toList, (c != '=') = true := by
      intro c hc
      simpa using fun h : c = '=' => hname (h ▸ hc)
    cases value? with
    | none =>
      obtain ⟨htake, hdrop⟩ := Prod.mk.inj (Terminal.span_eq_iff.mpr
        ⟨hall, by simp, (List.append_nil name.toList).symm⟩)
      rw [splitOption, optionWord, htake, hdrop, String.ofList_toList]
    | some value =>
      have hword : (optionWord name (some value)).toList =
          name.toList ++ '=' :: value.toList := by
        simp [optionWord]
      obtain ⟨htake, hdrop⟩ := Prod.mk.inj (Terminal.span_eq_iff.mpr ⟨hall, by simp, hword⟩)
      rw [splitOption, htake, hdrop]
      simp only [String.ofList_toList]

end Words

/-! ## What words say -/

/-- The names of the options can be told from everything else: they look like options, have
no equals sign, and none of them names both an option with and one without a value. -/
structure Options.WellNamed (o : Options σ) : Prop where
  /-- Options are not mistaken for plain words or for the end of the options. -/
  isOption : ∀ {name : String}, (o.valued name).isSome = true ∨ (o.flag name).isSome = true →
    name ≠ "--" ∧ Words.isOption name = true
  /-- No name is cut at an equals sign. -/
  whole : ∀ {name : String}, (o.valued name).isSome = true ∨ (o.flag name).isSome = true →
    '=' ∉ name.toList
  /-- A name stands for one option. -/
  valued_of_flag : ∀ {name : String}, (o.flag name).isSome = true → o.valued name = none

/-- The options are known in a larger table, too, and set the same there. -/
structure Options.Within (o o' : Options σ) : Prop where
  /-- The options that take a value. -/
  valued : ∀ {name : String} {f : String → σ}, o.valued name = some f → o'.valued name = some f
  /-- The options that take none. -/
  flag : ∀ {name : String} {s : σ}, o.flag name = some s → o'.flag name = some s

/-- With the names of a larger table those of a smaller one can be told from everything else. -/
theorem Options.WellNamed.of_within {o o' : Options σ} (h : o'.WellNamed) (ho : o.Within o') :
    o.WellNamed := by
  have hvalued : ∀ {name : String}, (o.valued name).isSome = true →
      (o'.valued name).isSome = true := by
    intro name hname
    obtain ⟨f, hf⟩ := Option.isSome_iff_exists.mp hname
    exact Option.isSome_of_eq_some (ho.valued hf)
  have hflag : ∀ {name : String}, (o.flag name).isSome = true → (o'.flag name).isSome = true := by
    intro name hname
    obtain ⟨s, hs⟩ := Option.isSome_iff_exists.mp hname
    exact Option.isSome_of_eq_some (ho.flag hs)
  constructor
  case isOption => exact fun hname => h.isOption (hname.imp hvalued hflag)
  case whole => exact fun hname => h.whole (hname.imp hvalued hflag)
  case valued_of_flag =>
    intro name hname
    have hnone := h.valued_of_flag (hflag hname)
    by_contra hsome
    have hknown := hvalued (Option.isSome_iff_ne_none.mpr hsome)
    rw [hnone] at hknown
    contradiction

namespace Words

/-- What the words behind a command say: each of them is plain or belongs to an option, until
two hyphens end the options. -/
inductive Says (o : Options σ) : List String → Words σ → Prop
  /-- No words say nothing. -/
  | nil : Says o [] empty
  /-- Behind two hyphens every word is plain. -/
  | ended (rest : List String) : Says o ("--" :: rest) ⟨[], rest⟩
  /-- A word that does not look like an option is plain. -/
  | plain {word : String} {rest : List String} {w : Words σ} (hword : isOption word = false)
      (hrest : Says o rest w) : Says o (word :: rest) (w.add word)
  /-- An option without a value. -/
  | flag {name : String} {s : σ} {rest : List String} {w : Words σ}
      (hname : o.flag name = some s) (hrest : Says o rest w) : Says o (name :: rest) (w.set s)
  /-- An option with its value in the next word. -/
  | valued {name value : String} {f : String → σ} {rest : List String} {w : Words σ}
      (hname : o.valued name = some f) (hrest : Says o rest w) :
      Says o (name :: value :: rest) (w.set (f value))
  /-- An option with its value behind an equals sign. -/
  | joined {name value : String} {f : String → σ} {rest : List String} {w : Words σ}
      (hname : o.valued name = some f) (hrest : Says o rest w) :
      Says o (optionWord name (some value) :: rest) (w.set (f value))

/-- Where more options are known, the words say the same. -/
theorem Says.mono {o o' : Options σ} (ho : o.Within o') {words : List String} {w : Words σ}
    (h : Says o words w) : Says o' words w := by
  induction h with
  | nil => exact .nil
  | ended rest => exact .ended rest
  | plain hword _ ih => exact .plain hword ih
  | flag hname _ ih => exact .flag (ho.flag hname) ih
  | valued hname _ ih => exact .valued (ho.valued hname) ih
  | joined hname _ ih => exact .joined (ho.valued hname) ih

/-- With a value behind an equals sign an option still looks like one. -/
theorem isOption_optionWord {name : String} (hname : isOption name = true) (value : String) :
    optionWord name (some value) ≠ "--" ∧ isOption (optionWord name (some value)) = true := by
  constructor
  · intro h
    have hmem : '=' ∈ (optionWord name (some value)).toList := by simp [optionWord]
    rw [h] at hmem
    contradiction
  · unfold isOption at hname
    split at hname
    next c cs hchars => simp [isOption, optionWord, hchars]
    next => contradiction

/-- What the words say is read. -/
theorem Says.read_eq {o : Options σ} (ho : o.WellNamed) {words : List String} {w : Words σ}
    (h : Says o words w) : read o words = some w := by
  induction h with
  | nil => rfl
  | ended rest => exact read_end o rest
  | @plain word _ _ hword _ ih =>
    have hne : word ≠ "--" := by
      rintro rfl
      contradiction
    rw [read, if_neg hne, hword, ih]
    rfl
  | @flag name _ _ _ hname _ ih =>
    have hknown := Option.isSome_of_eq_some hname
    obtain ⟨hne, hoption⟩ := ho.isOption (.inr hknown)
    have hsplit : splitOption name = (name, none) :=
      splitOption_eq_iff.mpr ⟨ho.whole (.inr hknown), rfl⟩
    simp [read, hne, hoption, hsplit, hname, ho.valued_of_flag hknown, ih]
  | @valued name _ _ _ _ hname _ ih =>
    have hknown := Option.isSome_of_eq_some hname
    obtain ⟨hne, hoption⟩ := ho.isOption (.inl hknown)
    have hsplit : splitOption name = (name, none) :=
      splitOption_eq_iff.mpr ⟨ho.whole (.inl hknown), rfl⟩
    simp [read, hne, hoption, hsplit, hname, ih]
  | @joined name value _ _ _ hname _ ih =>
    have hknown := Option.isSome_of_eq_some hname
    obtain ⟨hne, hoption⟩ := isOption_optionWord (ho.isOption (.inl hknown)).2 value
    have hsplit : splitOption (optionWord name (some value)) = (name, some value) :=
      splitOption_eq_iff.mpr ⟨ho.whole (.inl hknown), rfl⟩
    simp [read, hne, hoption, hsplit, hname, ih]

/-- Only what the words say is read. -/
theorem says_of_read_eq {o : Options σ} {words : List String} {w : Words σ}
    (h : read o words = some w) : Says o words w := by
  fun_induction read o words generalizing w with
  | case1 =>
    obtain rfl := Option.some.inj h
    exact .nil
  | case2 rest =>
    obtain rfl := Option.some.inj h
    exact .ended rest
  | case3 word rest _ _ name f value hname hsplit ih =>
    obtain ⟨v, hv, rfl⟩ := Option.map_eq_some_iff.mp h
    obtain ⟨-, rfl⟩ := splitOption_eq_iff.mp hsplit
    exact .joined hname (ih hv)
  | case5 word _ _ name f hname value rest hsplit ih =>
    obtain ⟨v, hv, rfl⟩ := Option.map_eq_some_iff.mp h
    obtain ⟨-, rfl⟩ := splitOption_eq_iff.mp hsplit
    exact .valued hname (ih hv)
  | case6 word rest _ _ name s hname _ hsplit ih =>
    obtain ⟨v, hv, rfl⟩ := Option.map_eq_some_iff.mp h
    obtain ⟨-, rfl⟩ := splitOption_eq_iff.mp hsplit
    exact .flag hname (ih hv)
  | case8 word rest _ hword ih =>
    obtain ⟨v, hv, rfl⟩ := Option.map_eq_some_iff.mp h
    exact .plain (Bool.eq_false_iff.mpr hword) (ih hv)
  | case4 | case7 => contradiction

/-- What is read is what the words say. -/
theorem read_eq_some_iff {o : Options σ} (ho : o.WellNamed) {words : List String}
    {w : Words σ} : read o words = some w ↔ Says o words w :=
  ⟨says_of_read_eq, Says.read_eq ho⟩

end Words

end LogMarkup
