/-!
# Words of a command line

The words behind a command are options and plain words, in any order.  An option is a
word that begins with a hyphen and is more than that.  Some options take a value:
either the rest of the word behind an equals sign, or the next word, whatever that is.
Two hyphens alone end the options.

Main results:

- `Words.read_plain`: words without hyphens in front are plain words.
- `Words.read_end`: behind two hyphens every word is plain.
-/

namespace LogMarkup

/-- The options that a command knows; each gives a setting. -/
structure Options (σ : Type) where
  /-- The setting of an option that takes a value. -/
  valued : String → Option (String → σ)
  /-- The setting of an option that takes none. -/
  flag : String → Option σ

/-- What the words behind a command say. -/
structure Words (σ : Type) where
  /-- The settings of the options, in order. -/
  settings : List σ
  /-- The plain words, in order. -/
  plain : List String
deriving Repr

namespace Words

variable {σ : Type}

/-- No words. -/
def empty : Words σ := ⟨[], []⟩

/-- The words with one more setting in front. -/
def set (w : Words σ) (s : σ) : Words σ := { w with settings := s :: w.settings }

/-- The words with one more plain word in front. -/
def add (w : Words σ) (word : String) : Words σ := { w with plain := word :: w.plain }

/-- Is the word an option? -/
def isOption (word : String) : Bool :=
  match word.toList with
  | '-' :: _ :: _ => true
  | _ => false

/-- The name of an option, and its value behind an equals sign if there is one. -/
def splitOption (word : String) : String × Option String :=
  let cs := word.toList
  let name := String.ofList (cs.takeWhile (· != '='))
  match cs.dropWhile (· != '=') with
  | [] => (name, none)
  | _ :: value => (name, some (String.ofList value))

/-- What the words say; nothing if an option is not known or lacks its value. -/
def read (o : Options σ) : List String → Option (Words σ)
  | [] => some empty
  | word :: rest =>
      if word = "--" then some ⟨[], rest⟩
      else if isOption word then
        let (name, value?) := splitOption word
        match o.valued name, o.flag name, value? with
        | some f, _, some value => (read o rest).map (·.set (f value))
        | some f, _, none =>
            match rest with
            | [] => none
            | value :: rest => (read o rest).map (·.set (f value))
        | none, some s, none => (read o rest).map (·.set s)
        | none, _, _ => none
      else (read o rest).map (·.add word)

/-- Words without hyphens in front are plain words. -/
theorem read_plain (o : Options σ) {words : List String}
    (h : ∀ w ∈ words, w ≠ "--" ∧ isOption w = false) : read o words = some ⟨[], words⟩ := by
  induction words with
  | nil => rfl
  | cons w words ih =>
    obtain ⟨hne, hoption⟩ := h w (by simp)
    rw [read, if_neg hne, hoption, ih fun v hv => h v (by simp [hv])]
    rfl

/-- Behind two hyphens every word is plain. -/
theorem read_end (o : Options σ) (words : List String) :
    read o ("--" :: words) = some ⟨[], words⟩ := by
  rw [read, if_pos rfl]

end Words

end LogMarkup
