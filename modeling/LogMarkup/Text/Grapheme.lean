import LogMarkup.Text.CellWidth
import LogMarkup.Total

/-!
# Graphemes

Some characters are shown together, and then the cells that they fill are not the sum of
what each of them fills: a joiner lets the character behind it melt into the one in front,
and a selector asks for the picture of the character in front, which can be wider.

Counting the cells of a text and dividing it into graphemes differ at the beginning of a
text, where a joiner has nothing in front.  It takes the next character away from what is
counted, and makes a grapheme of its own.

Main results:

- `cellCount_append`: without joiners and selectors, texts side by side fill the cells of
  both.
- `flatten_graphemes`: dividing a text into graphemes loses nothing.
- `resize_of_plain`: a text of plain characters can always be brought to a width.
-/

namespace LogMarkup

/-- The character that joins its neighbours. -/
def joiner : Char := '\u200d'

/-- The character that asks for the picture of the one in front. -/
def pictureSelector : Char := '\ufe0f'

/-! ## Counting cells -/

/-- How many cells a text fills behind `last`, the last character that fills a cell. -/
def cellCountBehind (last : Option Char) : List Char → Nat
  | [] => 0
  | c :: s =>
      if c = joiner then
        match s with
        | [] => 0
        | _ :: s => cellCountBehind last s
      else if c = pictureSelector then
        (if last.any hasWidePicture then 1 else 0) + cellCountBehind none s
      else cellWidth c + cellCountBehind (if cellWidth c = 0 then last else some c) s

/-- How many cells a text fills. -/
def cellCount (s : List Char) : Nat := cellCountBehind none s

/-- Is the character neither a joiner nor a selector? -/
def isPlain (c : Char) : Bool := c != joiner && c != pictureSelector

/-- A space is plain. -/
theorem isPlain_space : isPlain ' ' = true := by decide

/-- Spaces are plain. -/
theorem isPlain_of_mem_replicate_space {n : Nat} {c : Char} (h : c ∈ List.replicate n ' ') :
    isPlain c = true := by
  rw [List.eq_of_mem_replicate h, isPlain_space]

/-- A plain text fills what its characters fill. -/
theorem cellCountBehind_of_plain {s : List Char} (h : ∀ c ∈ s, isPlain c = true)
    (last : Option Char) : cellCountBehind last s = total (s.map cellWidth) := by
  induction s generalizing last with
  | nil => rfl
  | cons c s ih =>
    have hc := h c (by simp)
    simp only [isPlain, Bool.and_eq_true, bne_iff_ne, ne_eq] at hc
    rw [cellCountBehind.eq_def]
    simp only [hc.1, hc.2, if_false, List.map_cons, total_cons]
    rw [ih fun d hd => h d (by simp [hd])]

/-- Plain texts side by side fill the cells of both. -/
theorem cellCount_append {s t : List Char} (hs : ∀ c ∈ s, isPlain c = true)
    (ht : ∀ c ∈ t, isPlain c = true) : cellCount (s ++ t) = cellCount s + cellCount t := by
  have hst : ∀ c ∈ s ++ t, isPlain c = true := by
    intro c hc
    rcases List.mem_append.1 hc with hc | hc
    · exact hs c hc
    · exact ht c hc
  simp only [cellCount, cellCountBehind_of_plain hs, cellCountBehind_of_plain ht,
    cellCountBehind_of_plain hst, List.map_append, total_append]

/-- Spaces fill a cell each. -/
theorem cellCount_replicate_space (n : Nat) : cellCount (List.replicate n ' ') = n := by
  rw [cellCount, cellCountBehind_of_plain fun _ => isPlain_of_mem_replicate_space,
    List.map_replicate, cellWidth_space, total_replicate, Nat.mul_one]

/-! ## Graphemes -/

/-- Characters that are shown together. -/
structure Grapheme where
  /-- The characters. -/
  chars : List Char
  /-- How many cells they fill together. -/
  width : Nat
deriving DecidableEq, Repr

/-- The grapheme with more characters, and as many cells more. -/
def Grapheme.extend (g : Grapheme) (cs : List Char) (cells : Nat) : Grapheme :=
  ⟨g.chars ++ cs, g.width + cells⟩

/-- The graphemes of a text that continues `g`, behind `last`, the last character that
fills a cell. -/
def graphemesFrom (g : Grapheme) (last : Option Char) : List Char → List Grapheme
  | [] => [g]
  | c :: s =>
      if c = joiner then
        match s with
        | [] => [g.extend [c] 0]
        | d :: s => graphemesFrom (g.extend [c, d] 0) last s
      else if c = pictureSelector then
        if last.any hasWidePicture then graphemesFrom (g.extend [c] 1) none s
        else graphemesFrom (g.extend [c] 0) last s
      else if cellWidth c = 0 then graphemesFrom (g.extend [c] 0) last s
      else g :: graphemesFrom ⟨[c], cellWidth c⟩ (some c) s

/-- The graphemes of a text.  Its first character begins one, whatever it is. -/
def graphemes : List Char → List Grapheme
  | [] => []
  | c :: s => graphemesFrom ⟨[c], cellWidth c⟩ (if cellWidth c = 0 then none else some c) s

theorem flatten_graphemesFrom (g : Grapheme) (last : Option Char) (s : List Char) :
    ((graphemesFrom g last s).map Grapheme.chars).flatten = g.chars ++ s := by
  fun_induction graphemesFrom g last s <;> simp_all [Grapheme.extend]

/-- Dividing a text into graphemes loses nothing. -/
theorem flatten_graphemes (s : List Char) : ((graphemes s).map Grapheme.chars).flatten = s := by
  cases s with
  | nil => rfl
  | cons c s => simp [graphemes, flatten_graphemesFrom]

/-- Are the characters plain, and do they fill what the grapheme fills? -/
def Grapheme.IsPlain (g : Grapheme) : Prop :=
  (∀ c ∈ g.chars, isPlain c = true) ∧ total (g.chars.map cellWidth) = g.width ∧ g.width ≤ 2

/-- The graphemes of a plain text are plain. -/
theorem isPlain_of_mem_graphemesFrom {g : Grapheme} {last : Option Char} {s : List Char}
    (hg : g.IsPlain) (hs : ∀ c ∈ s, isPlain c = true) :
    ∀ g' ∈ graphemesFrom g last s, g'.IsPlain := by
  induction s generalizing g last with
  | nil => simpa [graphemesFrom] using hg
  | cons c s ih =>
    have hc : isPlain c = true := hs c (by simp)
    have htail : ∀ d ∈ s, isPlain d = true := fun d hd => hs d (by simp [hd])
    have hne := hc
    simp only [isPlain, Bool.and_eq_true, bne_iff_ne, ne_eq] at hne
    rw [graphemesFrom.eq_def]
    simp only [hne.1, hne.2, if_false]
    split
    next hzero =>
      refine ih ⟨?_, ?_, ?_⟩ htail
      · intro d hd
        rcases List.mem_append.1 hd with hd | hd
        · exact hg.1 d hd
        · exact List.mem_singleton.1 hd ▸ hc
      · simp [Grapheme.extend, hg.2.1, hzero]
      · simpa [Grapheme.extend] using hg.2.2
    next =>
      intro g' hg'
      rcases List.mem_cons.1 hg' with rfl | hg'
      · exact hg
      · exact ih ⟨by simpa using hc, by simp, cellWidth_le_two c⟩ htail g' hg'

/-- The graphemes of a plain text are plain. -/
theorem isPlain_of_mem_graphemes {s : List Char} (hs : ∀ c ∈ s, isPlain c = true) :
    ∀ g ∈ graphemes s, g.IsPlain := by
  cases s with
  | nil => simp [graphemes]
  | cons c s =>
    exact isPlain_of_mem_graphemesFrom
      ⟨by simpa using hs c (by simp), by simp, cellWidth_le_two c⟩ fun d hd => hs d (by simp [hd])

/-- Plain graphemes fill what their characters fill. -/
theorem sum_width_of_isPlain {gs : List Grapheme} (h : ∀ g ∈ gs, g.IsPlain) :
    total (gs.map Grapheme.width) = total (((gs.map Grapheme.chars).flatten).map cellWidth) := by
  induction gs with
  | nil => rfl
  | cons g gs ih =>
    have hg := (h g (by simp)).2.1
    simp [ih fun g' hg' => h g' (by simp [hg']), hg]

/-! ## Bringing a text to a width -/

/-- Why a text cannot be cut. -/
inductive CutError where
  /-- The text has no grapheme that fills a cell. -/
  | widthless
  /-- The graphemes of the text fill too few cells. -/
  | tooShort
deriving DecidableEq, Repr

/-- The graphemes that fill so many cells; a space stands for one that is cut in two. -/
def takeCells : (cells : Nat) → List Grapheme → Except CutError (List Char)
  | 0, _ => .ok []
  | _ + 1, [] => .error .tooShort
  | n + 1, g :: gs =>
      if g.width ≤ n + 1 then (takeCells (n + 1 - g.width) gs).map (g.chars ++ ·)
      else .ok [' ']

/-- The text with its end cut off, so that it fills so many cells. -/
def cut (cells : Nat) (s : List Char) : Except CutError (List Char) :=
  let gs := graphemes s
  if total (gs.map Grapheme.width) = 0 then .error .widthless else takeCells cells gs

/-- The text brought to a width: it is cut if it fills too many cells, and spaces are put
behind it if it fills too few. -/
def resize (cells : Nat) (s : List Char) : Except CutError (List Char) :=
  let count := cellCount s
  if cells = 0 then .ok []
  else if count ≤ cells then .ok (s ++ List.replicate (cells - count) ' ')
  else cut cells s

/-- As many cells as wanted can be taken from plain graphemes that fill enough. -/
theorem exists_takeCells_of_isPlain {gs : List Grapheme} (h : ∀ g ∈ gs, g.IsPlain) {n : Nat}
    (hn : n ≤ total (gs.map Grapheme.width)) :
    ∃ t, takeCells n gs = .ok t ∧ (∀ c ∈ t, isPlain c = true) ∧ total (t.map cellWidth) = n := by
  induction gs generalizing n with
  | nil =>
    obtain rfl : n = 0 := by simpa using hn
    exact ⟨[], by simp [takeCells]⟩
  | cons g gs ih =>
    cases n with
    | zero => exact ⟨[], by simp [takeCells]⟩
    | succ n =>
      obtain ⟨hchars, hwidth, htwo⟩ := h g (by simp)
      rw [takeCells]
      split
      next hle =>
        simp only [List.map_cons, total_cons] at hn
        obtain ⟨t, ht, hplain, hsum⟩ :=
          ih (fun g' hg' => h g' (by simp [hg'])) (n := n + 1 - g.width) (by omega)
        refine ⟨g.chars ++ t, by simp [ht, Except.map], ?_, ?_⟩
        · intro c hc
          rcases List.mem_append.1 hc with hc | hc
          · exact hchars c hc
          · exact hplain c hc
        · simp only [List.map_append, total_append, hwidth, hsum]
          omega
      next hgt =>
        obtain rfl : n = 0 := by omega
        exact ⟨[' '], rfl, by simp [isPlain_space], by simp [cellWidth_space]⟩

/-- A text of plain characters can be brought to any width, and then has it. -/
theorem resize_of_plain {s : List Char} (hs : ∀ c ∈ s, isPlain c = true) (n : Nat) :
    ∃ t, resize n s = .ok t ∧ cellCount t = n := by
  have hcount : cellCount s = total ((graphemes s).map Grapheme.width) := by
    rw [sum_width_of_isPlain (isPlain_of_mem_graphemes hs), flatten_graphemes, cellCount,
      cellCountBehind_of_plain hs]
  simp only [resize]
  split
  next hzero => exact ⟨[], rfl, hzero ▸ rfl⟩
  next hzero =>
    split
    next hle =>
      refine ⟨_, rfl, ?_⟩
      rw [cellCount_append hs fun _ => isPlain_of_mem_replicate_space, cellCount_replicate_space]
      omega
    next hgt =>
      obtain ⟨t, ht, hplain, hsum⟩ :=
        exists_takeCells_of_isPlain (isPlain_of_mem_graphemes hs) (n := n) (by omega)
      refine ⟨t, ?_, by rw [cellCount, cellCountBehind_of_plain hplain, hsum]⟩
      rw [cut, if_neg (by omega), ht]

end LogMarkup
