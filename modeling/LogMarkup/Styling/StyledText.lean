import LogMarkup.Total

/-!
# Styled texts

Tags style stretches of a text.  A stretch is known by the places between characters
where it begins and ends, and by whether its style can be made out.  Where a text is
divided, its stretches are too, and those that become empty are forgotten.

Main results:

- `StyledText.flatten_slices`: dividing a text loses none of its characters.
- `StyledText.flatten_segments`: nor does taking it apart where stretches begin and end.
-/

namespace LogMarkup

namespace Styling

/-- A stretch of a text that a tag styles. -/
structure Stretch where
  /-- How many characters stand in front of the stretch. -/
  start : Nat
  /-- How many characters stand in front of its end. -/
  stop : Nat
  /-- Can its style not be made out? -/
  isSpoilt : Bool
deriving DecidableEq, Repr

namespace Stretch

/-- The stretch in a text that begins `n` characters earlier. -/
def shift (n : Nat) (r : Stretch) : Stretch := { r with start := n + r.start, stop := n + r.stop }

/-- What is left of the stretch among the first `n` characters. -/
def clip? (n : Nat) (r : Stretch) : Option Stretch :=
  if r.start < n then some { r with stop := min r.stop n } else none

/-- What is left of the stretch among the `n` characters behind the first `m`, unless it is
empty. -/
def slice? (m n : Nat) (r : Stretch) : Option Stretch :=
  let start := r.start - m
  let stop := min r.stop (m + n) - m
  if start < stop then some { r with start := start, stop := stop } else none

/-- The stretch `n` characters longer, if it ends at `length` or behind. -/
def extend (length n : Nat) (r : Stretch) : Stretch :=
  if length ≤ r.stop then { r with stop := r.stop + n } else r

/-- Does the stretch begin or end behind so many characters? -/
def hasEdge (n : Nat) (r : Stretch) : Bool := r.start == n || r.stop == n

end Stretch

/-- A text with the stretches that tags style. -/
structure StyledText where
  /-- The characters. -/
  chars : List Char
  /-- The stretches. -/
  stretches : List Stretch
deriving DecidableEq, Repr

namespace StyledText

/-- Is there a stretch whose style cannot be made out? -/
def isSpoilt (t : StyledText) : Bool := t.stretches.any Stretch.isSpoilt

/-- The first `n` characters. -/
def take (n : Nat) (t : StyledText) : StyledText :=
  ⟨t.chars.take n, t.stretches.filterMap (·.clip? n)⟩

/-- The text with other characters.  Stretches only change if it becomes shorter. -/
def withChars (cs : List Char) (t : StyledText) : StyledText :=
  if cs.length < t.chars.length then ⟨cs, t.stretches.filterMap (·.clip? cs.length)⟩
  else ⟨cs, t.stretches⟩

/-- The text with so many spaces behind it, which are styled as its last character. -/
def extend (n : Nat) (t : StyledText) : StyledText :=
  ⟨t.chars ++ List.replicate n ' ', t.stretches.map (·.extend t.chars.length n)⟩

/-- One text behind another. -/
def append (t u : StyledText) : StyledText :=
  ⟨t.chars ++ u.chars, t.stretches ++ u.stretches.map (·.shift t.chars.length)⟩

/-! ## Dividing a text -/

/-- The `n` characters behind the first `m`. -/
def slice (m n : Nat) (t : StyledText) : StyledText :=
  ⟨(t.chars.drop m).take n, t.stretches.filterMap (·.slice? m n)⟩

/-- The slices of the given lengths behind the first `m` characters, with `gap` characters
left out between them. -/
def slices (gap : Nat) (t : StyledText) (m : Nat) : List Nat → List StyledText
  | [] => []
  | n :: ns => t.slice m n :: t.slices gap (m + n + gap) ns

/-- Slices without gaps lose none of the characters. -/
theorem flatten_slices (t : StyledText) (m : Nat) (ns : List Nat) :
    ((t.slices 0 m ns).map chars).flatten = (t.chars.drop m).take (total ns) := by
  induction ns generalizing m with
  | nil => simp [slices]
  | cons n ns ih =>
    rw [slices, List.map_cons, List.flatten_cons, ih, Nat.add_zero, total_cons, slice,
      List.take_add, List.drop_drop]

/-- The characters behind the first `n` of a text, taken apart where there are edges. -/
def segmentsFrom (isEdge : Nat → Bool) (n : Nat) : List Char → List (List Char)
  | [] => []
  | c :: s =>
      match segmentsFrom isEdge (n + 1) s with
      | [] => [[c]]
      | w :: ws => if isEdge (n + 1) then [c] :: w :: ws else (c :: w) :: ws

theorem flatten_segmentsFrom (isEdge : Nat → Bool) (n : Nat) (s : List Char) :
    (segmentsFrom isEdge n s).flatten = s := by
  induction s generalizing n with
  | nil => rfl
  | cons c s ih =>
    have h := ih (n + 1)
    rw [segmentsFrom]
    split
    next heq =>
      rw [heq] at h
      simpa using h
    next heq =>
      rw [heq] at h
      split <;> simpa using h

/-- The text, taken apart where stretches begin and end. -/
def segments (t : StyledText) : List (List Char) :=
  segmentsFrom (fun n => t.stretches.any (·.hasEdge n)) 0 t.chars

/-- Taking a text apart loses none of its characters. -/
theorem flatten_segments (t : StyledText) : t.segments.flatten = t.chars :=
  flatten_segmentsFrom _ 0 t.chars

end StyledText

end Styling

end LogMarkup
