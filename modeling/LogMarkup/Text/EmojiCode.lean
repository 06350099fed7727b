import LogMarkup.Text.Blank
import LogMarkup.Text.EmojiCode.AToF
import LogMarkup.Text.EmojiCode.GToO
import LogMarkup.Text.EmojiCode.PToZ
import LogMarkup.Text.Hexadecimal
import LogMarkup.Text.Lowercase

/-!
# Emoji codes

A console shows a picture in place of its name between two colons.  Behind the name can
stand, after a hyphen, whether the picture is shown in colors or as text.  A name that no
picture has is left as it is, with both of its colons.

Main results:

- `EmojiCode.replace_of_not_mem`: a text without colons has no emoji codes.
-/

namespace LogMarkup

namespace EmojiCode

/-! ## The pictures -/

/-- The name and the picture that an entry of the list gives. -/
def entry (word : List Char) : List Char × List Char :=
  let codes := ((word.dropWhile (· != '=')).drop 1).splitOn '-'
  (word.takeWhile (· != '='), (codes.filterMap codePoint?).map Char.ofNat)

/-- The names that are listed, with their pictures. -/
def entries : List (List Char × List Char) :=
  [emojiCodesAToF, emojiCodesGToO, emojiCodesPToZ].flatMap fun table =>
    (splitWords table.toList).map entry

/-- The picture of a name. -/
def picture? (name : List Char) : Option (List Char) :=
  (entries.find? fun e => e.1 == name).map Prod.snd

/-- The ways to show a picture, with the characters that ask for them. -/
def variants : List (String × Char) := [("-emoji", '\ufe0f'), ("-text", '\ufe0e')]

/-- The picture that a code asks for between its colons. -/
def shown? (code : List Char) : Option (List Char) :=
  match variants.find? fun v => v.1.toList.isSuffixOf code with
  | some (ending, selector) =>
      (picture? (lowercaseFrom [] (code.take (code.length - ending.length)))).map (· ++ [selector])
  | none => picture? (lowercaseFrom [] code)

/-! ## Replacement -/

/-- Can the character stand in a code? -/
def isInner (c : Char) : Bool := c != ':' && !isSpace c

/-- What stands in front of the next colon, and what stands behind it.  There is no space
in front of it. -/
def split? (s : List Char) : Option (List Char × List Char) :=
  match s.dropWhile isInner with
  | ':' :: rest => some (s.takeWhile isInner, rest)
  | _ => none

/-- A code takes something from the text. -/
theorem length_lt_of_split? {s : List Char} {p : List Char × List Char} (h : split? s = some p) :
    p.2.length < s.length := by
  unfold split? at h
  split at h
  next rest hdrop =>
    obtain rfl := Option.some.inj h
    have hle := (List.dropWhile_suffix isInner (l := s)).length_le
    rw [hdrop] at hle
    exact hle
  next => contradiction

/-- The text with pictures in place of their codes. -/
def replace : List Char → List Char
  | [] => []
  | c :: s =>
      if c = ':' then
        match _h : split? s with
        | some (code, rest) => (shown? code).getD (':' :: (code ++ [':'])) ++ replace rest
        | none => c :: replace s
      else c :: replace s
termination_by s => s.length
decreasing_by
  · exact Nat.lt_succ_of_lt (length_lt_of_split? _h)
  · simp
  · simp

/-- A text without colons has no emoji codes. -/
theorem replace_of_not_mem {s : List Char} (h : ':' ∉ s) : replace s = s := by
  induction s with
  | nil => rw [replace]
  | cons c s ih =>
    have hc : c ≠ ':' := fun hc => h (by simp [hc])
    rw [replace, if_neg hc, ih fun hmem => h (by simp [hmem])]

end EmojiCode

end LogMarkup
