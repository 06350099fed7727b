import LogMarkup.Emote
import LogMarkup.Text.Quoted

/-!
# Catalogues of emotes

A catalogue says which emote a text command reaches.  It is filled emote by emote and
command by command: a command that is entered again keeps its place and reaches the
later emote.  The empty command is never entered.

Main results:

- `Catalogue.find?_enter_self`, `Catalogue.find?_enter_of_ne`: entering a command
  changes what that command reaches, and nothing else.
- `Catalogue.commands_enter`: a command that is already there keeps its place.
- `Catalogue.mem_commands_iff`: the commands that are listed are those that reach an
  emote.
-/

namespace LogMarkup

/-- Which emote each command reaches, in the order in which the commands were first
entered. -/
structure Catalogue where
  /-- The commands with their emotes. -/
  entries : List (String × Emote)
  /-- No command is entered twice. -/
  nodup : (entries.map Prod.fst).Nodup

namespace Catalogue

/-! ## Entering commands -/

/-- The entries in which `command` reaches `e`. -/
def enterInto (command : String) (e : Emote) : List (String × Emote) → List (String × Emote)
  | [] => [(command, e)]
  | (c, f) :: rest =>
      if c = command then (c, e) :: rest else (c, f) :: enterInto command e rest

/-- A command that is already there keeps its place, and a new one comes last. -/
theorem map_fst_enterInto (command : String) (e : Emote) (entries : List (String × Emote)) :
    (enterInto command e entries).map Prod.fst =
      if command ∈ entries.map Prod.fst then entries.map Prod.fst
      else entries.map Prod.fst ++ [command] := by
  induction entries with
  | nil => simp [enterInto]
  | cons entry rest ih =>
    obtain ⟨c, f⟩ := entry
    rw [enterInto]
    by_cases hc : c = command
    · simp [hc]
    · have hc' : command ≠ c := fun h => hc h.symm
      rw [if_neg hc, List.map_cons, ih]
      by_cases hmem : command ∈ rest.map Prod.fst
      · rw [if_pos hmem, if_pos (by simp [hmem])]
        rfl
      · rw [if_neg hmem, if_neg (by simpa [hc'] using hmem)]
        rfl

theorem nodup_enterInto {command : String} {e : Emote} {entries : List (String × Emote)}
    (h : (entries.map Prod.fst).Nodup) : ((enterInto command e entries).map Prod.fst).Nodup := by
  rw [map_fst_enterInto]
  split
  · exact h
  next hmem =>
    rw [List.nodup_append]
    refine ⟨h, by simp, ?_⟩
    intro a ha b hb
    rw [List.mem_singleton] at hb
    subst hb
    rintro rfl
    exact hmem ha

/-- The catalogue in which nothing is entered. -/
def empty : Catalogue := ⟨[], by simp⟩

/-- The catalogue in which `command`, if it is not empty, reaches `e`. -/
def enter (k : Catalogue) (command : String) (e : Emote) : Catalogue :=
  if command = "" then k else ⟨enterInto command e k.entries, nodup_enterInto k.nodup⟩

/-- The catalogue in which all commands of `e` reach it. -/
def add (k : Catalogue) (e : Emote) : Catalogue := e.commands.foldl (enter · · e) k

/-- The catalogue of a list of emotes; later ones prevail. -/
def ofEmotes (emotes : List Emote) : Catalogue := emotes.foldl add empty

/-! ## Looking up -/

/-- The commands, in the order in which they were first entered. -/
def commands (k : Catalogue) : List String := k.entries.map Prod.fst

/-- The emote that a command reaches. -/
def find? (k : Catalogue) (command : String) : Option Emote :=
  (k.entries.find? (·.1 = command)).map Prod.snd

/-- The number of the emote that a command reaches. -/
def id? (k : Catalogue) (command : String) : Option Int := (k.find? command).map Emote.id

/-- Does the command reach an emote? -/
def contains (k : Catalogue) (command : String) : Bool := (k.find? command).isSome

/-- A command that was just entered reaches its emote. -/
theorem find?_enter_self (k : Catalogue) {command : String} (e : Emote) (h : command ≠ "") :
    (k.enter command e).find? command = some e := by
  have henter : ∀ entries : List (String × Emote),
      ((enterInto command e entries).find? (·.1 = command)).map Prod.snd = some e := by
    intro entries
    induction entries with
    | nil => simp [enterInto]
    | cons entry rest ih =>
      obtain ⟨c, f⟩ := entry
      rw [enterInto]
      by_cases hc : c = command
      · simp [hc]
      · simpa [hc] using ih
  simpa [enter, h, find?] using henter k.entries

/-- Entering a command does not change what another one reaches. -/
theorem find?_enter_of_ne (k : Catalogue) {command other : String} (e : Emote)
    (h : other ≠ command) : (k.enter command e).find? other = k.find? other := by
  have henter : ∀ entries : List (String × Emote),
      (enterInto command e entries).find? (·.1 = other) = entries.find? (·.1 = other) := by
    intro entries
    induction entries with
    | nil => simp [enterInto, Ne.symm h]
    | cons entry rest ih =>
      obtain ⟨c, f⟩ := entry
      rw [enterInto]
      by_cases hc : c = command
      · subst hc
        simp [Ne.symm h]
      · rw [if_neg hc, List.find?_cons, List.find?_cons, ih]
  unfold enter
  split
  · rfl
  · simp [find?, henter]

/-- A command that is already there keeps its place, and a new one comes last. -/
theorem commands_enter (k : Catalogue) {command : String} (e : Emote) (h : command ≠ "") :
    (k.enter command e).commands =
      if command ∈ k.commands then k.commands else k.commands ++ [command] := by
  rw [enter, if_neg h]
  exact map_fst_enterInto command e k.entries

/-- The commands that are listed are those that reach an emote. -/
theorem mem_commands_iff {k : Catalogue} {command : String} :
    command ∈ k.commands ↔ k.contains command = true := by
  simp only [commands, contains, find?, Option.isSome_map, List.find?_isSome, decide_eq_true_eq,
    List.mem_map]

/-! ## Messages -/

/-- Why there is no message for a command in a language. -/
inductive LookupError where
  /-- The command reaches no emote. -/
  | notFound (command : String)
  /-- There is no language of this code. -/
  | unknownLanguage (code : String)
deriving DecidableEq, Repr

namespace LookupError

/-- How the kind of error is named. -/
def kind : LookupError → String
  | notFound _ => "MessageNotFound"
  | unknownLanguage _ => "LanguageError"

/-- The error in words. -/
def message : LookupError → String
  | notFound command => "Message not found: " ++ command
  | unknownLanguage code => Quoted.ofString code ++ " is not a valid Language"

end LookupError

/-- The emote that a command reaches, or the error that it reaches none. -/
def emote (k : Catalogue) (command : String) : Except LookupError Emote :=
  match k.find? command with
  | some e => .ok e
  | none => .error (.notFound command)

/-- The language of a given code, or the error that there is none. -/
def language (code : String) : Except LookupError Language :=
  match Language.ofCode? code with
  | some l => .ok l
  | none => .error (.unknownLanguage code)

/-- The markup of a command in the language of a given code, for whether there is a
target.  The command is looked up first. -/
def markup (k : Catalogue) (command code : String) (targeted : Bool) :
    Except LookupError String := do
  let e ← k.emote command
  let l ← language code
  return e.markup l targeted

/-- The same, but nothing if the command reaches no emote. -/
def markup? (k : Catalogue) (command code : String) (targeted : Bool) :
    Except LookupError (Option String) :=
  match k.find? command with
  | none => .ok none
  | some e => (language code).map fun l => some (e.markup l targeted)

/-! ## Listings -/

/-- The commands in the order of the numbers of their emotes; within one number, in
the order in which they were first entered. -/
def commandsById (k : Catalogue) : List String :=
  (k.entries.mergeSort fun a b => a.2.id ≤ b.2.id).map Prod.fst

/-- The emotes, ascending by number, with `e` in the place of its number. -/
def placeById (e : Emote) : List Emote → List Emote
  | [] => [e]
  | f :: rest =>
      if e.id < f.id then e :: f :: rest
      else if e.id = f.id then e :: rest
      else f :: placeById e rest

/-- The emotes that commands reach, ascending by number.  Of those with one number
the one whose command comes last is listed. -/
def emotes (k : Catalogue) : List Emote :=
  (k.entries.map Prod.snd).foldl (fun placed e => placeById e placed) []

end Catalogue

end LogMarkup
