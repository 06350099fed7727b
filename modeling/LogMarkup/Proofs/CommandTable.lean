import LogMarkup.Proofs.Coverage

/-!
# The emote that a command reaches

A catalogue is filled emote by emote and command by command, and commands may repeat
within an emote and across emotes.  In the end a command reaches the last emote of the
list that has it, and all ways of looking the command up speak of this one emote.  They
only differ in what they give where there is none.

Main results:

- `Catalogue.find?_enter`, `Catalogue.find?_add`: what one more entry, or one more emote,
  changes.
- `Catalogue.find?_ofEmotes_eq_some_iff`: which emote a command reaches.
- `Catalogue.lookup_ofEmotes`: all ways of looking a command up.
-/

namespace LogMarkup

namespace Emote

/-- The emote is the last one of the list that has the command. -/
def IsLastWith (command : String) (e : Emote) (emotes : List Emote) : Prop :=
  ∃ before after, emotes = before ++ e :: after ∧ command ∈ e.commands ∧
    ∀ f ∈ after, command ∉ f.commands

/-- With one more emote, the last one that has the command is this one, if it has the
command, and otherwise the same as before. -/
theorem isLastWith_concat_iff {command : String} {emotes : List Emote} {e x : Emote} :
    x.IsLastWith command (emotes ++ [e]) ↔
      if command ∈ e.commands then x = e else x.IsLastWith command emotes := by
  have hmem : ∀ l, x.IsLastWith command l ↔ command ∈ x.commands ∧
      ∃ before after, l = before ++ x :: after ∧ ∀ f ∈ after, command ∉ f.commands := by
    intro l
    constructor
    · rintro ⟨before, after, hsplit, hx, hafter⟩
      exact ⟨hx, before, after, hsplit, hafter⟩
    · rintro ⟨hx, before, after, hsplit, hafter⟩
      exact ⟨before, after, hsplit, hx, hafter⟩
  rw [hmem, hmem, exists_concat_eq_iff]
  by_cases he : command ∈ e.commands
  · have hx : x = e → command ∈ x.commands := fun h => h ▸ he
    rw [if_pos he]
    tauto
  · have hx : x = e → command ∉ x.commands := fun h => h ▸ he
    rw [if_neg he]
    tauto

/-- An emote of the list has the command exactly if there is a last one that has it. -/
theorem exists_isLastWith_iff {command : String} {emotes : List Emote} :
    (∃ e : Emote, e.IsLastWith command emotes) ↔ ∃ e ∈ emotes, command ∈ e.commands := by
  constructor
  · rintro ⟨e, before, after, rfl, he, -⟩
    exact ⟨e, by simp, he⟩
  · rintro ⟨e, hmem, he⟩
    induction emotes using List.reverseRecOn with
    | nil => contradiction
    | append_singleton emotes last ih =>
      by_cases hlast : command ∈ last.commands
      · exact ⟨last, isLastWith_concat_iff.mpr (by rw [if_pos hlast])⟩
      · have hne : e ≠ last := fun h => hlast (h ▸ he)
        have hbefore : e ∈ emotes := by simpa [hne] using hmem
        obtain ⟨x, hx⟩ := ih hbefore
        exact ⟨x, isLastWith_concat_iff.mpr (by rwa [if_neg hlast])⟩

end Emote

namespace Catalogue

/-! ## Filling a catalogue -/

/-- An entry only changes what its own command reaches, and nothing if that is empty. -/
theorem find?_enter (k : Catalogue) (entered command : String) (e : Emote) :
    (k.enter entered e).find? command =
      if command ≠ "" ∧ command = entered then some e else k.find? command := by
  by_cases hsame : command = entered
  · subst hsame
    by_cases hempty : command = ""
    · simp [enter, hempty]
    · rw [find?_enter_self k e hempty, if_pos ⟨hempty, rfl⟩]
  · rw [find?_enter_of_ne k e hsame, if_neg fun h => hsame h.2]

/-- An emote with several commands changes what these commands reach. -/
theorem find?_foldl_enter (k : Catalogue) (commands : List String) (e : Emote)
    (command : String) :
    (commands.foldl (enter · · e) k).find? command =
      if command ≠ "" ∧ command ∈ commands then some e else k.find? command := by
  induction commands generalizing k with
  | nil => simp
  | cons c commands ih =>
    rw [List.foldl_cons, ih, find?_enter]
    by_cases hlater : command ≠ "" ∧ command ∈ commands
    · rw [if_pos hlater, if_pos ⟨hlater.1, List.mem_cons_of_mem c hlater.2⟩]
    · rw [if_neg hlater]
      simp only [List.mem_cons]
      exact if_congr (by tauto) rfl rfl

/-- One more emote changes what its commands reach, and nothing else. -/
theorem find?_add (k : Catalogue) (e : Emote) (command : String) :
    (k.add e).find? command =
      if command ≠ "" ∧ command ∈ e.commands then some e else k.find? command :=
  find?_foldl_enter k e.commands e command

theorem ofEmotes_concat (emotes : List Emote) (e : Emote) :
    ofEmotes (emotes ++ [e]) = (ofEmotes emotes).add e := by
  rw [ofEmotes, List.foldl_append]
  rfl

/-- A command that is not empty reaches the last emote that has it. -/
theorem find?_ofEmotes_eq_some_iff {emotes : List Emote} {command : String} {e : Emote} :
    (ofEmotes emotes).find? command = some e ↔
      command ≠ "" ∧ e.IsLastWith command emotes := by
  induction emotes using List.reverseRecOn with
  | nil => simp [ofEmotes, empty, find?, Emote.IsLastWith]
  | append_singleton emotes last ih =>
    rw [ofEmotes_concat, find?_add, Emote.isLastWith_concat_iff]
    by_cases hlast : command ∈ last.commands
    · by_cases hempty : command = ""
      · subst hempty
        simp [ih]
      · simp [hempty, hlast, eq_comm]
    · simp [hlast, ih]

/-- A command reaches nothing exactly if it is empty or no emote has it. -/
theorem find?_ofEmotes_eq_none_iff {emotes : List Emote} {command : String} :
    (ofEmotes emotes).find? command = none ↔
      command = "" ∨ ∀ e ∈ emotes, command ∉ e.commands := by
  rw [Option.eq_none_iff_forall_ne_some]
  simp only [ne_eq, find?_ofEmotes_eq_some_iff, not_and]
  constructor
  · intro h
    by_cases hempty : command = ""
    · exact .inl hempty
    · right
      intro e hmem he
      obtain ⟨x, hx⟩ := Emote.exists_isLastWith_iff.mpr ⟨e, hmem, he⟩
      exact h x hempty hx
  · rintro (rfl | hnone) e hne hlast
    · exact hne rfl
    · obtain ⟨f, hmem, hf⟩ := Emote.exists_isLastWith_iff.mp ⟨e, hlast⟩
      exact hnone f hmem hf

/-! ## Looking a command up -/

/-- A code is that of a language, or there is no language of this code. -/
theorem language_of_unknown {code : String} (hen : code ≠ "en") (hja : code ≠ "ja") :
    language code = .error (.unknownLanguage code) := by
  have hnone : Language.ofCode? code = none := by
    simp [Language.ofCode?, Language.all, Language.code, hen.symm, hja.symm]
  rw [language, hnone]

theorem language_code (l : Language) : language l.code = .ok l := by
  rw [language, Language.ofCode?_code]

variable {k : Catalogue} {command : String}

/-- The messages of a command are those of the emote that it reaches. -/
theorem markup_of_find?_eq_some {e : Emote} (h : k.find? command = some e) (code : String)
    (targeted : Bool) :
    k.markup command code targeted = (language code).map fun l => e.markup l targeted := by
  simp only [markup, emote, h]
  cases language code <;> rfl

theorem markup?_of_find?_eq_some {e : Emote} (h : k.find? command = some e) (code : String)
    (targeted : Bool) :
    k.markup? command code targeted =
      (language code).map fun l => some (e.markup l targeted) := by
  rw [markup?, h]

/-- Of a command that reaches nothing no language is looked at. -/
theorem markup_of_find?_eq_none (h : k.find? command = none) (code : String)
    (targeted : Bool) : k.markup command code targeted = .error (.notFound command) := by
  simp only [markup, emote, h]
  rfl

theorem markup?_of_find?_eq_none (h : k.find? command = none) (code : String)
    (targeted : Bool) : k.markup? command code targeted = .ok none := by
  rw [markup?, h]

/-- All ways of looking a command up agree.  If the command is not empty and some emote has
it, they all give the last emote of the list that has it, its number and its messages; a
language that there is not is an error, and the same one everywhere.  Otherwise no way gives
anything, whatever the language: the emote and its messages are an error where they are
demanded, and nothing where they are optional. -/
theorem lookup_ofEmotes (emotes : List Emote) (command : String) :
    (command ≠ "" → (∃ e ∈ emotes, command ∈ e.commands) →
      ∃ e : Emote, e.IsLastWith command emotes ∧
        (ofEmotes emotes).emote command = .ok e ∧
        (ofEmotes emotes).contains command = true ∧
        (ofEmotes emotes).id? command = some e.id ∧
        (∀ l : Language,
          (ofEmotes emotes).markup? command l.code true = .ok (some (e.pair l).targeted) ∧
          (ofEmotes emotes).markup command l.code true = .ok (e.pair l).targeted ∧
          (ofEmotes emotes).markup? command l.code false = .ok (some (e.pair l).untargeted) ∧
          (ofEmotes emotes).markup command l.code false = .ok (e.pair l).untargeted) ∧
        ∀ code, code ≠ "en" → code ≠ "ja" → ∀ targeted,
          (ofEmotes emotes).markup? command code targeted = .error (.unknownLanguage code) ∧
          (ofEmotes emotes).markup command code targeted = .error (.unknownLanguage code)) ∧
    (command = "" ∨ (∀ e ∈ emotes, command ∉ e.commands) →
      (ofEmotes emotes).contains command = false ∧
      (ofEmotes emotes).id? command = none ∧
      (ofEmotes emotes).emote command = .error (.notFound command) ∧
      ∀ code targeted,
        (ofEmotes emotes).markup? command code targeted = .ok none ∧
        (ofEmotes emotes).markup command code targeted = .error (.notFound command)) := by
  constructor
  · intro hne hmem
    obtain ⟨e, he⟩ := Emote.exists_isLastWith_iff.mpr hmem
    have hfind := find?_ofEmotes_eq_some_iff.mpr ⟨hne, he⟩
    refine ⟨e, he, by rw [emote, hfind], by rw [contains, hfind]; rfl, by rw [id?, hfind]; rfl,
      ?_, ?_⟩
    · intro l
      simp only [markup?_of_find?_eq_some hfind, markup_of_find?_eq_some hfind, language_code]
      exact ⟨rfl, rfl, rfl, rfl⟩
    · intro code hen hja targeted
      rw [markup?_of_find?_eq_some hfind, markup_of_find?_eq_some hfind,
        language_of_unknown hen hja]
      exact ⟨rfl, rfl⟩
  · intro hnone
    have hfind := find?_ofEmotes_eq_none_iff.mpr hnone
    refine ⟨by rw [contains, hfind]; rfl, by rw [id?, hfind]; rfl, by rw [emote, hfind], ?_⟩
    intro code targeted
    exact ⟨markup?_of_find?_eq_none hfind code targeted,
      markup_of_find?_eq_none hfind code targeted⟩

/-- Two emotes that share a command, which one of them has twice. -/
def shared : List Emote :=
  [⟨2, "bow", ["/bow", "", "/greet", "/greet"], ⟨"Bows.", "Bows."⟩, ⟨"Bows.", "Bows."⟩⟩,
    ⟨1, "wave", ["/wave", "/greet"], ⟨"Waves.", "Waves at you."⟩, ⟨"Waves.", "Waves."⟩⟩]

/-- The theorem at a command of both emotes, which reaches the second one, and at the empty
command, which reaches nothing although an emote has it. -/
theorem lookup_ofEmotes_shared :
    (ofEmotes shared).contains "/greet" = true ∧
    (ofEmotes shared).markup "/greet" "en" false = .ok "Waves at you." ∧
    (ofEmotes shared).markup? "/greet" "fr" true = .error (.unknownLanguage "fr") ∧
    (ofEmotes shared).markup? "" "fr" true = .ok none ∧
    (ofEmotes shared).markup "" "fr" true = .error (.notFound "") := by
  obtain ⟨e, hlast, -, hcontains, hid, hmessages, hunknown⟩ :=
    (lookup_ofEmotes shared "/greet").1 (by decide) ⟨shared[1], by decide, by decide⟩
  obtain ⟨-, -, -, hnothing⟩ := (lookup_ofEmotes shared "").2 (.inl rfl)
  have hwave : e.IsLastWith "/greet" ([shared[0]] ++ [shared[1]]) := hlast
  rw [Emote.isLastWith_concat_iff, if_pos (by decide)] at hwave
  subst hwave
  exact ⟨hcontains, (hmessages .english).2.2.2, (hunknown "fr" (by decide) (by decide) true).1,
    hnothing "fr" true⟩

end Catalogue

end LogMarkup
