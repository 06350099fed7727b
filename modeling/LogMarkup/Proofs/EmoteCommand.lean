import LogMarkup.CommandLine
import LogMarkup.Proofs.CommandTable
import LogMarkup.Proofs.Failure
import LogMarkup.Proofs.OptionWords

/-!
# Emotes and their markup

The message of an emote can be shown by its command, or by its markup.  The two commands of
the program read their words by different tables of options, and one of them looks the
markup up first.  Still they give the same, whatever comes out: the emote data and the
language have no part in who the participants are, both take a target of an empty name for
none, and both refuse the participants before they look at the markup.

Main results:

- `Command.wellNamed_emoteOptions`, `Command.wellNamed_renderOptions`: the options of the two
  commands can be told apart from their values.
- `Wish.cast?_filter`: emote data and language do not matter for the participants.
- `Catalogue.render_eq_of_markup?`: an emote is rendered as its markup.
- `runCommandLine_emote_eq_render`: both commands give the same.
-/

namespace LogMarkup

/-! ## Participants of a command line -/

/-- Does the setting belong to the participants? -/
def Setting.isCast : Setting → Bool
  | data _ | language _ | verbose _ => false
  | _ => true

namespace Wish

/-- The wish without emote data and language. -/
def people (w : Wish) : Wish := { w with data := "", language := "" }

/-- Only settings of the participants change them. -/
theorem people_set (w : Wish) (s : Setting) :
    (w.set s).people = if s.isCast then w.people.set s else w.people := by
  cases s <;> rfl

theorem people_foldl_set (settings : List Setting) (w : Wish) :
    (settings.foldl set w).people = (settings.filter Setting.isCast).foldl set w.people := by
  induction settings generalizing w with
  | nil => rfl
  | cons s settings ih =>
    rw [List.foldl_cons, ih, people_set]
    cases hs : s.isCast <;> simp [hs]

/-- Settings that do not belong to the participants do not change them. -/
theorem people_filter (settings : List Setting) :
    (ofSettings (settings.filter Setting.isCast)).people = (ofSettings settings).people := by
  rw [ofSettings, ofSettings, people_foldl_set, people_foldl_set, List.filter_filter]
  simp

/-- Emote data and language do not matter for the participants. -/
theorem cast?_filter (settings : List Setting) :
    (ofSettings (settings.filter Setting.isCast)).cast? = (ofSettings settings).cast? := by
  have hpeople : ∀ w : Wish, w.people.cast? = w.cast? := fun _ => rfl
  rw [← hpeople, people_filter, hpeople]

/-- Is there a name for a target, and not the empty one? -/
def targeted (w : Wish) : Bool := w.target.any (· ≠ "")

/-- A target takes part exactly if there is a name for it. -/
theorem isSome_target_of_cast? {w : Wish} {cast : Cast} (h : w.cast? = some cast) :
    cast.target.isSome = w.targeted := by
  simp only [cast?, Option.bind_eq_bind, Option.bind_eq_some_iff, Option.pure_def,
    Option.some.injEq] at h
  obtain ⟨name, -, originGender, -, targetGender, -, rfl⟩ := h
  rw [targeted]
  cases w.target with
  | none => rfl
  | some name => by_cases hname : name = "" <;> simp [hname]

end Wish

/-! ## Options of the two commands -/

namespace Command

/-- The names of the options with a value. -/
def valuedNames : List String :=
  ["--origin", "--origin-gender", "--target", "--target-gender", "--data", "--language"]

/-- The names of the options without a value. -/
def flagNames : List String :=
  ["--origin-npc", "--no-origin-npc", "--origin-self", "--no-origin-self", "--target-npc",
    "--no-target-npc", "--target-self", "--no-target-self", "--verbose", "--no-verbose"]

theorem mem_valuedNames {name : String} (h : (emoteOptions.valued name).isSome = true) :
    name ∈ valuedNames := by
  simp only [emoteOptions, Setting.castValued, Setting.dataValued, Setting.languageValued] at h
  split at h
  case h_1 | h_2 | h_3 | h_4 => simp [valuedNames]
  split at h
  case h_1 => simp [valuedNames]
  split at h
  case h_1 => simp [valuedNames]
  case h_2 => contradiction

theorem mem_flagNames {name : String} (h : (emoteOptions.flag name).isSome = true) :
    name ∈ flagNames := by
  simp only [emoteOptions, Setting.castFlag, Setting.commonFlag] at h
  split at h
  case h_9 =>
    split at h
    case h_1 | h_2 => simp [flagNames]
    case h_3 => contradiction
  all_goals simp [flagNames]

/-- The options of rendering an emote can be told from everything else. -/
theorem wellNamed_emoteOptions : emoteOptions.WellNamed := by
  have hnames : ∀ name ∈ valuedNames ++ flagNames,
      (name ≠ "--" ∧ Words.isOption name = true) ∧ '=' ∉ name.toList := by decide
  have hmem : ∀ {name : String}, (emoteOptions.valued name).isSome = true ∨
      (emoteOptions.flag name).isSome = true → name ∈ valuedNames ++ flagNames := by
    intro name hname
    exact List.mem_append.mpr (hname.imp mem_valuedNames mem_flagNames)
  constructor
  case isOption => exact fun hname => (hnames _ (hmem hname)).1
  case whole => exact fun hname => (hnames _ (hmem hname)).2
  case valued_of_flag =>
    have hdisjoint : ∀ name ∈ flagNames, (emoteOptions.valued name).isNone = true := by decide
    intro name hname
    exact Option.isNone_iff_eq_none.mp (hdisjoint name (mem_flagNames hname))

/-- Rendering an emote knows all options of rendering a markup. -/
theorem renderOptions_within : renderOptions.Within emoteOptions where
  valued h := by simp_all [renderOptions, emoteOptions]
  flag h := h

/-- The options of rendering a markup can be told from everything else. -/
theorem wellNamed_renderOptions : renderOptions.WellNamed :=
  wellNamed_emoteOptions.of_within renderOptions_within

/-- The options of rendering an emote, without those that make the program tell more. -/
def quietEmoteOptions : Options Setting := { emoteOptions with flag := Setting.castFlag }

/-- The options of rendering a markup, without those that make the program tell more. -/
def quietRenderOptions : Options Setting := { renderOptions with flag := Setting.castFlag }

theorem quietEmoteOptions_within : quietEmoteOptions.Within emoteOptions where
  valued h := h
  flag h := by simp_all [quietEmoteOptions, emoteOptions]

theorem quietRenderOptions_within : quietRenderOptions.Within renderOptions where
  valued h := h
  flag h := by simp_all [quietRenderOptions, renderOptions]

/-! ## Commands -/

/-- What a command line for rendering a markup gives. -/
theorem parse?_render {words : List String} {settings : List Setting} {markup : String}
    {cast : Cast} (hwords : Words.Says quietRenderOptions words ⟨settings, [markup]⟩)
    (hcast : (Wish.ofSettings settings).cast? = some cast) :
    parse? ("render" :: words) = some (.render markup cast) := by
  have hread := (Words.read_eq_some_iff wellNamed_renderOptions).mpr
    (hwords.mono quietRenderOptions_within)
  rw [parse?, ofWords?]
  · simp [hread, hcast]
  · simp

/-- What a command line for rendering an emote gives. -/
theorem parse?_emote {words : List String} {settings : List Setting} {command : String}
    {cast : Cast} {path : Path} {l : Language}
    (hwords : Words.Says quietEmoteOptions words ⟨settings, [command]⟩)
    (hcast : (Wish.ofSettings settings).cast? = some cast)
    (hpath : (Wish.ofSettings settings).path? = some path)
    (hlanguage : (Wish.ofSettings settings).language = l.code) :
    parse? ("emote" :: words) = some (.emote command cast path l) := by
  have hread := (Words.read_eq_some_iff wellNamed_emoteOptions).mpr
    (hwords.mono quietEmoteOptions_within)
  rw [parse?, ofWords?]
  · simp [hread, hcast, hpath, hlanguage]
  · simp

end Command

/-! ## Showing a message -/

/-- A markup that is found is also there where it is demanded. -/
theorem Catalogue.markup_of_markup? {k : Catalogue} {command code : String} {targeted : Bool}
    {markup : String} (h : k.markup? command code targeted = .ok (some markup)) :
    k.markup command code targeted = .ok markup := by
  cases hfind : k.find? command with
  | none =>
    rw [markup?_of_find?_eq_none hfind] at h
    cases h
  | some e =>
    rw [markup?_of_find?_eq_some hfind] at h
    rw [markup_of_find?_eq_some hfind]
    cases hcode : language code with
    | error error =>
      rw [hcode] at h
      contradiction
    | ok l =>
      rw [hcode] at h
      have hmarkup : e.markup l targeted = markup := by simpa [Except.map] using h
      rw [← hmarkup]
      rfl

/-- Emote data loads exactly if it can be read and gives emotes, as their catalogue. -/
theorem Catalogue.ofData_eq_ok_iff {path : Path} {data : Data} {k : Catalogue} :
    ofData path data = .ok k ↔
      ∃ text emotes, data = .ok text ∧ Emote.listOfText text = .ok emotes ∧
        k = ofEmotes emotes := by
  simp only [ofData, bind_eq_ok_iff, mapError_eq_ok_iff, pure, Except.pure, Except.ok.injEq]
  constructor
  · rintro ⟨text, htext, emotes, hemotes, rfl⟩
    exact ⟨text, emotes, htext, hemotes, rfl⟩
  · rintro ⟨text, emotes, htext, hemotes, rfl⟩
    exact ⟨text, htext, emotes, hemotes, rfl⟩

/-- An emote is rendered as its markup. -/
theorem Catalogue.render_eq_of_markup? {k : Catalogue} {command code : String}
    {origin : Character} {target : Option Character} {markup : String}
    (h : k.markup? command code target.isSome = .ok (some markup)) :
    k.render command code origin target = Rendering.of markup origin target := by
  rw [render, markup_of_markup? h]
  rfl

namespace Rendering

/-- Characters that can take part together are shown the reduction, or fail with its error. -/
theorem of_eq {markup : String} {origin : Character} {target : Option Character}
    {p : Participants} (h : Participants.of? origin target = some p) :
    of markup origin target =
      ((Markup.reduce markup).mapError .markup).map fun r => ofReduction r p := by
  rw [of, Participants.of_eq_ok_iff.mpr h]
  cases Markup.reduce markup <;> rfl

end Rendering

/-- The response shows the markup to the participants, or reports why it cannot. -/
structure Response.IsFor (response : Response) (markup : String) (cast : Cast) : Prop where
  /-- Participants that cannot take part together are refused, whatever the markup is. -/
  refused : Participants.of? cast.origin cast.target = none →
    response = failed "Error: MultipleSelves: Only one character can be self"
  /-- What the markup reduces to is shown, behind the warnings about a missing target. -/
  shown : ∀ p r, Participants.of? cast.origin cast.target = some p →
    Markup.reduce markup = .ok r → response = shown (r.evaluate p.answers) (r.warnings p)
  /-- The error of the markup is reported. -/
  failed : ∀ p e, Participants.of? cast.origin cast.target = some p →
    Markup.reduce markup = .error e → response = failed e.report

/-- For a markup with readable numbers there always is a response. -/
theorem Response.exists_isFor {markup : String} (h : Markup.HasReadableNumbers markup)
    (cast : Cast) :
    ∃ response, ofRendering (Rendering.of markup cast.origin cast.target) = .ok response ∧
      response.IsFor markup cast := by
  cases hof : Participants.of? cast.origin cast.target with
  | none =>
    rw [Rendering.of_of_refused hof]
    exact ⟨_, rfl, fun _ => rfl, by simp [hof], by simp [hof]⟩
  | some p =>
    rw [Rendering.of_eq hof]
    cases hreduce : Markup.reduce markup with
    | ok r =>
      refine ⟨_, rfl, by simp [hof], ?_, by simp [hreduce]⟩
      intro p' r' hp hr
      obtain rfl : p = p' := Option.some.inj (hof.symm.trans hp)
      obtain rfl : r = r' := Except.ok.inj (hreduce.symm.trans hr)
      rfl
    | error e =>
      refine ⟨_, if_pos (h.isFinding hreduce), by simp [hof], by simp [hreduce], ?_⟩
      intro p' e' hp he
      obtain rfl : e = e' := Except.error.inj (hreduce.symm.trans he)
      rfl

/-- Rendering an emote by its command and rendering its markup give the same response.  The
two command lines set the participants in the same way; the options may be written in either
form and stand anywhere among the words, and neither the command nor the markup looks like an
option.  The emote data has to load.  The targeted markup is meant exactly if the name of a
target is given and not empty. -/
theorem runCommandLine_emote_eq_render {read : Path → Data} {words words' : List String}
    {settings : List Setting} {command markup : String} {cast : Cast} {path : Path}
    {l : Language} {k : Catalogue}
    (hwords : Words.Says Command.quietEmoteOptions words ⟨settings, [command]⟩)
    (hwords' : Words.Says Command.quietRenderOptions words'
      ⟨settings.filter Setting.isCast, [markup]⟩)
    (hcast : (Wish.ofSettings settings).cast? = some cast)
    (hpath : (Wish.ofSettings settings).path? = some path)
    (hlanguage : (Wish.ofSettings settings).language = l.code)
    (hdata : Catalogue.ofData path (read path) = .ok k)
    (hmarkup : k.markup? command l.code (Wish.ofSettings settings).targeted =
      .ok (some markup))
    (hnumbers : Markup.HasReadableNumbers markup) :
    ∃ response, runCommandLine read ("emote" :: words) = .ok response ∧
      runCommandLine read ("render" :: words') = .ok response ∧
      response.IsFor markup cast := by
  obtain ⟨response, hresponse, hfor⟩ := Response.exists_isFor hnumbers cast
  have hemote := Command.parse?_emote hwords hcast hpath hlanguage
  have hrender := Command.parse?_render hwords' ((Wish.cast?_filter settings).trans hcast)
  rw [← Wish.isSome_target_of_cast? hcast] at hmarkup
  refine ⟨response, ?_, ?_, hfor⟩
  · rw [runCommandLine, hemote]
    simp only [Command.data?, Option.map_some, Option.getD_some, Command.run, hdata]
    rw [Catalogue.render_eq_of_markup? hmarkup]
    exact hresponse
  · rw [runCommandLine, hrender]
    exact hresponse

/-- An emote whose Japanese message without a target asks for one. -/
def Emote.greeting : Emote := ⟨1, "", ["/hi"], ⟨"", ""⟩, ⟨"", "Hi ObjectParameter(3)"⟩⟩

/-- The emote as JSON. -/
def Emote.greetingText : String :=
  "[\x7b\"id\":1,\"name\":\"\",\"commands\":[\"/hi\"]," ++
    "\"en\":\x7b\"targeted\":\"\",\"untargeted\":\"\"\x7d," ++
    "\"ja\":\x7b\"targeted\":\"\",\"untargeted\":\"Hi ObjectParameter(3)\"\x7d\x7d]"

/-- The emote is the emote data at every path. -/
def Emote.greetingData (_ : Path) : Data := .ok greetingText

/-- The theorem at a target of an empty name, which is none. -/
theorem runCommandLine_emote_eq_render_greeting :
    runCommandLine Emote.greetingData
        ["emote", "--target", "", "/hi", "--data", "hi.json", "--origin=Ann", "--language", "ja"] =
      .ok (.shown "Hi " ["Message asked for npc_target_name but has no target"]) ∧
    runCommandLine Emote.greetingData
        ["render", "Hi ObjectParameter(3)", "--target=", "--origin", "Ann"] =
      .ok (.shown "Hi " ["Message asked for npc_target_name but has no target"]) := by
  have hwords : Words.Says Command.quietEmoteOptions
      ["--target", "", "/hi", "--data", "hi.json", "--origin=Ann", "--language", "ja"]
      ⟨[.target "", .data "hi.json", .origin "Ann", .language "ja"], ["/hi"]⟩ :=
    Words.says_of_read_eq rfl
  have hwords' : Words.Says Command.quietRenderOptions
      ["Hi ObjectParameter(3)", "--target=", "--origin", "Ann"]
      ⟨[.target "", .origin "Ann"], ["Hi ObjectParameter(3)"]⟩ :=
    Words.says_of_read_eq rfl
  have hemotes : Emote.listOfText Emote.greetingText = .ok [Emote.greeting] := by
    have hread : (Emote.listOfText Emote.greetingText).toOption = some [Emote.greeting] := by
      decide +kernel
    cases hchecked : Emote.listOfText Emote.greetingText with
    | error issues =>
      rw [hchecked] at hread
      contradiction
    | ok emotes =>
      rw [hchecked] at hread
      rw [Option.some.inj hread]
  have hdata : Catalogue.ofData (.ofString "hi.json")
      (Emote.greetingData (.ofString "hi.json")) = .ok (.ofEmotes [Emote.greeting]) :=
    Catalogue.ofData_eq_ok_iff.mpr ⟨_, _, rfl, hemotes, rfl⟩
  have hmessage : Node.AllWellFormed .part [.text "Hi ", .participant 3] := by decide
  have hreduce : Markup.reduce "Hi ObjectParameter(3)" =
      .ok [⟨[], .static "Hi "⟩, ⟨[], .slot .npcTarget⟩] := by
    rw [Markup.reduce_of_listToMarkup_eq hmessage (by rfl)]
    rfl
  obtain ⟨response, hemote, hrender, hfor⟩ := runCommandLine_emote_eq_render (l := .japanese)
    hwords hwords' rfl rfl rfl hdata rfl (Markup.hasReadableNumbers_of_length_le (by decide))
  have hparticipants : Participants.of? ⟨"Ann", .male, true, false⟩ none =
      some ⟨⟨"Ann", .male, true, false⟩, none, by simp⟩ :=
    Participants.of?_eq_some_iff.mpr ⟨rfl, rfl⟩
  obtain rfl := hfor.shown _ _ hparticipants hreduce
  exact ⟨hemote, hrender⟩

end LogMarkup
