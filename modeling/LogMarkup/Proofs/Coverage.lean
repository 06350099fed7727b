import LogMarkup.Proofs.Batch
import LogMarkup.Proofs.Participation
import Mathlib.Data.List.Nodup

/-!
# What a check of a catalogue covers

Messages are looked up by command, and checked by the numbers of their emotes.  The two
agree on a command if all emotes with the number of its emote have the same messages.
Where emotes with different messages share a number, only the one whose command comes
last is checked, and the messages of the others are shown unchecked.

Main results:

- `Catalogue.mem_emotes_iff`: which emotes are checked.
- `Catalogue.find?_eq_some_iff`: which emotes are looked up.
- `Catalogue.checks_cover_lookup`: the messages that are looked up and checked.
-/

namespace LogMarkup

/-- A list with one more element at its end is split in front of this element, or where it
was split before. -/
theorem exists_concat_eq_iff {α : Type} {p : α → Prop} {l : List α} {a x : α} :
    (∃ before after, l ++ [a] = before ++ x :: after ∧ ∀ y ∈ after, p y) ↔
      x = a ∨ p a ∧ ∃ before after, l = before ++ x :: after ∧ ∀ y ∈ after, p y := by
  constructor
  · rintro ⟨before, after, hsplit, hafter⟩
    rcases List.eq_nil_or_concat after with rfl | ⟨after, b, rfl⟩
    · have hlast := (List.append_inj' hsplit rfl).2
      exact .inl (List.singleton_inj.mp hlast).symm
    · rw [List.concat_eq_append, ← List.cons_append, ← List.append_assoc] at hsplit
      obtain ⟨rfl, hlast⟩ := List.append_inj' hsplit rfl
      obtain rfl := List.singleton_inj.mp hlast
      exact .inr ⟨hafter a (by simp), before, after, rfl, fun y hy => hafter y (by simp [hy])⟩
  · rintro (rfl | ⟨ha, before, after, rfl, hafter⟩)
    · exact ⟨l, [], rfl, by simp⟩
    · refine ⟨before, after ++ [a], by simp, ?_⟩
      intro y hy
      rcases List.mem_append.mp hy with hy | hy
      · exact hafter y hy
      · rwa [List.mem_singleton.mp hy]

namespace Catalogue

/-! ## Emotes in the order of their numbers -/

/-- The emotes, placed one after the other. -/
def placedById (es : List Emote) : List Emote :=
  es.foldl (fun placed e => placeById e placed) []

theorem placedById_concat (es : List Emote) (e : Emote) :
    placedById (es ++ [e]) = placeById e (placedById es) := by
  rw [placedById, List.foldl_append]
  rfl

/-- A placed emote comes from before, unless it is the one that was placed last. -/
theorem eq_or_mem_of_mem_placeById {e x : Emote} {placed : List Emote}
    (h : x ∈ placeById e placed) : x = e ∨ x ∈ placed := by
  induction placed with
  | nil => exact .inl (List.mem_singleton.mp h)
  | cons f rest ih =>
    rw [placeById] at h
    split at h
    · exact List.mem_cons.mp h
    · split at h
      · rcases List.mem_cons.mp h with rfl | hx
        · exact .inl rfl
        · exact .inr (List.mem_cons_of_mem f hx)
      · rcases List.mem_cons.mp h with rfl | hx
        · exact .inr List.mem_cons_self
        · rcases ih hx with rfl | hx
          · exact .inl rfl
          · exact .inr (List.mem_cons_of_mem f hx)

/-- Placing keeps the numbers ascending. -/
theorem pairwise_placeById (e : Emote) {placed : List Emote}
    (h : placed.Pairwise (·.id < ·.id)) : (placeById e placed).Pairwise (·.id < ·.id) := by
  induction placed with
  | nil => exact List.pairwise_singleton _ _
  | cons f rest ih =>
    obtain ⟨hf, hrest⟩ := List.pairwise_cons.mp h
    rw [placeById]
    split
    next hlt =>
      refine List.pairwise_cons.mpr ⟨?_, h⟩
      intro x hx
      rcases List.mem_cons.mp hx with rfl | hx
      · exact hlt
      · exact Int.lt_trans hlt (hf x hx)
    next hle =>
      split
      next heq =>
        refine List.pairwise_cons.mpr ⟨?_, hrest⟩
        intro x hx
        rw [heq]
        exact hf x hx
      next hne =>
        refine List.pairwise_cons.mpr ⟨?_, ih hrest⟩
        intro x hx
        rcases eq_or_mem_of_mem_placeById hx with rfl | hx
        · omega
        · exact hf x hx

/-- An emote takes the place of its number, and no other place. -/
theorem mem_placeById_iff {e x : Emote} {placed : List Emote}
    (h : placed.Pairwise (·.id < ·.id)) :
    x ∈ placeById e placed ↔ x = e ∨ (x ∈ placed ∧ x.id ≠ e.id) := by
  induction placed with
  | nil => simp [placeById]
  | cons f rest ih =>
    obtain ⟨hf, hrest⟩ := List.pairwise_cons.mp h
    rw [placeById]
    split
    next hlt =>
      have hother : x ∈ f :: rest → x.id ≠ e.id := by
        intro hx
        rcases List.mem_cons.mp hx with rfl | hx
        · omega
        · have := hf x hx
          omega
      rw [List.mem_cons]
      tauto
    next hle =>
      split
      next heq =>
        have hother : x ∈ rest → x.id ≠ e.id := by
          intro hx
          have := hf x hx
          omega
        have hplace : x = f → x.id = e.id := by
          rintro rfl
          exact heq.symm
        rw [List.mem_cons, List.mem_cons]
        tauto
      next hne =>
        have hplace : x = f → x.id ≠ e.id := by
          rintro rfl
          omega
        rw [List.mem_cons, List.mem_cons, ih hrest]
        tauto

/-- The placed emotes stand in the order of their numbers. -/
theorem pairwise_placedById (es : List Emote) :
    (placedById es).Pairwise (·.id < ·.id) := by
  induction es using List.reverseRecOn with
  | nil => exact List.Pairwise.nil
  | append_singleton es e ih =>
    rw [placedById_concat]
    exact pairwise_placeById e ih

/-- Of the emotes with one number the last one is placed. -/
theorem mem_placedById_iff {es : List Emote} {x : Emote} :
    x ∈ placedById es ↔
      ∃ before after, es = before ++ x :: after ∧ ∀ y ∈ after, y.id ≠ x.id := by
  induction es using List.reverseRecOn with
  | nil => simp [placedById]
  | append_singleton es e ih =>
    rw [placedById_concat, mem_placeById_iff (pairwise_placedById es), ih, exists_concat_eq_iff,
      and_comm, ne_comm]

/-- For every emote one with its number is placed. -/
theorem exists_mem_placedById {es : List Emote} {e : Emote} (he : e ∈ es) :
    ∃ f ∈ placedById es, f ∈ es ∧ f.id = e.id := by
  induction es using List.reverseRecOn with
  | nil => contradiction
  | append_singleton es last ih =>
    rw [placedById_concat]
    have hmem := @mem_placeById_iff last
    by_cases hlast : e.id = last.id
    · exact ⟨last, (hmem (pairwise_placedById es)).mpr (.inl rfl), by simp, hlast.symm⟩
    · have hes : e ∈ es := by
        rcases List.mem_append.mp he with he | he
        · exact he
        · exact absurd (congrArg Emote.id (List.mem_singleton.mp he)) hlast
      obtain ⟨f, hf, hfes, hid⟩ := ih hes
      refine ⟨f, (hmem (pairwise_placedById es)).mpr (.inr ⟨hf, ?_⟩), by simp [hfes], hid⟩
      rw [hid]
      exact hlast

/-! ## Looking up and listing -/

variable {k : Catalogue}

/-- A command reaches the emote that it is entered with. -/
theorem find?_eq_some_iff {command : String} {e : Emote} :
    k.find? command = some e ↔ (command, e) ∈ k.entries := by
  constructor
  · intro h
    obtain ⟨⟨c, f⟩, hfind, rfl⟩ := Option.map_eq_some_iff.mp h
    obtain rfl : c = command := by simpa using List.find?_some hfind
    exact List.mem_of_find?_eq_some hfind
  · intro h
    have hsome : (k.entries.find? (·.1 = command)).isSome = true := by
      rw [List.find?_isSome]
      exact ⟨_, h, by simp⟩
    obtain ⟨p, hp⟩ := Option.isSome_iff_exists.mp hsome
    have hcommand : p.1 = command := by simpa using List.find?_some hp
    have hentry := List.inj_on_of_nodup_map k.nodup (List.mem_of_find?_eq_some hp) h hcommand
    rw [find?, hp, hentry]
    rfl

/-- The listed emotes are those whose command is the last one that reaches an emote of
their number. -/
theorem mem_emotes_iff {e : Emote} :
    e ∈ k.emotes ↔ ∃ command before after, k.entries = before ++ (command, e) :: after ∧
      ∀ p ∈ after, p.2.id ≠ e.id := by
  have hplaced : k.emotes = placedById (k.entries.map Prod.snd) := rfl
  rw [hplaced, mem_placedById_iff]
  constructor
  · rintro ⟨before, after, hsplit, hafter⟩
    obtain ⟨before', rest, hentries, rfl, hrest⟩ := List.map_eq_append_iff.mp hsplit
    obtain ⟨⟨command, f⟩, after', rfl, rfl, rfl⟩ := List.map_eq_cons_iff.mp hrest
    refine ⟨command, before', after', hentries, ?_⟩
    intro p hp
    exact hafter p.2 (List.mem_map_of_mem hp)
  · rintro ⟨command, before, after, hentries, hafter⟩
    refine ⟨before.map Prod.snd, after.map Prod.snd, by simp [hentries], ?_⟩
    intro f hf
    obtain ⟨p, hp, rfl⟩ := List.mem_map.mp hf
    exact hafter p hp

/-- For every emote that a command reaches one with its number is listed, which a command
reaches as well. -/
theorem exists_mem_emotes {command : String} {e : Emote} (h : k.find? command = some e) :
    ∃ f ∈ k.emotes, f.id = e.id ∧ ∃ other, k.find? other = some f := by
  have he : e ∈ k.entries.map Prod.snd :=
    List.mem_map.mpr ⟨_, find?_eq_some_iff.mp h, rfl⟩
  obtain ⟨f, hf, hfes, hid⟩ := exists_mem_placedById he
  obtain ⟨⟨other, _⟩, hother, rfl⟩ := List.mem_map.mp hfes
  exact ⟨_, hf, hid, other, find?_eq_some_iff.mpr hother⟩

/-! ## Checks of listed emotes -/

/-- Unless the checking is ended early, all messages of the listed emotes are checked. -/
theorem exists_check_of_mem_emotes (haborted : k.check.aborted = none) {e : Emote}
    (he : e ∈ k.emotes) (l : Language) (targeted : Bool) :
    ∃ c ∈ k.check.checks, c.markup = e.markup l targeted ∧
      c.labels = ⟨some e.name, some l, some targeted⟩ := by
  have hmessages := Batch.messages_run k.messages
  rw [← Catalogue.check, haborted] at hmessages
  have hmem := mem_messages_iff.mpr ⟨e, he, l, targeted, rfl⟩
  rw [← hmessages] at hmem
  obtain ⟨c, hc, hsource⟩ := List.mem_map.mp hmem
  obtain ⟨hmarkup, hlabels⟩ := Prod.mk.inj hsource
  exact ⟨c, hc, hmarkup, hlabels⟩

/-- A message is rendered if its markup reduces and the characters can take part
together. -/
theorem exists_render_of_reduce {command : String} {e : Emote}
    (hfind : k.find? command = some e) (l : Language) {origin : Character}
    {target : Option Character} (hparticipants : (Participants.of? origin target).isSome = true)
    {r : Reduction} (hreduce : Markup.reduce (e.markup l target.isSome) = .ok r) :
    ∃ shown, k.render command l.code origin target = .ok shown := by
  obtain ⟨p, hp⟩ := Option.isSome_iff_exists.mp hparticipants
  have hlanguage : language l.code = .ok l := by
    rw [language, Language.ofCode?_code]
  have hmarkup : k.markup command l.code target.isSome = .ok (e.markup l target.isSome) := by
    simp only [Catalogue.markup, emote, hfind, hlanguage]
    rfl
  have hshown := Rendering.of_eq_ok_iff.mpr ⟨p, r, hp, hreduce, rfl⟩
  exact ⟨_, bind_eq_ok_iff.mpr ⟨_, mapError_eq_ok_iff.mpr hmarkup, hshown⟩⟩

/-- The checks cover what is looked up, number by number.  For a command that reaches an
emote all messages of an emote with the number of this one are checked.  If all emotes
with this number that commands reach have the same messages, then those of the command
are checked, and if no check finds an error, they are all rendered for any characters
that can take part together. -/
theorem checks_cover_lookup {emotes : List Emote}
    (haborted : (ofEmotes emotes).check.aborted = none) {command : String} {e : Emote}
    (hfind : (ofEmotes emotes).find? command = some e) :
    (∃ f other, (ofEmotes emotes).find? other = some f ∧ f.id = e.id ∧
      ∀ l targeted, ∃ c ∈ (ofEmotes emotes).check.checks, c.markup = f.markup l targeted ∧
        c.labels = ⟨some f.name, some l, some targeted⟩) ∧
    ((∀ f other, (ofEmotes emotes).find? other = some f → f.id = e.id →
        ∀ l, f.pair l = e.pair l) →
      (∀ l targeted, ∃ c ∈ (ofEmotes emotes).check.checks,
        (ofEmotes emotes).markup? command l.code targeted = .ok (some c.markup) ∧
        c.labels.language = some l ∧ c.labels.targeted = some targeted) ∧
      ((∀ c ∈ (ofEmotes emotes).check.checks, c.isOk = true) →
        ∀ (l : Language) (origin : Character) (target : Option Character),
          (Participants.of? origin target).isSome = true →
            ∃ shown, (ofEmotes emotes).render command l.code origin target = .ok shown)) := by
  obtain ⟨f, hf, hid, other, hother⟩ := exists_mem_emotes hfind
  have hchecks := exists_check_of_mem_emotes haborted hf
  refine ⟨⟨f, other, hother, hid, hchecks⟩, ?_⟩
  intro hsame
  have hmarkup : ∀ l targeted, f.markup l targeted = e.markup l targeted := by
    intro l targeted
    rw [Emote.markup, Emote.markup, hsame f other hother hid l]
  refine ⟨?_, ?_⟩
  · intro l targeted
    obtain ⟨c, hc, hcmarkup, hlabels⟩ := hchecks l targeted
    refine ⟨c, hc, ?_, by rw [hlabels], by rw [hlabels]⟩
    simp only [markup?, hfind, language, Language.ofCode?_code]
    rw [hcmarkup, hmarkup]
    rfl
  · intro hok l origin target hparticipants
    obtain ⟨c, hc, hcmarkup, -⟩ := hchecks l target.isSome
    obtain ⟨r, hr⟩ := (Check.isOk_iff_of_error (Batch.error_of_mem_run hc)).mp (hok c hc)
    rw [hcmarkup, hmarkup] at hr
    exact exists_render_of_reduce hfind l hparticipants hr

/-- The catalogue of two emotes with one number. -/
def twins (first second : MessagePair) : Catalogue :=
  ofEmotes [⟨1, "first", ["/first"], first, first⟩, ⟨1, "second", ["/second"], second, second⟩]

/-- Of two emotes with one number the messages of the second are checked, and plain texts
without an error. -/
theorem check_twins_of_isText (first : MessagePair) {targeted untargeted : String}
    (h : Terminal.IsText targeted.toList) (h' : Terminal.IsText untargeted.toList) :
    (twins first ⟨targeted, untargeted⟩).check =
      ⟨[⟨targeted, ⟨some "second", some .english, some true⟩, none⟩,
        ⟨untargeted, ⟨some "second", some .english, some false⟩, none⟩,
        ⟨targeted, ⟨some "second", some .japanese, some true⟩, none⟩,
        ⟨untargeted, ⟨some "second", some .japanese, some false⟩, none⟩], none⟩ := by
  have hmessages : (twins first ⟨targeted, untargeted⟩).messages =
      [(targeted, ⟨some "second", some .english, some true⟩),
        (untargeted, ⟨some "second", some .english, some false⟩),
        (targeted, ⟨some "second", some .japanese, some true⟩),
        (untargeted, ⟨some "second", some .japanese, some false⟩)] := rfl
  rw [Catalogue.check, hmessages]
  simp only [Batch.run, Batch.runM, Check.of, Markup.reduce_of_isText h,
    Markup.reduce_of_isText h']
  rfl

/-- The theorem at two emotes with one number and the same messages.  Those of the second
are checked, and those of the first can be rendered. -/
theorem checks_cover_lookup_twins :
    (∃ c ∈ (twins ⟨"Waves.", "Bows."⟩ ⟨"Waves.", "Bows."⟩).check.checks,
      (twins ⟨"Waves.", "Bows."⟩ ⟨"Waves.", "Bows."⟩).markup? "/first" "en" true =
        .ok (some c.markup)) ∧
    ∃ shown, (twins ⟨"Waves.", "Bows."⟩ ⟨"Waves.", "Bows."⟩).render "/first" "en"
      ⟨"A", .male, true, true⟩ none = .ok shown := by
  have hcheck := check_twins_of_isText ⟨"Waves.", "Bows."⟩
    (show Terminal.IsText "Waves.".toList by decide) (show Terminal.IsText "Bows.".toList by decide)
  have haborted : (twins ⟨"Waves.", "Bows."⟩ ⟨"Waves.", "Bows."⟩).check.aborted = none := by
    rw [hcheck]
  have hok : ∀ c ∈ (twins ⟨"Waves.", "Bows."⟩ ⟨"Waves.", "Bows."⟩).check.checks,
      c.isOk = true := by
    rw [hcheck]
    simp [Check.isOk]
  have hfind : (twins ⟨"Waves.", "Bows."⟩ ⟨"Waves.", "Bows."⟩).find? "/first" =
      some ⟨1, "first", ["/first"], ⟨"Waves.", "Bows."⟩, ⟨"Waves.", "Bows."⟩⟩ := by decide
  have hsame : ∀ f other, (twins ⟨"Waves.", "Bows."⟩ ⟨"Waves.", "Bows."⟩).find? other = some f →
      f.id = 1 → ∀ l, f.pair l = ⟨"Waves.", "Bows."⟩ := by
    intro f other hother _ l
    have hmem : (other, f) ∈ [("/first", _), ("/second", _)] := find?_eq_some_iff.mp hother
    rcases List.mem_pair.mp hmem with ⟨rfl, rfl⟩ | ⟨rfl, rfl⟩ <;> cases l <;> rfl
  obtain ⟨-, hcover⟩ := checks_cover_lookup haborted hfind
  obtain ⟨hchecks, hrender⟩ := hcover fun f other hother hid l =>
    (hsame f other hother hid l).trans (by cases l <;> rfl)
  obtain ⟨c, hc, hmarkup, -⟩ := hchecks .english true
  exact ⟨⟨c, hc, hmarkup⟩, hrender hok .english ⟨"A", .male, true, true⟩ none rfl⟩

/-- The checks need not cover what is looked up: of two emotes with one number the messages
of the first are not checked.  No check finds an error, and still one of these messages
cannot be rendered. -/
theorem checks_miss_first_twin :
    (twins ⟨"Equal(1)", "Waves."⟩ ⟨"Waves.", "Bows."⟩).check.aborted = none ∧
    (twins ⟨"Equal(1)", "Waves."⟩ ⟨"Waves.", "Bows."⟩).check.checks.map
      (fun c => (c.markup, c.isOk)) =
        [("Waves.", true), ("Bows.", true), ("Waves.", true), ("Bows.", true)] ∧
    (twins ⟨"Equal(1)", "Waves."⟩ ⟨"Waves.", "Bows."⟩).markup? "/first" "en" true =
      .ok (some "Equal(1)") ∧
    (twins ⟨"Equal(1)", "Waves."⟩ ⟨"Waves.", "Bows."⟩).render "/first" "en"
      ⟨"A", .male, true, true⟩ (some ⟨"B", .female, true, false⟩) =
        .error (.markup (.reduce (.danglingFunction (.call .equal [.number 1])))) := by
  have hcheck := check_twins_of_isText ⟨"Equal(1)", "Waves."⟩
    (show Terminal.IsText "Waves.".toList by decide) (show Terminal.IsText "Bows.".toList by decide)
  have hequal : Markup.reduce "Equal(1)" =
      .error (.reduce (.danglingFunction (.call .equal [.number 1]))) := by
    have hmessage : Node.AllWellFormed .part [.call .equal [.number 1]] := by decide
    rw [Markup.reduce_of_listToMarkup_eq hmessage (by rfl)]
    rfl
  refine ⟨by rw [hcheck], by rw [hcheck]; rfl, rfl, ?_⟩
  have hof : Rendering.of "Equal(1)" ⟨"A", .male, true, true⟩
      (some ⟨"B", .female, true, false⟩) =
        .error (.markup (.reduce (.danglingFunction (.call .equal [.number 1])))) := by
    rw [Rendering.of, hequal]
    rfl
  exact hof

end Catalogue

end LogMarkup
