import LogMarkup.Proofs.Participation
import LogMarkup.Proofs.RoundTrip

/-!
# Messages without a target

A message that is written for a target can also be shown without one.  It then shows what it
would show for a target without name that is neither a player nor the reader's own
character, and gives one warning for each name of the target that it shows.  Nothing else of
a target matters: not its gender, and not whether a text that is not shown mentions it.

Main results:

- `Reduction.warnings_of_target_none`: the warnings are those of the kept texts.
- `Rendering.of_untargeted`: the rendering without a target, compared with those with one.
-/

namespace LogMarkup

/-- The slot of the target that a text shows, if it shows one. -/
def Text.targetSlot? (t : Text) : Option Slot := t.slot?.filter Slot.isTarget

namespace Participants

/-- An origin on its own. -/
def untargeted (origin : Character) : Participants := ⟨origin, none, by simp⟩

theorem of?_none (origin : Character) : of? origin none = some (untargeted origin) :=
  (untargeted origin).of?_self

/-- Without a target, a slot shows nobody exactly if it shows the target. -/
theorem isNone_shown?_of_target_none {p : Participants} (h : p.target = none) (s : Slot) :
    (p.shown? s).isNone = s.isTarget := by
  rw [shown?, h]
  cases s.isTarget <;> rfl

end Participants

/-- Without a target, the message warns once for each kept text that shows the name of the
target, in the order of the texts. -/
theorem Reduction.warnings_of_target_none {p : Participants} (h : p.target = none)
    (r : Reduction) :
    r.warnings p =
      ((r.filter (Item.holds p.answers)).filterMap fun i => i.text.targetSlot?).map
        Slot.warning := by
  rw [warnings, Participants.warnings, kept, List.filterMap_map, List.filter_filterMap]
  simp only [Participants.isNone_shown?_of_target_none h]
  rfl

namespace Rendering

/-- A message for a target shows what it would show for any other that is seen as the same,
and gives no warnings. -/
theorem of_targeted {markup : String} {r : Reduction} (h : Markup.reduce markup = .ok r)
    {origin t : Character} {shown : Rendering} (hshown : of markup origin (some t) = .ok shown)
    {q : Participants} (horigin : q.origin = origin)
    (hseen : Participants.seen q.target = Participants.seen (some t)) :
    shown = ⟨r.evaluate q.answers, []⟩ := by
  obtain ⟨p, r', hp, hr', rfl⟩ := of_eq_ok_iff.mp hshown
  obtain rfl := Except.ok.inj (h.symm.trans hr')
  obtain ⟨hp, ht⟩ := Participants.of?_eq_some_iff.mp hp
  have hanswers : p.answers = q.answers :=
    Participants.answers_eq_of_seen (hp.trans horigin.symm) (by rw [ht, hseen])
  rw [ofReduction, hanswers, Reduction.warnings, Participants.warnings_of_target (by rw [ht]; rfl)]

/-- Rendering without a target.  A markup that reduces shows what it shows for any target
without name that is neither a player nor the reader's own character, with one warning for
each kept text that shows the name of the target, in the order of the texts.  With a target
there are no warnings; and of two targets with which the markup is rendered, and that agree
in name, in whether they are players and in whether they are the reader's own, it shows the
same. -/
theorem of_untargeted {markup : String} {r : Reduction} (h : Markup.reduce markup = .ok r)
    (origin : Character) :
    of markup origin none = .ok ⟨r.evaluate (Participants.untargeted origin).answers,
      ((r.filter (Item.holds (Participants.untargeted origin).answers)).filterMap
        fun i => i.text.targetSlot?).map Slot.warning⟩ ∧
    (∀ t : Character, t.name = "" → t.isPlayer = false → t.isSelf = false →
      of markup origin (some t) =
        .ok ⟨r.evaluate (Participants.untargeted origin).answers, []⟩) ∧
    (∀ t shown, of markup origin (some t) = .ok shown → shown.warnings = []) ∧
    ∀ t t' shown shown', t.name = t'.name → t.isPlayer = t'.isPlayer → t.isSelf = t'.isSelf →
      of markup origin (some t) = .ok shown → of markup origin (some t') = .ok shown' →
        shown.text = shown'.text := by
  refine ⟨?_, ?_, ?_, ?_⟩
  · refine of_eq_ok_iff.mpr ⟨_, r, Participants.of?_none origin, h, ?_⟩
    rw [ofReduction, Reduction.warnings_of_target_none rfl]
  · intro t hname hplayer hself
    have haccepted : (Participants.of? origin (some t)).isSome := by
      rw [Participants.of?_isSome_iff]
      rintro _ ⟨⟩ - htarget
      simp [hself] at htarget
    obtain ⟨p, hp⟩ := Option.isSome_iff_exists.mp haccepted
    have hshown := of_eq_ok_iff.mpr ⟨p, r, hp, h, rfl⟩
    have hseen : Participants.seen (Participants.untargeted origin).target =
        Participants.seen (some t) := by
      simp [Participants.untargeted, Participants.seen, hname, hplayer, hself]
    rw [hshown, of_targeted h hshown rfl hseen]
  · intro t shown hshown
    obtain ⟨q, _, hq, -⟩ := of_eq_ok_iff.mp hshown
    obtain ⟨horigin, htarget⟩ := Participants.of?_eq_some_iff.mp hq
    rw [of_targeted h hshown horigin (by rw [htarget])]
  · intro t t' shown shown' hname hplayer hself hshown hshown'
    obtain ⟨q, _, hq, -⟩ := of_eq_ok_iff.mp hshown'
    obtain ⟨horigin, htarget⟩ := Participants.of?_eq_some_iff.mp hq
    have hseen : Participants.seen (some t') = Participants.seen (some t) := by
      simp [Participants.seen, hname, hplayer, hself]
    rw [of_targeted h hshown horigin (by rw [htarget, hseen]),
      of_targeted h hshown' horigin (by rw [htarget])]

/-- A message that names its target in either way, of which one is shown. -/
def greeting : String :=
  "ObjectParameter(2) waves<If(PlayerParameter(8))> to ObjectParameter(3)<Else/> at " ++
    "<SheetEn(ObjStr,2,PlayerParameter(8),1,1)/></If>."

/-- The theorem at a message that names its target once for players and once for others. -/
theorem of_untargeted_greeting :
    (∃ r, Markup.reduce greeting = .ok r) ∧
    of greeting ⟨"A", .male, true, false⟩ none =
      .ok ⟨"A waves at .", ["Message asked for player_target_name_en but has no target"]⟩ ∧
    of greeting ⟨"A", .male, true, false⟩ (some ⟨"", .female, false, false⟩) =
      .ok ⟨"A waves at .", []⟩ ∧
    of greeting ⟨"A", .male, true, false⟩ (some ⟨"B", .male, true, true⟩) =
      .ok ⟨"A waves to B.", []⟩ ∧
    ∃ shown, of greeting ⟨"A", .male, true, false⟩ (some ⟨"B", .female, true, true⟩) = .ok shown ∧
      shown.text = "A waves to B." ∧ shown.warnings = [] := by
  have hreduce : Markup.reduce greeting = .ok [⟨[], .slot .npcOrigin⟩, ⟨[], .static " waves"⟩,
      ⟨[⟨.targetPlayer, true⟩], .static " to "⟩, ⟨[⟨.targetPlayer, true⟩], .slot .npcTarget⟩,
      ⟨[⟨.targetPlayer, false⟩], .static " at "⟩,
      ⟨[⟨.targetPlayer, false⟩], .slot .playerTargetEn⟩, ⟨[], .static "."⟩] := by
    have hmessage : Node.AllWellFormed .part [.participant 2, .text " waves",
        .branch (.fact 8) [.text " to ", .participant 3]
          [.text " at ", .element .sheetEn
            [.object .objStr, .number 2, .fact 8, .number 1, .number 1] none],
        .text "."] := by decide
    rw [Markup.reduce_of_listToMarkup_eq hmessage (by decide +kernel)]
    rfl
  have hmale : of greeting ⟨"A", .male, true, false⟩ (some ⟨"B", .male, true, true⟩) =
      .ok ⟨"A waves to B.", []⟩ := by
    rw [of, hreduce]
    rfl
  have hfemale := of_eq_ok_iff.mpr ⟨⟨⟨"A", .male, true, false⟩,
    some ⟨"B", .female, true, true⟩, by decide⟩, _, Participants.of?_self _, hreduce, rfl⟩
  obtain ⟨hnone, hnobody, hwarnings, hsame⟩ := of_untargeted hreduce ⟨"A", .male, true, false⟩
  refine ⟨⟨_, hreduce⟩, hnone, ?_, hmale, _, hfemale, ?_, hwarnings _ _ hfemale⟩
  · exact hnobody ⟨"", .female, false, false⟩ rfl rfl rfl
  · exact hsame ⟨"B", .female, true, true⟩ ⟨"B", .male, true, true⟩ _ _ rfl rfl rfl hfemale hmale

end Rendering

end LogMarkup
