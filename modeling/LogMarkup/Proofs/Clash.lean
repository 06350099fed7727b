import LogMarkup.Proofs.Participation
import LogMarkup.Proofs.RoundTrip

/-!
# Dead texts

Nested branches can ask for things that no participants fulfil at once, so that a text of
the reduction is never shown.  That happens exactly if the guards of the text clash: they
ask one condition both ways, or they ask for two genders of the origin, or they ask for one
character in both places that is a player and is none.

Main results:

- `Guard.not_clash_of_holds`: guards that participants fulfil do not clash.
- `Guard.demanded_of_not_clash`, `Guard.exists_all_holds_iff`: guards that do not clash can be
  fulfilled.
- `Markup.exists_kept_iff`: when a text of a markup can be shown.
-/

namespace LogMarkup

namespace Guard

/-- The guards ask for what no participants can be. -/
inductive Clash (gs : List Guard) : Prop
  /-- A condition that holds and does not hold. -/
  | condition {k : Condition} (hyes : ⟨k, true⟩ ∈ gs) (hno : ⟨k, false⟩ ∈ gs) : Clash gs
  /-- An origin of two genders. -/
  | gender {b : Bool} (h : ⟨.originFemale, b⟩ ∈ gs) (h' : ⟨.originFemaleDefault, !b⟩ ∈ gs) :
      Clash gs
  /-- One character in both places that is a player and is none. -/
  | player {b : Bool} (horigin : ⟨.selfOrigin, true⟩ ∈ gs) (htarget : ⟨.selfTarget, true⟩ ∈ gs)
      (h : ⟨.originPlayer, b⟩ ∈ gs) (h' : ⟨.targetPlayer, !b⟩ ∈ gs) : Clash gs

theorem clash_iff {gs : List Guard} :
    Clash gs ↔ (∃ k ∈ Condition.all, ⟨k, true⟩ ∈ gs ∧ ⟨k, false⟩ ∈ gs) ∨
      (∃ b ∈ [true, false], ⟨.originFemale, b⟩ ∈ gs ∧ ⟨.originFemaleDefault, !b⟩ ∈ gs) ∨
      (⟨.selfOrigin, true⟩ ∈ gs ∧ ⟨.selfTarget, true⟩ ∈ gs ∧
        ∃ b ∈ [true, false], ⟨.originPlayer, b⟩ ∈ gs ∧ ⟨.targetPlayer, !b⟩ ∈ gs) := by
  constructor
  · rintro (⟨hyes, hno⟩ | @⟨b, h, h'⟩ | @⟨b, horigin, htarget, h, h'⟩)
    · exact .inl ⟨_, Condition.mem_all _, hyes, hno⟩
    · exact .inr (.inl ⟨b, by simp, h, h'⟩)
    · exact .inr (.inr ⟨horigin, htarget, b, by simp, h, h'⟩)
  · rintro (⟨_, -, hyes, hno⟩ | ⟨_, -, h, h'⟩ | ⟨horigin, htarget, _, -, h, h'⟩)
    · exact .condition hyes hno
    · exact .gender h h'
    · exact .player horigin htarget h h'

instance (gs : List Guard) : Decidable (Clash gs) := decidable_of_iff _ clash_iff.symm

/-! ## Guards that are fulfilled -/

/-- Guards that participants fulfil do not clash. -/
theorem not_clash_of_holds {gs : List Guard} {p : Participants}
    (h : gs.all (Guard.holds p.answers) = true) : ¬ Clash gs := by
  have hanswer : ∀ {k b}, ⟨k, b⟩ ∈ gs → p.holds k = b := by
    intro k b hmem
    simpa [Guard.holds, Participants.answers] using List.all_eq_true.mp h _ hmem
  rintro (⟨hyes, hno⟩ | ⟨hfemale, hdefault⟩ | ⟨horigin, htarget, hplayer, hother⟩)
  · exact Bool.noConfusion ((hanswer hyes).symm.trans (hanswer hno))
  · have hsame : p.holds .originFemale = p.holds .originFemaleDefault := rfl
    rw [hanswer hfemale, hanswer hdefault] at hsame
    simp at hsame
  · have hsame := p.holds_player_of_selves (hanswer horigin) (hanswer htarget)
    rw [hanswer hplayer, hanswer hother] at hsame
    simp at hsame

/-! ## Guards that can be fulfilled -/

/-- The guards ask for one character in both places. -/
def OneSelf (gs : List Guard) : Prop := ⟨.selfOrigin, true⟩ ∈ gs ∧ ⟨.selfTarget, true⟩ ∈ gs

instance (gs : List Guard) : Decidable (OneSelf gs) :=
  inferInstanceAs (Decidable (⟨.selfOrigin, true⟩ ∈ gs ∧ ⟨.selfTarget, true⟩ ∈ gs))

/-- What has to hold for the guards: what they ask for, and what is tied to that. -/
def demanded (gs : List Guard) : Condition → Bool
  | .originFemale | .originFemaleDefault =>
      decide (⟨.originFemale, true⟩ ∈ gs ∨ ⟨.originFemaleDefault, true⟩ ∈ gs)
  | .originPlayer =>
      decide (⟨.originPlayer, true⟩ ∈ gs ∨ OneSelf gs ∧ ⟨.targetPlayer, true⟩ ∈ gs)
  | .targetPlayer =>
      decide (⟨.targetPlayer, true⟩ ∈ gs ∨ OneSelf gs ∧ ⟨.originPlayer, true⟩ ∈ gs)
  | .selfOrigin => decide (⟨.selfOrigin, true⟩ ∈ gs)
  | .selfTarget => decide (⟨.selfTarget, true⟩ ∈ gs)

/-- Some participants are just as demanded. -/
theorem exists_holds_eq_demanded (gs : List Guard) :
    ∃ p : Participants, p.holds = demanded gs := by
  refine Participants.exists_holds_eq_iff.mpr ⟨rfl, ?_⟩
  intro horigin htarget
  have hself : OneSelf gs := ⟨of_decide_eq_true horigin, of_decide_eq_true htarget⟩
  simp only [demanded, hself, true_and]
  exact decide_eq_decide.mpr Or.comm

/-- What is demanded holds. -/
theorem demanded_of_mem {gs : List Guard} {k : Condition} (h : ⟨k, true⟩ ∈ gs) :
    demanded gs k = true := by
  cases k <;> simp [demanded, h]

/-- What is ruled out does not hold, unless the guards clash. -/
theorem demanded_of_not_clash {gs : List Guard} (hclash : ¬ Clash gs) {k : Condition}
    (h : ⟨k, false⟩ ∈ gs) : demanded gs k = false := by
  have hown : ∀ {j}, ⟨j, false⟩ ∈ gs → ⟨j, true⟩ ∉ gs := fun hno hyes =>
    hclash (.condition hyes hno)
  cases k with
  | selfOrigin | selfTarget => exact decide_eq_false (hown h)
  | originFemale =>
    refine decide_eq_false ?_
    rintro (hyes | hyes)
    · exact hown h hyes
    · exact hclash (.gender h hyes)
  | originFemaleDefault =>
    refine decide_eq_false ?_
    rintro (hyes | hyes)
    · exact hclash (.gender hyes h)
    · exact hown h hyes
  | originPlayer =>
    refine decide_eq_false ?_
    rintro (hyes | ⟨⟨horigin, htarget⟩, hyes⟩)
    · exact hown h hyes
    · exact hclash (.player horigin htarget h hyes)
  | targetPlayer =>
    refine decide_eq_false ?_
    rintro (hyes | ⟨⟨horigin, htarget⟩, hyes⟩)
    · exact hown h hyes
    · exact hclash (.player horigin htarget hyes h)

/-- Guards can be fulfilled by participants exactly if they do not clash. -/
theorem exists_all_holds_iff {gs : List Guard} :
    (∃ p : Participants, gs.all (Guard.holds p.answers) = true) ↔ ¬ Clash gs := by
  constructor
  · rintro ⟨p, hp⟩
    exact not_clash_of_holds hp
  · intro hclash
    obtain ⟨p, hp⟩ := exists_holds_eq_demanded gs
    refine ⟨p, List.all_eq_true.mpr ?_⟩
    rintro ⟨k, b⟩ hmem
    have hanswer : demanded gs k = b := by
      cases b with
      | true => exact demanded_of_mem hmem
      | false => exact demanded_of_not_clash hclash hmem
    simp [Guard.holds, Participants.answers, hp, hanswer]

end Guard

namespace Markup

/-- A text is dead exactly when its guards clash.  For a markup that reduces, some origin and
target can take part together for whom the markup is rendered and the text is kept, if and
only if the guards of the text do not clash. -/
theorem exists_kept_iff {markup : String} {r : Reduction} (h : reduce markup = .ok r)
    {i : Item} (hi : i ∈ r) :
    (∃ origin target p, Participants.of? origin target = some p ∧
      Rendering.of markup origin target = .ok (Rendering.ofReduction r p) ∧
      i ∈ r.filter (Item.holds p.answers)) ↔ ¬ Guard.Clash i.guards := by
  rw [← Guard.exists_all_holds_iff]
  constructor
  · rintro ⟨_, _, p, -, -, hkept⟩
    exact ⟨p, (List.mem_filter.mp hkept).2⟩
  · rintro ⟨p, hp⟩
    exact ⟨p.origin, p.target, p, p.of?_self, Rendering.of_eq_ok_iff.mpr ⟨p, r, p.of?_self, h, rfl⟩,
      List.mem_filter.mpr ⟨hi, hp⟩⟩

/-- A message that asks whether one character in both places is a player in both. -/
def mirror : String :=
  "<If(Equal(ObjectParameter(1),ObjectParameter(2)))>" ++
    "<If(Equal(ObjectParameter(1),ObjectParameter(3)))><If(PlayerParameter(7))>" ++
      "<If(PlayerParameter(8))>both<Else/>one</If><Else/></If><Else/></If><Else/></If>"

/-- The guards of the two texts of `mirror`. -/
def mirrored (b : Bool) : List Guard :=
  [⟨.selfOrigin, true⟩, ⟨.selfTarget, true⟩, ⟨.originPlayer, true⟩, ⟨.targetPlayer, b⟩]

/-- The theorem at two texts that ask for one character in both places: as a player in both,
which can be, and in one only, which cannot. -/
theorem exists_kept_iff_mirror :
    reduce mirror =
      .ok [⟨mirrored true, .static "both"⟩, ⟨mirrored false, .static "one"⟩] ∧
    (∃ p : Participants, Item.holds p.answers ⟨mirrored true, .static "both"⟩ = true) ∧
    ∀ p : Participants, Item.holds p.answers ⟨mirrored false, .static "one"⟩ = false := by
  have hreduce : reduce mirror =
      .ok [⟨mirrored true, .static "both"⟩, ⟨mirrored false, .static "one"⟩] := by
    have hmessage : Node.AllWellFormed .part [.branch Condition.selfOrigin.shape
        [.branch Condition.selfTarget.shape [.branch (.fact 7)
          [.branch (.fact 8) [.text "both"] [.text "one"]] []] []] []] := by decide
    rw [reduce_of_listToMarkup_eq hmessage (by decide +kernel)]
    rfl
  refine ⟨hreduce, ?_, ?_⟩
  · obtain ⟨_, _, p, -, -, hkept⟩ :=
      (exists_kept_iff hreduce (i := ⟨mirrored true, .static "both"⟩) (by simp)).mpr (by decide)
    exact ⟨p, (List.mem_filter.mp hkept).2⟩
  · have hdead := (exists_kept_iff hreduce (i := ⟨mirrored false, .static "one"⟩)
      (by simp)).not.mpr (by decide)
    intro p
    rw [Bool.eq_false_iff]
    intro hholds
    exact hdead ⟨p.origin, p.target, p, p.of?_self,
      Rendering.of_eq_ok_iff.mpr ⟨p, _, p.of?_self, hreduce, rfl⟩,
      List.mem_filter.mpr ⟨by simp, hholds⟩⟩

end Markup

end LogMarkup
