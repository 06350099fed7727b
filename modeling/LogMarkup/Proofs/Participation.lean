import LogMarkup.Proofs.Building
import LogMarkup.Rendering

/-!
# What participants answer

Messages ask participants six questions and show two names.  The answers are not
independent of each other: both questions for the gender of the origin have one answer, and
since only one character can be the reader's own, an origin and a target that both are it
are one player or none.  Nothing else ties the answers to each other.  Of the target they
only tell a part.

Main results:

- `Participants.exists_holds_eq_iff`: which answers participants can give.
- `Participants.answers_eq_of_seen`: what they depend on.
- `Rendering.of_eq_ok_iff`: what a markup is rendered as.
-/

namespace LogMarkup

namespace Participants

/-- Two characters form the participants that consist of them, if they can take part
together. -/
theorem of?_eq_some_iff {origin : Character} {target : Option Character} {p : Participants} :
    of? origin target = some p ↔ p.origin = origin ∧ p.target = target := by
  constructor
  · exact of?_eq_some
  · rintro ⟨rfl, rfl⟩
    exact dif_pos p.agree

theorem of?_self (p : Participants) : of? p.origin p.target = some p :=
  of?_eq_some_iff.mpr ⟨rfl, rfl⟩

/-! ## Answers to conditions -/

/-- Participants that both are the reader's own character are the same, so that both or
neither are players. -/
theorem holds_player_of_selves (p : Participants) (horigin : p.holds .selfOrigin = true)
    (htarget : p.holds .selfTarget = true) : p.holds .originPlayer = p.holds .targetPlayer := by
  obtain ⟨t, ht, hself⟩ := (Option.any_eq_true _ _).mp htarget
  have hsame : p.origin = t := Character.agreesWith_iff.mp (p.agree t ht) horigin hself
  rw [holds, holds, ht, hsame]
  rfl

/-- An origin of whom the conditions hold as given. -/
def originOf (v : Condition → Bool) : Character :=
  ⟨"", if v .originFemale then .female else .male, v .originPlayer, v .selfOrigin⟩

@[simp] theorem originOf_gender (v : Condition → Bool) :
    ((originOf v).gender == .female) = v .originFemale := by
  cases h : v .originFemale <;> simp [originOf, h]

@[simp] theorem originOf_isPlayer (v : Condition → Bool) :
    (originOf v).isPlayer = v .originPlayer := rfl

@[simp] theorem originOf_isSelf (v : Condition → Bool) : (originOf v).isSelf = v .selfOrigin := rfl

/-- Participants can answer the conditions like this exactly if both questions for the
gender have one answer, and those for players have one if both characters are the
reader's own. -/
theorem exists_holds_eq_iff {v : Condition → Bool} :
    (∃ p : Participants, p.holds = v) ↔
      v .originFemale = v .originFemaleDefault ∧
        (v .selfOrigin = true → v .selfTarget = true → v .originPlayer = v .targetPlayer) := by
  constructor
  · rintro ⟨p, rfl⟩
    exact ⟨rfl, p.holds_player_of_selves⟩
  · rintro ⟨hgender, hplayer⟩
    by_cases hselves : v .selfOrigin = true ∧ v .selfTarget = true
    · -- One character takes both parts.
      have hplayers := hplayer hselves.1 hselves.2
      refine ⟨⟨originOf v, some (originOf v), ?_⟩, ?_⟩
      · rintro _ ⟨⟩
        exact Character.agreesWith_iff.mpr fun _ _ => rfl
      · funext k
        cases k <;> simp [holds, ← hgender, ← hplayers, hselves]
    · refine ⟨⟨originOf v, some ⟨"", .male, v .targetPlayer, v .selfTarget⟩, ?_⟩, ?_⟩
      · rintro _ ⟨⟩
        exact Character.agreesWith_iff.mpr fun horigin htarget =>
          absurd ⟨horigin, htarget⟩ hselves
      · funext k
        cases k <;> simp [holds, ← hgender]

/-! ## What is seen of the target -/

/-- What messages tell of a target: its name, and whether it is a player and the reader's
own character.  A missing target is seen as one without name that is neither. -/
def seen (target : Option Character) : String × Bool × Bool :=
  (target.elim "" Character.name, target.any Character.isPlayer, target.any Character.isSelf)

/-- Participants with one origin, whose targets are seen as the same, answer the same. -/
theorem answers_eq_of_seen {p q : Participants} (horigin : p.origin = q.origin)
    (hseen : seen p.target = seen q.target) : p.answers = q.answers := by
  obtain ⟨hname, hplayer, hself⟩ : _ ∧ _ ∧ _ := by simpa only [seen, Prod.mk.injEq] using hseen
  have hshown : ∀ (r : Participants) (s : Slot),
      r.name s = if s.isTarget then r.target.elim "" Character.name else r.origin.name := by
    intro r s
    rw [name, shown?]
    cases s.isTarget <;> cases r.target <;> rfl
  have hholds : p.holds = q.holds := by
    funext k
    cases k <;> simp only [holds, horigin, hplayer, hself]
  have hnames : p.name = q.name := by
    funext s
    rw [hshown, hshown, hname, horigin]
  rw [answers, answers, hholds, hnames]

/-! ## What is rendered for them -/

theorem of_eq_ok_iff {origin : Character} {target : Option Character} {p : Participants} :
    Participants.of origin target = .ok p ↔ of? origin target = some p := by
  rw [Participants.of]
  cases of? origin target <;> simp

end Participants

/-- A markup is rendered as its reduction, if it has one and the characters can take part
together. -/
theorem Rendering.of_eq_ok_iff {markup : String} {origin : Character}
    {target : Option Character} {shown : Rendering} :
    Rendering.of markup origin target = .ok shown ↔
      ∃ p r, Participants.of? origin target = some p ∧ Markup.reduce markup = .ok r ∧
        shown = ofReduction r p := by
  simp only [Rendering.of, bind_eq_ok_iff, mapError_eq_ok_iff, Participants.of_eq_ok_iff, pure,
    Except.pure, Except.ok.injEq]
  constructor
  · rintro ⟨p, hp, r, hr, rfl⟩
    exact ⟨p, r, hp, hr, rfl⟩
  · rintro ⟨p, r, hp, hr, rfl⟩
    exact ⟨p, hp, r, hr, rfl⟩

end LogMarkup
