import LogMarkup.Proofs.Interpretation

/-!
# Conditions that are reached

A reduction repeats in front of each text all conditions of the branches around it, so that
evaluation also tests conditions of branches that reading the message never comes to.  This
module shows that those conditions do not matter: what a message shows only depends on the
answers to the conditions that are reached.

Main results:

- `Node.asks_cons_iff`, `Node.asks_branch_iff`, `Node.asks_wrapped_iff`: which conditions are
  reached, from the outside in.
- `Node.interpret_congr`, `Node.interpretList_congr`: the direct reading only depends on
  their answers.
- `Node.evaluate_congr_of_asks`: and so do the texts that evaluation keeps.
-/

namespace LogMarkup

namespace Node

/-- Reading the message for the answers comes to a branch that asks the condition: all
branches around it lead to it. -/
def Asks (a : Answers) (ns : List Node) (k : Condition) : Prop :=
  ∃ gs c yes no, Stands gs (branch c yes no) ns ∧ gs.all (Guard.holds a) = true ∧
    Condition.ofNode? c = some k

/-! ## Where conditions are reached -/

/-- What stands in a message also stands in a larger one. -/
theorem Stands.mono {gs : List Guard} {n : Node} {ns ms : List Node} (h : Stands gs n ns)
    (hsub : ns ⊆ ms) : Stands gs n ms := by
  cases h with
  | part hmem => exact .part (hsub hmem)
  | yes hmem hcondition hside => exact .yes (hsub hmem) hcondition hside
  | no hmem hcondition hside => exact .no (hsub hmem) hcondition hside
  | wrapped hmem hinside => exact .wrapped (hsub hmem) hinside

/-- What stands in a message stands in one of its parts. -/
theorem Stands.exists_part {gs : List Guard} {n : Node} {ns : List Node} (h : Stands gs n ns) :
    ∃ m ∈ ns, Stands gs n [m] := by
  cases h with
  | part hmem => exact ⟨n, hmem, .part (List.mem_singleton_self _)⟩
  | yes hmem hcondition hside =>
    exact ⟨_, hmem, .yes (List.mem_singleton_self _) hcondition hside⟩
  | no hmem hcondition hside =>
    exact ⟨_, hmem, .no (List.mem_singleton_self _) hcondition hside⟩
  | wrapped hmem hinside => exact ⟨_, hmem, .wrapped (List.mem_singleton_self _) hinside⟩

variable {a b : Answers} {k : Condition}

theorem asks_iff_exists_mem (ns : List Node) : Asks a ns k ↔ ∃ n ∈ ns, Asks a [n] k := by
  constructor
  · rintro ⟨gs, c, yes, no, hstands, hgs, hk⟩
    obtain ⟨m, hm, hpart⟩ := hstands.exists_part
    exact ⟨m, hm, gs, c, yes, no, hpart, hgs, hk⟩
  · rintro ⟨m, hm, gs, c, yes, no, hstands, hgs, hk⟩
    exact ⟨gs, c, yes, no, hstands.mono (by simpa using hm), hgs, hk⟩

/-- A message asks what its parts ask. -/
theorem asks_cons_iff {n : Node} {ns : List Node} :
    Asks a (n :: ns) k ↔ Asks a [n] k ∨ Asks a ns k := by
  rw [asks_iff_exists_mem (n :: ns), asks_iff_exists_mem ns]
  simp

/-- A text asks nothing. -/
theorem not_asks_text (s : String) : ¬ Asks a [text s] k := by
  rintro ⟨gs, c, yes, no, hstands, -, -⟩
  cases hstands with
  | part hmem => simp at hmem
  | yes hmem => simp at hmem
  | no hmem => simp at hmem
  | wrapped hmem => simp at hmem

/-- A branch asks its own condition, and then what the side asks that is led into. -/
theorem asks_branch_iff {c : Node} {j : Condition} {yes no : List Node}
    (hj : Condition.ofNode? c = some j) :
    Asks a [branch c yes no] k ↔ k = j ∨ if a.holds j then Asks a yes k else Asks a no k := by
  constructor
  · rintro ⟨gs, c', yes', no', hstands, hgs, hk⟩
    cases hstands with
    | part hmem =>
      obtain ⟨rfl, rfl, rfl⟩ : c' = c ∧ yes' = yes ∧ no' = no := by simpa using hmem
      exact .inl (Option.some.inj (hk.symm.trans hj))
    | yes hmem hcondition hside =>
      obtain ⟨rfl, rfl, rfl⟩ := by simpa using hmem
      obtain rfl := Option.some.inj (hcondition.symm.trans hj)
      obtain ⟨hholds, hgs⟩ := by simpa [Guard.holds] using hgs
      rw [if_pos hholds]
      exact .inr ⟨_, c', yes', no', hside, by simpa [Guard.holds] using hgs, hk⟩
    | no hmem hcondition hside =>
      obtain ⟨rfl, rfl, rfl⟩ := by simpa using hmem
      obtain rfl := Option.some.inj (hcondition.symm.trans hj)
      obtain ⟨hholds, hgs⟩ := by simpa [Guard.holds] using hgs
      rw [if_neg (by simp [hholds])]
      exact .inr ⟨_, c', yes', no', hside, by simpa [Guard.holds] using hgs, hk⟩
    | wrapped hmem => simp at hmem
  · rintro (rfl | hside)
    · exact ⟨[], c, yes, no, .part (by simp), rfl, hj⟩
    · by_cases hholds : a.holds j = true
      · rw [if_pos hholds] at hside
        obtain ⟨gs, c', yes', no', hstands, hgs, hk⟩ := hside
        exact ⟨_, c', yes', no', .yes (List.mem_singleton_self _) hj hstands,
          by simp [hgs, Guard.holds, hholds], hk⟩
      · rw [if_neg hholds] at hside
        obtain ⟨gs, c', yes', no', hstands, hgs, hk⟩ := hside
        exact ⟨_, c', yes', no', .no (List.mem_singleton_self _) hj hstands,
          by simp [hgs, Guard.holds, hholds], hk⟩

/-- A wrapper asks what the wrapped part asks. -/
theorem asks_wrapped_iff {p : Node} :
    Asks a [element .clickable [p] none] k ↔ Asks a [p] k := by
  constructor
  · rintro ⟨gs, c, yes, no, hstands, hgs, hk⟩
    cases hstands with
    | part hmem => simp at hmem
    | yes hmem => simp at hmem
    | no hmem => simp at hmem
    | wrapped hmem hinside =>
      obtain rfl := by simpa using hmem
      exact ⟨gs, c, yes, no, hinside, hgs, hk⟩
  · rintro ⟨gs, c, yes, no, hstands, hgs, hk⟩
    exact ⟨gs, c, yes, no, .wrapped (by simp) hstands, hgs, hk⟩

/-! ## What depends on them -/

mutual

/-- The direct reading of a node only depends on the conditions that it reaches. -/
theorem interpret_congr : ∀ (n : Node), (∀ k, Asks a [n] k → b.holds k = a.holds k) →
    interpret b n = interpret a n
  | text _, _ | object _, _ | number _, _ | tag _ _, _ | call _ _, _ => by
      simp only [interpret]
  | element .clickable [p] none, h => by
      rw [interpret, interpret]
      exact interpret_congr p fun k hk => h k (asks_wrapped_iff.mpr hk)
  | element .clickable [] none, _ | element .clickable (_ :: _ :: _) none, _ => by
      simp only [interpret]
  | element .clickable _ (some _), _ | element .sheet _ _, _ | element .sheetEn _ _, _ => by
      simp only [interpret]
  | branch c yes no, h => by
      cases hj : Condition.ofNode? c with
      | none => simp [interpret, hj]
      | some j =>
        have hown : b.holds j = a.holds j := h j ((asks_branch_iff hj).mpr (.inl rfl))
        rw [interpret_branch hj, interpret_branch hj, hown]
        by_cases hholds : a.holds j = true
        · rw [if_pos hholds, if_pos hholds]
          refine interpretList_congr yes fun k hk => h k ((asks_branch_iff hj).mpr (.inr ?_))
          rwa [if_pos hholds]
        · rw [if_neg hholds, if_neg hholds]
          refine interpretList_congr no fun k hk => h k ((asks_branch_iff hj).mpr (.inr ?_))
          rwa [if_neg hholds]

/-- The direct reading of a sequence only depends on the conditions that it reaches. -/
theorem interpretList_congr : ∀ (ns : List Node), (∀ k, Asks a ns k → b.holds k = a.holds k) →
    interpretList b ns = interpretList a ns
  | [], _ => by simp only [interpretList]
  | n :: ns, h => by
      have hfirst := interpret_congr n fun k hk => h k (asks_cons_iff.mpr (.inl hk))
      have hothers := interpretList_congr ns fun k hk => h k (asks_cons_iff.mpr (.inr hk))
      rw [interpretList, interpretList, hfirst, hothers]

end

/-- A condition that is not reached does not matter: answers that name the slots alike and
agree on all conditions that the message reaches keep the same texts and show the same. -/
theorem evaluate_congr_of_asks {message : List Node} {r : Reduction}
    (h : reduceMessage message = .ok r) (hname : ∀ s, b.name s = a.name s)
    (hagree : ∀ k, Asks a message k → b.holds k = a.holds k) :
    r.kept b = r.kept a ∧ r.evaluate b = r.evaluate a := by
  have hread : interpretList b message = interpretList a message :=
    interpretList_congr message hagree
  rw [interpretList_of_reduceList a message h, interpretList_of_reduceList b message h] at hread
  have hkept : r.kept b = r.kept a := Option.some.inj hread
  have hshown : Text.shown b = Text.shown a := by
    funext t
    cases t with
    | static s => rfl
    | slot s => exact hname s
  refine ⟨hkept, ?_⟩
  rw [Reduction.evaluate, Reduction.evaluate, hkept, hshown]

/-- The theorem at a branch inside the side that is not led into.  Its condition is asked of
two items of the reduction, but only the outer condition is reached. -/
theorem evaluate_congr_of_asks_unreached :
    ∃ r, reduceMessage [branch (.fact 7) [text "player"]
          [element .clickable [branch (.fact 8) [text "you"] [text "they"]] none]] = .ok r ∧
      r.map (fun i => i.guards.map Guard.condition) =
        [[.originPlayer], [.originPlayer, .targetPlayer], [.originPlayer, .targetPlayer]] ∧
      Reduction.evaluate r ⟨(· == .originPlayer), Slot.name⟩ = "player" ∧
      Reduction.evaluate r ⟨fun _ => true, Slot.name⟩ = "player" := by
  have hreduce : reduceMessage [branch (.fact 7) [text "player"]
      [element .clickable [branch (.fact 8) [text "you"] [text "they"]] none]] = .ok _ := rfl
  refine ⟨_, hreduce, rfl, rfl, ?_⟩
  refine (evaluate_congr_of_asks (a := ⟨(· == .originPlayer), Slot.name⟩) hreduce ?_ ?_).2
  · intro s
    rfl
  · intro k hk
    rcases (asks_branch_iff (j := .originPlayer) rfl).mp hk with rfl | hside
    · rfl
    · exact absurd hside (not_asks_text "player")

end Node

end LogMarkup
