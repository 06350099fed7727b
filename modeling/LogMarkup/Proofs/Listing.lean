import LogMarkup.Proofs.CommandTable

/-!
# Listings of a catalogue

A command keeps the place at which it was first entered, even when it reaches a later emote
in the end.  So the list of all commands follows the input, while everything that is told of
a command follows its last emote: the listing by numbers is sorted by them and otherwise
left as it is, and the listing of emotes has one emote for each of the numbers.

Main results:

- `Catalogue.ListsInOrder.enter`, `Catalogue.listsInOrder_ofEmotes`: commands are listed in
  the order of their first occurrence.
- `Catalogue.pairwise_commandsById`, `Catalogue.filter_commandsById`: the listing by numbers
  is a stable sort.
- `Catalogue.exists_mem_emotes_iff`: the numbers of the listed emotes.
- `Catalogue.listings_ofEmotes`: all listings of a catalogue.
-/

namespace LogMarkup

namespace Catalogue

/-! ## Commands in the order of their first occurrence -/

/-- The catalogue lists the commands that occur in `cs`, apart from the empty one, in the
order of their first occurrence. -/
structure ListsInOrder (k : Catalogue) (cs : List String) : Prop where
  /-- The listed commands are those that occur. -/
  mem_iff : ∀ c, c ∈ k.commands ↔ c ≠ "" ∧ c ∈ cs
  /-- A command stands in front of those that occur later for the first time. -/
  pairwise : k.commands.Pairwise fun a b => cs.idxOf a < cs.idxOf b

theorem listsInOrder_empty : empty.ListsInOrder [] :=
  ⟨by simp [empty, commands], List.Pairwise.nil⟩

/-- Later occurrences do not change where a listed command occurs first. -/
theorem ListsInOrder.pairwise_append {k : Catalogue} {cs : List String}
    (h : k.ListsInOrder cs) (later : List String) :
    k.commands.Pairwise fun a b => (cs ++ later).idxOf a < (cs ++ later).idxOf b := by
  apply h.pairwise.imp_of_mem
  intro a b ha hb hlt
  rw [List.idxOf_append_of_mem ((h.mem_iff a).mp ha).2,
    List.idxOf_append_of_mem ((h.mem_iff b).mp hb).2]
  exact hlt

/-- One more entry is one more occurrence. -/
theorem ListsInOrder.enter {k : Catalogue} {cs : List String} (h : k.ListsInOrder cs)
    (c : String) (e : Emote) : (k.enter c e).ListsInOrder (cs ++ [c]) := by
  by_cases hempty : c = ""
  · have hsame : k.enter c e = k := if_pos hempty
    rw [hsame]
    refine ⟨?_, h.pairwise_append [c]⟩
    intro a
    rw [h.mem_iff, List.mem_append, List.mem_singleton, hempty]
    tauto
  by_cases hknown : c ∈ k.commands
  · have hsame : (k.enter c e).commands = k.commands := by
      rw [commands_enter k e hempty, if_pos hknown]
    constructor
    · intro a
      have hc := (h.mem_iff c).mp hknown
      have ha : a = c → a ∈ cs := fun hac => hac ▸ hc.2
      rw [hsame, h.mem_iff, List.mem_append, List.mem_singleton]
      tauto
    · rw [hsame]
      exact h.pairwise_append [c]
  · have hnew : (k.enter c e).commands = k.commands ++ [c] := by
      rw [commands_enter k e hempty, if_neg hknown]
    have hfirst : c ∉ cs := fun hc => hknown ((h.mem_iff c).mpr ⟨hempty, hc⟩)
    constructor
    · intro a
      have ha : a = c → a ≠ "" := fun hac => hac ▸ hempty
      rw [hnew, List.mem_append, List.mem_append, h.mem_iff, List.mem_singleton]
      tauto
    · rw [hnew, List.pairwise_append]
      refine ⟨h.pairwise_append [c], List.pairwise_singleton _ _, ?_⟩
      intro a ha b hb
      have hmem := ((h.mem_iff a).mp ha).2
      rw [List.mem_singleton.mp hb, List.idxOf_append_of_mem hmem,
        List.idxOf_append_of_notMem hfirst]
      have hlt := List.idxOf_lt_length_of_mem hmem
      omega

/-- An emote adds the occurrences of its commands. -/
theorem ListsInOrder.add {k : Catalogue} {cs : List String} (h : k.ListsInOrder cs)
    (e : Emote) : (k.add e).ListsInOrder (cs ++ e.commands) := by
  rw [Catalogue.add]
  generalize e.commands = entered
  induction entered generalizing k cs with
  | nil => simpa using h
  | cons c entered ih =>
    have hrest := ih (h.enter c e)
    rwa [List.append_assoc] at hrest

/-- A catalogue lists the commands of its emotes in the order of their first occurrence. -/
theorem listsInOrder_ofEmotes (emotes : List Emote) :
    (ofEmotes emotes).ListsInOrder (emotes.flatMap Emote.commands) := by
  induction emotes using List.reverseRecOn with
  | nil => exact listsInOrder_empty
  | append_singleton emotes e ih =>
    rw [ofEmotes_concat, List.flatMap_append, List.flatMap_singleton]
    exact ih.add e

/-! ## Commands in the order of the numbers -/

variable {k : Catalogue}

/-- An entry tells the number of its command. -/
theorem id?_of_mem_entries {p : String × Emote} (h : p ∈ k.entries) :
    k.id? p.1 = some p.2.id := by
  rw [id?, find?_eq_some_iff.mpr h]
  rfl

theorem commandsById_perm : k.commandsById.Perm k.commands :=
  (List.mergeSort_perm _ _).map Prod.fst

/-- The entries are compared by the numbers of their emotes. -/
theorem byId_trans (a b c : String × Emote)
    (hab : decide (a.2.id ≤ b.2.id) = true) (hbc : decide (b.2.id ≤ c.2.id) = true) :
    decide (a.2.id ≤ c.2.id) = true := by
  simp only [decide_eq_true_eq] at hab hbc ⊢
  omega

theorem byId_total (a b : String × Emote) :
    (decide (a.2.id ≤ b.2.id) || decide (b.2.id ≤ a.2.id)) = true := by
  simp only [Bool.or_eq_true, decide_eq_true_eq]
  omega

/-- The listing by numbers is sorted by them. -/
theorem pairwise_commandsById :
    k.commandsById.Pairwise fun a b =>
      ∃ i j, k.id? a = some i ∧ k.id? b = some j ∧ i ≤ j := by
  rw [commandsById, List.pairwise_map]
  have hsorted := List.pairwise_mergeSort byId_trans byId_total k.entries
  apply hsorted.imp_of_mem
  intro p q hp hq hle
  rw [List.mem_mergeSort] at hp hq
  exact ⟨_, _, id?_of_mem_entries hp, id?_of_mem_entries hq, of_decide_eq_true hle⟩

/-- Members of a list that are all in order already are not moved against each other by
sorting. -/
theorem filter_mergeSort {α : Type} {le : α → α → Bool}
    (htrans : ∀ a b c, le a b = true → le b c = true → le a c = true)
    (htotal : ∀ a b, (le a b || le b a) = true) {p : α → Bool} {l : List α}
    (hp : ∀ a b, p a = true → p b = true → le a b = true) :
    (l.mergeSort le).filter p = l.filter p := by
  have hordered : (l.filter p).Pairwise fun a b => le a b = true := by
    apply List.pairwise_of_forall_mem_list
    intro a ha b hb
    exact hp a b (List.mem_filter.mp ha).2 (List.mem_filter.mp hb).2
  have hkept := (List.sublist_mergeSort htrans htotal hordered List.filter_sublist).filter p
  rw [List.filter_filter] at hkept
  simp only [Bool.and_self] at hkept
  have hlength := ((List.mergeSort_perm l le).filter p).length_eq
  exact (hkept.eq_of_length hlength.symm).symm

/-- The commands of one number stand in the listing by numbers as in the other one. -/
theorem filter_commandsById (i : Int) :
    k.commandsById.filter (fun c => k.id? c = some i) =
      k.commands.filter fun c => k.id? c = some i := by
  have hnumber : ∀ l : List (String × Emote), (∀ p ∈ l, p ∈ k.entries) →
      (l.map Prod.fst).filter (fun c => k.id? c = some i) =
        (l.filter fun p => p.2.id = i).map Prod.fst := by
    intro l hl
    rw [List.filter_map]
    refine congrArg _ (List.filter_congr ?_)
    intro p hp
    simp [id?_of_mem_entries (hl p hp)]
  rw [commandsById, commands, hnumber k.entries fun _ hp => hp,
    hnumber _ fun _ hp => List.mem_mergeSort.mp hp, filter_mergeSort byId_trans byId_total]
  intro a b ha hb
  simp only [decide_eq_true_eq] at ha hb ⊢
  omega

/-! ## Emotes in the order of the numbers -/

/-- The numbers of the listed emotes are those of all commands. -/
theorem exists_mem_emotes_iff {i : Int} :
    (∃ e ∈ k.emotes, e.id = i) ↔ ∃ c ∈ k.commands, k.id? c = some i := by
  constructor
  · rintro ⟨e, he, rfl⟩
    obtain ⟨c, before, after, hsplit, -⟩ := mem_emotes_iff.mp he
    have hentry : (c, e) ∈ k.entries := by simp [hsplit]
    exact ⟨c, List.mem_map_of_mem hentry, id?_of_mem_entries hentry⟩
  · rintro ⟨c, -, hc⟩
    obtain ⟨e, he, rfl⟩ := Option.map_eq_some_iff.mp hc
    obtain ⟨f, hf, hid, -⟩ := exists_mem_emotes he
    exact ⟨f, hf, hid⟩

/-- A listed emote is reached by a command. -/
theorem exists_find?_of_mem_emotes {e : Emote} (h : e ∈ k.emotes) :
    ∃ c ∈ k.commands, k.find? c = some e := by
  obtain ⟨c, before, after, hsplit, -⟩ := mem_emotes_iff.mp h
  have hentry : (c, e) ∈ k.entries := by simp [hsplit]
  exact ⟨c, List.mem_map_of_mem hentry, find?_eq_some_iff.mpr hentry⟩

/-- The listings of a catalogue.  The commands are those that reach an emote, each once, in
the order of their first occurrence in the emotes, while each reaches the last emote that has
it.  The listing by numbers has the same commands, sorted by the numbers of what they reach;
those of one number stand as in the list of all commands.  The listed emotes have strictly
ascending numbers, which are all numbers of commands, and each is reached by a command. -/
theorem listings_ofEmotes (emotes : List Emote) :
    ((ofEmotes emotes).commands.Nodup ∧
      (∀ c, c ∈ (ofEmotes emotes).commands ↔ (ofEmotes emotes).contains c = true) ∧
      (ofEmotes emotes).commands.Pairwise (fun a b =>
        (emotes.flatMap Emote.commands).idxOf a < (emotes.flatMap Emote.commands).idxOf b) ∧
      ∀ c ∈ (ofEmotes emotes).commands,
        ∃ e : Emote, e.IsLastWith c emotes ∧ (ofEmotes emotes).emote c = .ok e) ∧
    ((ofEmotes emotes).commandsById.Perm (ofEmotes emotes).commands ∧
      (ofEmotes emotes).commandsById.Pairwise (fun a b => ∃ i j,
        (ofEmotes emotes).id? a = some i ∧ (ofEmotes emotes).id? b = some j ∧ i ≤ j) ∧
      ∀ i, (ofEmotes emotes).commandsById.filter (fun c => (ofEmotes emotes).id? c = some i) =
        (ofEmotes emotes).commands.filter fun c => (ofEmotes emotes).id? c = some i) ∧
    (ofEmotes emotes).emotes.Pairwise (·.id < ·.id) ∧
      (∀ i, (∃ e ∈ (ofEmotes emotes).emotes, e.id = i) ↔
        ∃ c ∈ (ofEmotes emotes).commands, (ofEmotes emotes).id? c = some i) ∧
      ∀ e ∈ (ofEmotes emotes).emotes,
        ∃ c ∈ (ofEmotes emotes).commands, (ofEmotes emotes).emote c = .ok e := by
  refine ⟨⟨(ofEmotes emotes).nodup, fun c => mem_commands_iff,
    (listsInOrder_ofEmotes emotes).pairwise, ?_⟩,
    ⟨commandsById_perm, pairwise_commandsById, filter_commandsById⟩,
    pairwise_placedById _, fun i => exists_mem_emotes_iff, ?_⟩
  · intro c hc
    obtain ⟨e, he⟩ := Option.isSome_iff_exists.mp (mem_commands_iff.mp hc)
    exact ⟨e, (find?_ofEmotes_eq_some_iff.mp he).2, by rw [emote, he]⟩
  · intro e he
    obtain ⟨c, hc, hfind⟩ := exists_find?_of_mem_emotes he
    exact ⟨c, hc, by rw [emote, hfind]⟩

/-- The theorem at two emotes that share a command.  The command is entered by the first one
and keeps its place, but has the number of the second one. -/
theorem listings_ofEmotes_shared :
    (ofEmotes shared).commands = ["/bow", "/greet", "/wave"] ∧
    (∃ e : Emote, e.IsLastWith "/greet" shared ∧ (ofEmotes shared).emote "/greet" = .ok e) ∧
    (ofEmotes shared).commandsById.filter (fun c => (ofEmotes shared).id? c = some 1) =
      ["/greet", "/wave"] ∧
    ∃ e ∈ (ofEmotes shared).emotes, e.id = 1 := by
  obtain ⟨⟨-, -, -, hlast⟩, ⟨-, -, hstable⟩, -, hnumbers, -⟩ := listings_ofEmotes shared
  have hcommands : (ofEmotes shared).commands = ["/bow", "/greet", "/wave"] := by decide
  have hgreet : "/greet" ∈ (ofEmotes shared).commands := by simp [hcommands]
  refine ⟨hcommands, hlast _ hgreet, ?_, (hnumbers 1).mpr ⟨_, hgreet, by decide⟩⟩
  rw [hstable 1]
  decide

end Catalogue

end LogMarkup
