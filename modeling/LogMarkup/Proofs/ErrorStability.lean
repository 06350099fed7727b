import LogMarkup.Proofs.Offset

/-!
# Errors and appended text

Whether a terminal matches, and where its longest match ends, is decided by the
characters up to the end of the match and by a bounded number of characters behind it.
The farthest that is looked ahead is for the beginning of a call, which has sixteen
characters at most.  So an error that is reported sixteen characters before the end of
the text or earlier stays as it is, whatever is appended.

Main results:

- `Terminal.match?_append_of_some`, `Terminal.match?_append_of_none`: appended text does
  not change a match that ends early enough, and makes no new one.
- `Reading.reaches_append_iff`: the chains of the longer text are those of the text, if
  all of these stop early enough.
- `Concrete.parseLocated_append_of_error`: the error stays the same.
-/

namespace LogMarkup

namespace Terminal

/-! ## Matches -/

/-- How far the grammar looks ahead, which is as far as the longest beginning of a call. -/
def lookahead : Nat := 16

theorem lookahead_pos : 0 < lookahead := by decide

theorem length_le_lookahead_of_mem_callHeads : ∀ h ∈ callHeads, h.length ≤ lookahead := by
  decide

theorem length_literal_le_lookahead (t : Terminal) :
    (t.literal?.getD []).length ≤ lookahead := by
  cases t <;> decide

theorem length_name_le_lookahead (f : FunctionName) : f.chars.length ≤ lookahead := by
  cases f <;> decide

/-- The words of a branch are shorter than that. -/
theorem length_lt_lookahead_of_mem_keywords : ∀ w ∈ keywords, w.length < lookahead := by
  decide

/-- Whether a word stands at the front of a text that is not shorter does not depend on what
is appended. -/
theorem prefix_append_iff {v s : List Char} (h : v.length ≤ s.length) (x : List Char) :
    v <+: s ++ x ↔ v <+: s := by
  constructor
  · intro hbegins
    exact List.prefix_of_prefix_length_le hbegins (List.prefix_append s x) h
  · intro hbegins
    exact hbegins.trans (List.prefix_append s x)

theorem startsCall_append {s : List Char} (hs : lookahead ≤ s.length) (x : List Char) :
    startsCall (s ++ x) = startsCall s := by
  rw [Bool.eq_iff_iff, startsCall_iff, startsCall_iff]
  refine exists_congr fun h => and_congr_right fun hh => ?_
  exact prefix_append_iff ((length_le_lookahead_of_mem_callHeads h hh).trans hs) x

theorem splitLiteral?_append_of_none {v s : List Char} (h : splitLiteral? v s = none)
    (hv : v.length ≤ s.length) (x : List Char) : splitLiteral? v (s ++ x) = none := by
  have hnot : ¬ v <+: s := by
    rintro ⟨r, hr⟩
    rw [splitLiteral?_eq_some_iff.mpr ⟨rfl, hr.symm⟩] at h
    contradiction
  have hprefix : ¬ v.isPrefixOf (s ++ x) = true := by
    rwa [List.isPrefixOf_iff_prefix, prefix_append_iff hv x]
  rw [splitLiteral?, if_neg hprefix]

/-- A word that ends within a text ends there in every longer text. -/
theorem splitWord_append_right {s : List Char} (h : (splitWord s).2 ≠ []) (x : List Char) :
    splitWord (s ++ x) = ((splitWord s).1, (splitWord s).2 ++ x) := by
  cases s with
  | nil => contradiction
  | cons c s =>
    rw [List.cons_append, splitWord, splitWord]
    by_cases hc : c.isUpper = true
    · rw [splitWord, if_pos hc] at h
      rw [if_pos hc, if_pos hc, span_eq_iff]
      obtain ⟨hword, hends, hs⟩ := span_eq_iff.mp
        (rfl : ((c :: s).takeWhile Char.isAlpha, (c :: s).dropWhile Char.isAlpha) = _)
      refine ⟨hword, ?_, ?_⟩
      · rw [List.head?_append_of_ne_nil _ h]
        exact hends
      · rw [← List.append_assoc, ← hs, List.cons_append]
    · rw [if_neg hc, if_neg hc, List.cons_append]

/-- Hence a short word at the front of a long text stays as it is. -/
theorem fst_splitWord_append {s : List Char} (h : (splitWord s).1.length < lookahead)
    (hs : lookahead ≤ s.length) (x : List Char) : (splitWord (s ++ x)).1 = (splitWord s).1 := by
  have hrest : (splitWord s).2 ≠ [] := by
    intro hnil
    have hall := splitWord_append s
    rw [hnil, List.append_nil] at hall
    rw [hall] at h
    exact absurd hs (Nat.not_le.mpr h)
  rw [splitWord_append_right hrest x]

/-- A word that cannot be continued into the rest cannot be continued into a longer one. -/
theorem Ends.append {t : Terminal} {r : List Char} (h : t.Ends r) (hr : lookahead ≤ r.length)
    (x : List Char) : t.Ends (r ++ x) := by
  obtain ⟨c, r, rfl⟩ := List.exists_cons_of_length_pos (lookahead_pos.trans_le hr)
  cases t with
  | text =>
    intro d hd
    rw [startsCall_append hr x]
    exact h d hd
  | number | objectName | tagName => exact h
  | _ => trivial

/-- Appended text does not change a match that ends early enough. -/
theorem match?_append_of_some {t : Terminal} {s w r : List Char} (h : t.match? s = some (w, r))
    (hr : lookahead ≤ r.length) (x : List Char) : t.match? (s ++ x) = some (w, r ++ x) := by
  obtain ⟨hadmits, hends, rfl⟩ := match?_eq_some_iff.mp h
  exact match?_eq_some_iff.mpr ⟨hadmits, hends.append hr x, List.append_assoc w r x⟩

theorem nonempty?_eq_none_iff {m : List Char × List Char} : nonempty? m = none ↔ m.1 = [] := by
  unfold nonempty?
  split <;> simp_all

/-- Appended text makes no match where there is none. -/
theorem match?_append_of_none {t : Terminal} {s : List Char} (h : t.match? s = none)
    (hs : lookahead ≤ s.length) (x : List Char) : t.match? (s ++ x) = none := by
  cases t with
  | text =>
    obtain ⟨c, s, rfl⟩ := List.exists_cons_of_length_pos (lookahead_pos.trans_le hs)
    simp only [match?, nonempty?_eq_none_iff] at h ⊢
    have hstop : c = '<' ∨ startsCall (c :: s) = true := by
      by_contra hgo
      simp [splitText, hgo] at h
    rw [← startsCall_append hs x, List.cons_append] at hstop
    rw [List.cons_append, splitText, if_pos hstop]
  | number =>
    obtain ⟨c, s, rfl⟩ := List.exists_cons_of_length_pos (lookahead_pos.trans_le hs)
    simp only [match?, nonempty?_eq_none_iff, Digits.split] at h ⊢
    by_cases hc : c.isDigit = true
    · simp [hc] at h
    · simp [hc]
  | objectName =>
    simp only [match?, nonempty?_eq_none_iff] at h ⊢
    rw [fst_splitWord_append (by simp [h, lookahead_pos]) hs, h]
  | tagName =>
    simp only [match?] at h ⊢
    split at h
    next hkeyword =>
      have hshort := length_lt_lookahead_of_mem_keywords _ hkeyword
      rw [if_pos (by rwa [fst_splitWord_append hshort hs])]
    next hkeyword =>
      rw [nonempty?_eq_none_iff] at h
      have hnone : (splitWord (s ++ x)).1 = [] := by
        rw [fst_splitWord_append (by simp [h, lookahead_pos]) hs, h]
      rw [nonempty?_eq_none_iff.mpr hnone, ite_self]
  | functionName =>
    simp only [match?, List.findSome?_eq_none_iff] at h ⊢
    intro f hf
    exact splitLiteral?_append_of_none (h f hf) ((length_name_le_lookahead f).trans hs) x
  | _ => exact splitLiteral?_append_of_none h ((length_literal_le_lookahead _).trans hs) x

end Terminal

/-! ## Chains -/

open Terminal

/-- What is scanned early enough is scanned in every longer text. -/
theorem Scans.append_right {s rest : List Char} {ls : List Lexeme} (h : Scans s ls rest)
    (hrest : lookahead ≤ rest.length) (x : List Char) : Scans (s ++ x) ls (rest ++ x) := by
  induction h with
  | nil s => exact .nil (s ++ x)
  | cons hmatch hscans ih =>
    have hmid := hscans.drop_eq.1
    exact .cons (match?_append_of_some hmatch (hrest.trans hmid) x) (ih hrest)

namespace Reading

/-- A terminal that is allowed can be taken, whatever its word is. -/
theorem exists_advance_of_allows {r : Reading} {t : Terminal} (h : r.allows t = true)
    (w : List Char) : ∃ r', r.advance t w = some r' := by
  obtain ⟨r', hadvance⟩ := Option.isSome_iff_exists.mp h
  simp only [advance_eq_some_iff] at hadvance ⊢
  cases hadvance <;> exact ⟨_, by constructor <;> assumption⟩

/-- If all chains from a reading over a text stop early enough, then they are all chains over
every longer text.  The induction is on the chain over the longer text: its first lexeme
is the longest match of a terminal that is allowed, and so is that of the text. -/
theorem reaches_append_iff {r r' : Reading} {s rest' x : List Char}
    (hstop : ∀ r₁ rest, r.Reaches s r₁ rest → lookahead ≤ rest.length) :
    r.Reaches (s ++ x) r' rest' ↔ ∃ rest, r.Reaches s r' rest ∧ rest' = rest ++ x := by
  constructor
  · rintro ⟨ls, hscans, hrun⟩
    induction ls generalizing r s with
    | nil =>
      obtain rfl := Scans.nil_iff.mp hscans
      obtain rfl := Option.some.inj hrun
      exact ⟨s, reaches_refl r s, rfl⟩
    | cons l ls ih =>
      obtain ⟨r₁, hadvances, hrun⟩ := run_cons_eq_some_iff.mp hrun
      have hadvance : r.advance l.kind l.chars = some r₁ := advance_eq_some_iff.mpr hadvances
      cases hscans with
      | @cons _ _ _ mid' _ hmatch hscans =>
        cases hown : l.kind.match? s with
        | none =>
          rw [match?_append_of_none hown (hstop r s (reaches_refl r s)) x] at hmatch
          contradiction
        | some m =>
          obtain ⟨w, mid⟩ := m
          obtain ⟨r₂, hr₂⟩ := exists_advance_of_allows (allows_of_advance hadvance) w
          have hnext : (r₂, mid) ∈ r.next s :=
            mem_next_iff.mpr ⟨l.kind, w, allows_of_advance hadvance, hown, hr₂⟩
          have hon : ∀ r₃ rest, r₂.Reaches mid r₃ rest → r.Reaches s r₃ rest :=
            fun r₃ rest h => reaches_iff.mpr (.inr ⟨(r₂, mid), hnext, h⟩)
          have hmid : lookahead ≤ mid.length := hstop r₂ mid (hon r₂ mid (reaches_refl r₂ mid))
          rw [match?_append_of_some hown hmid x] at hmatch
          obtain ⟨rfl, rfl⟩ := Prod.mk.inj (Option.some.inj hmatch)
          obtain rfl := Option.some.inj (hr₂.symm.trans hadvance)
          obtain ⟨rest, hreaches, hrest⟩ :=
            ih (fun r₃ rest h => hstop r₃ rest (hon r₃ rest h)) hscans hrun
          exact ⟨rest, hon r' rest hreaches, hrest⟩
  · rintro ⟨rest, hreaches, rfl⟩
    obtain ⟨ls, hscans, hrun⟩ := hreaches
    exact ⟨ls, hscans.append_right (hstop r' rest ⟨ls, hscans, hrun⟩) x, hrun⟩

end Reading

/-! ## Outcomes -/

namespace Outcome

variable {ends : Reading → List Char → Prop} {l : Nat} {e : List Terminal}

/-- Chains that leave some more characters, none of them read, amount to the same failure. -/
theorem Describes.append (h : (stuck l e).Describes ends) (x : List Char) :
    (stuck (l + x.length) e).Describes (fun r rest' => ∃ rest, ends r rest ∧ rest' = rest ++ x) := by
  obtain ⟨hnone, ⟨r, rest, hends, hl⟩, hle, hmem⟩ := h
  refine ⟨?_, ⟨r, rest ++ x, ⟨rest, hends, rfl⟩, by rw [List.length_append, hl]⟩, ?_, ?_⟩
  · rintro r ⟨rest, hends, hrest⟩
    obtain ⟨rfl, -⟩ := List.append_eq_nil_iff.mp hrest.symm
    exact hnone r hends
  · rintro r _ ⟨rest, hends, rfl⟩
    rw [List.length_append]
    exact Nat.add_le_add_right (hle r rest hends) x.length
  · intro t
    rw [hmem]
    constructor
    · rintro ⟨r, rest, hends, hl, ht⟩
      exact ⟨r, rest ++ x, ⟨rest, hends, rfl⟩, by rw [List.length_append, hl], ht⟩
    · rintro ⟨r, _, ⟨rest, hends, rfl⟩, hl, ht⟩
      rw [List.length_append] at hl
      exact ⟨r, rest, hends, Nat.add_right_cancel hl, ht⟩

/-- The chains fail in one place, and expect the same there. -/
theorem Describes.unique (h : (stuck l e).Describes ends) {o : Outcome} (ho : o.Describes ends) :
    ∃ e', o = stuck l e' ∧ ∀ t, t ∈ e' ↔ t ∈ e := by
  obtain ⟨hnone, ⟨r, rest, hends, hl⟩, hle, hmem⟩ := h
  cases o with
  | finished m =>
    obtain ⟨r', hr', hm⟩ := ho
    rw [hnone r' hr'] at hm
    contradiction
  | stuck l' e' =>
    obtain ⟨-, ⟨r', rest', hends', hl'⟩, hle', hmem'⟩ := ho
    have hfirst := hle r' rest' hends'
    have hsecond := hle' r rest hends
    obtain rfl : l = l' := by omega
    exact ⟨e', rfl, fun t => by rw [hmem, hmem']⟩

end Outcome

namespace Reading

variable {r : Reading} {s : List Char} {left : Nat} {expected : List Terminal}

/-- Chains leave no more than there was. -/
theorem left_le_of_explore (h : r.explore s = .stuck left expected) : left ≤ s.length := by
  have hdescribes := describes_explore r s
  rw [h] at hdescribes
  obtain ⟨_, rest, ⟨_, hscans, -⟩, rfl⟩ := hdescribes.2.1
  exact hscans.drop_eq.1

/-- A failure that leaves enough characters stays the same when something is appended. -/
theorem explore_append (h : r.explore s = .stuck left expected) (hleft : lookahead ≤ left)
    (x : List Char) : ∃ expected', r.explore (s ++ x) = .stuck (left + x.length) expected' ∧
      ∀ t, t ∈ expected' ↔ t ∈ expected := by
  have hdescribes := describes_explore r s
  rw [h] at hdescribes
  have hstop : ∀ r₁ rest, r.Reaches s r₁ rest → lookahead ≤ rest.length :=
    fun r₁ rest hreaches => hleft.trans (hdescribes.2.2.1 r₁ rest hreaches)
  have hchains : r.Reaches (s ++ x) =
      fun r₁ rest' => ∃ rest, r.Reaches s r₁ rest ∧ rest' = rest ++ x := by
    funext r₁ rest'
    exact propext (reaches_append_iff hstop)
  have hlonger := describes_explore r (s ++ x)
  rw [hchains] at hlonger
  exact (hdescribes.append x).unique hlonger

end Reading

/-! ## Errors -/

namespace Concrete

open Reading

/-- The error of a longer text whose chains get equally far and expect the same. -/
theorem errorAt_append {s : List Char} {left : Nat} (hleft : left ≤ s.length) (hpos : 0 < left)
    {expected expected' : List Terminal} (h : ∀ t, t ∈ expected' ↔ t ∈ expected)
    (x : List Char) : errorAt (s ++ x) (left + x.length) expected' = errorAt s left expected := by
  have hoffset : (s ++ x).length - (left + x.length) = s.length - left := by
    rw [List.length_append]
    omega
  have hle : s.length - left ≤ s.length := Nat.sub_le _ _
  have hne : s.drop (s.length - left) ≠ [] := by
    refine List.ne_nil_of_length_pos ?_
    rw [List.length_drop]
    omega
  simp only [errorAt, hoffset, List.take_append_of_le_length hle,
    List.drop_append_of_le_length hle, List.head?_append_of_ne_nil _ hne, h]

/-- An error that is reported sixteen characters before the end of a text or earlier stays
the same when something is appended: the longer text cannot be read either, for the same
reason, at the same place and with the same terminals expected. -/
theorem parseLocated_append_of_error {s : List Char} {e : ReadError} {i : Nat}
    (h : parseLocated s = .error e) (hplace : e.place.Denotes s i) (hi : i + 16 ≤ s.length)
    (x : List Char) : parseLocated (s ++ x) = .error e := by
  unfold parseLocated parse at h ⊢
  split at h
  next => contradiction
  next left expected hexplore =>
    obtain rfl := Except.error.inj h
    have hleft : left ≤ s.length := left_le_of_explore hexplore
    have hoffset : s.length - left = i :=
      (Place.denotes_iff.mpr ⟨Nat.sub_le _ _, rfl⟩).unique hplace
    have hfar : lookahead ≤ left := by
      have hlook : lookahead = 16 := rfl
      omega
    obtain ⟨expected', hexplore', hmem⟩ := explore_append hexplore hfar x
    rw [hexplore']
    exact congrArg Except.error
      (errorAt_append hleft (lookahead_pos.trans_le hfar) hmem x)

/-- The theorem at a call behind literal text, whose parameters are not separated by a comma. -/
theorem parseLocated_append_of_error_separator :
    parseLocated "to\nEqual(1;2) and so on and on.".toList =
        .error ⟨⟨2, 8⟩, some ';', [.closeParen, .comma]⟩ ∧
      parseLocated ("to\nEqual(1;2) and so on and on.".toList ++ "Equal(2)".toList) =
        .error ⟨⟨2, 8⟩, some ';', [.closeParen, .comma]⟩ := by
  have htext : initial.next "to\nEqual(1;2) and so on and on.".toList =
      [(⟨.start, .message [.text (.bare "to\n".toList)]⟩,
        "Equal(1;2) and so on and on.".toList)] := rfl
  have hname : next ⟨.start, .message [.text (.bare "to\n".toList)]⟩
      "Equal(1;2) and so on and on.".toList =
      [(⟨.functionName (.bare "Equal".toList), .message [.text (.bare "to\n".toList)]⟩,
        "(1;2) and so on and on.".toList)] := rfl
  have hparen : next
      ⟨.functionName (.bare "Equal".toList), .message [.text (.bare "to\n".toList)]⟩
      "(1;2) and so on and on.".toList =
      [(⟨.start, .params (.call (.bare "Equal".toList)) []
        (.message [.text (.bare "to\n".toList)])⟩, "1;2) and so on and on.".toList)] := rfl
  have hparam : next ⟨.start, .params (.call (.bare "Equal".toList)) []
      (.message [.text (.bare "to\n".toList)])⟩ "1;2) and so on and on.".toList =
      [(⟨.param, .params (.call (.bare "Equal".toList)) [.number (.bare ['1'])]
        (.message [.text (.bare "to\n".toList)])⟩, ";2) and so on and on.".toList)] := rfl
  have hstuck : next ⟨.param, .params (.call (.bare "Equal".toList)) [.number (.bare ['1'])]
      (.message [.text (.bare "to\n".toList)])⟩ ";2) and so on and on.".toList = [] := rfl
  have hexplore : initial.explore "to\nEqual(1;2) and so on and on.".toList =
      .stuck 21 [.closeParen, .comma] := by
    rw [explore_eq, htext, List.map_singleton, explore_eq, hname, List.map_singleton,
      explore_eq, hparen, List.map_singleton, explore_eq, hparam, List.map_singleton,
      explore_eq, hstuck]
    rfl
  have herror : parseLocated "to\nEqual(1;2) and so on and on.".toList =
      .error ⟨⟨2, 8⟩, some ';', [.closeParen, .comma]⟩ := by
    rw [parseLocated, parse, hexplore]
    rfl
  have hplace : Place.Denotes ⟨2, 8⟩ "to\nEqual(1;2) and so on and on.".toList 10 :=
    ⟨by decide, by decide, by decide⟩
  exact ⟨herror, parseLocated_append_of_error herror hplace (by decide) _⟩

end Concrete

end LogMarkup
