import LogMarkup.Proofs.Exploration
import Mathlib.Data.List.Induction

/-!
# Where and why reading fails

A chain of a text is a sequence of longest matches whose terminals begin a derivable
sequence.  Markup that cannot be read is reported where the chains got furthest, with the
terminals that one of the chains ending there can be followed by.

Main results:

- `Place.after_start`: the place behind a text, counted in its line feeds and in the
  characters behind the last of them.
- `Concrete.isFurthest_of_parse_error`: the place and the expected terminals of an error.
-/

namespace LogMarkup

/-- The place behind a text is one more than its line feeds, and one more than the
characters behind the last of them. -/
theorem Place.after_start (cs : List Char) :
    start.after cs = ⟨1 + cs.count '\n', 1 + (cs.reverse.takeWhile (· ≠ '\n')).length⟩ := by
  induction cs using List.reverseRecOn with
  | nil => rfl
  | append_singleton cs c ih =>
    rw [after_append, ih, after_cons, after_nil, next]
    by_cases hc : c = '\n'
    · simp [hc]
      omega
    · simp [hc]
      omega

/-- Nothing is said of a terminal but the lexemes before it. -/
theorem Viable.of_append {ts us : List Terminal} (h : Viable (ts ++ us)) : Viable ts := by
  obtain ⟨vs, hvs⟩ := h
  exact ⟨us ++ vs, by rwa [← List.append_assoc]⟩

/-- The lexemes are a chain of the text that ends behind its first `i` characters: each is
the longest match at its place, and their terminals begin a derivable sequence. -/
structure Chain (s : List Char) (ls : List Lexeme) (i : Nat) : Prop where
  le : i ≤ s.length
  scans : Scans s ls (s.drop i)
  viable : Viable (ls.map Lexeme.kind)

/-- What scanning leaves is a rear part of the text. -/
theorem Scans.drop_eq {s rest : List Char} {ls : List Lexeme} (h : Scans s ls rest) :
    rest.length ≤ s.length ∧ s.drop (s.length - rest.length) = rest := by
  obtain rfl := h.eq_flatMap_append
  constructor
  · simp
  · rw [List.length_append, Nat.add_sub_cancel, List.drop_left]

/-- A chain ends where the exploration gets. -/
theorem exists_chain_iff {s : List Char} {i : Nat} :
    (∃ ls, Chain s ls i) ↔ i ≤ s.length ∧ ∃ r, Reading.initial.Reaches s r (s.drop i) := by
  rw [Reading.reaches_initial_iff_viable]
  constructor
  · rintro ⟨ls, hle, hscans, hviable⟩
    exact ⟨hle, ls, hscans, hviable⟩
  · rintro ⟨hle, ls, hscans, hviable⟩
    exact ⟨ls, hle, hscans, hviable⟩

/-- The error tells how far the chains of the text got, which is behind its first `i`
characters, and what could have followed there. -/
structure ReadError.IsFurthest (e : ReadError) (s : List Char) (i : Nat) : Prop where
  /-- Some chain gets there. -/
  reached : ∃ ls, Chain s ls i
  /-- No chain gets further. -/
  furthest : ∀ ls j, Chain s ls j → j ≤ i
  /-- At the end of the text something is missing, and elsewhere something is wrong. -/
  summary : e.summary =
    if i = s.length then "Unexpected end of log message"
    else "Parse error at line " ++ toString e.place.line ++ ", column " ++ toString e.place.column
  /-- The line is one more than the line feeds before the place. -/
  line : e.place.line = 1 + (s.take i).count '\n'
  /-- The column is one more than the characters behind the last of them. -/
  column : e.place.column = 1 + ((s.take i).reverse.takeWhile (· ≠ '\n')).length
  /-- Expected is what one of the chains that get there can be followed by. -/
  expected : ∀ t, t ∈ e.expected ↔ ∃ ls, Chain s ls i ∧ Viable (ls.map Lexeme.kind ++ [t])
  /-- What is expected is named in order, and nothing twice. -/
  sorted : (e.expected.map Terminal.label).Pairwise (· < ·)
  /-- Punctuation is named by its quoted text. -/
  quoted : ∀ t ∈ e.expected, ∀ w, t.literal? = some w →
    t.label = String.ofList (Quoted.ofChars w)

/-- Punctuation is named by its quoted text. -/
theorem Terminal.label_of_literal {t : Terminal} {w : List Char} (h : t.literal? = some w) :
    t.label = String.ofList (Quoted.ofChars w) := by
  have hplain : ∀ c ∈ w, (c ≠ '\'' ∧ c ≠ '\\' ∧ c ≠ '\n' ∧ c ≠ '\r' ∧ c ≠ '\t') ∧
      32 ≤ c.toNat ∧ c.toNat < 127 := by
    cases t <;> simp only [literal?, Option.some.injEq, reduceCtorEq] at h <;> subst h <;> simp
  have hlabel : t.label = String.ofList ('\'' :: (w ++ ['\''])) := by
    cases t <;> simp_all [label, literal?]
  rw [hlabel, Quoted.ofChars_of_plain]
  intro c hc
  obtain ⟨⟨h₁, h₂, h₃, h₄, h₅⟩, hlow, hhigh⟩ := hplain c hc
  have hprintable : isPrintable c = true := by
    rw [isPrintable_of_ascii hhigh, decide_eq_true hlow]
  exact ⟨h₁, h₂, h₃, h₄, h₅, hprintable⟩

namespace Concrete

open Reading

/-- Terminals that are listed in the order of their names have their names in order. -/
theorem pairwise_label_filter (p : Terminal → Bool) :
    ((Terminal.all.filter p).map Terminal.label).Pairwise (· < ·) := by
  have hall : (Terminal.all.map Terminal.label).Pairwise (· < ·) := by decide
  exact hall.sublist (List.filter_sublist.map Terminal.label)

/-- The error of a text whose chains leave at least `left` characters. -/
theorem isFurthest_errorAt {s : List Char} {left : Nat} {expected : List Terminal}
    (h : (Outcome.stuck left expected).Describes (initial.Reaches s)) :
    (errorAt s left expected).IsFurthest s (s.length - left) := by
  obtain ⟨-, ⟨r, rest, ⟨ls, hscans, hrun⟩, rfl⟩, hle, hmem⟩ := h
  obtain ⟨hlength, hdrop⟩ := hscans.drop_eq
  have hplace := Place.after_start (s.take (s.length - rest.length))
  constructor
  case reached =>
    refine exists_chain_iff.mpr ⟨Nat.sub_le _ _, r, ls, ?_, hrun⟩
    rwa [hdrop]
  case furthest =>
    intro ks j hchain
    obtain ⟨hj, r', hreaches⟩ := exists_chain_iff.mp ⟨ks, hchain⟩
    have hleft := hle r' _ hreaches
    rw [List.length_drop] at hleft
    omega
  case summary =>
    have hfound : (errorAt s rest.length expected).found = rest.head? := congrArg List.head? hdrop
    rw [ReadError.summary, hfound]
    cases rest with
    | nil => rw [List.head?_nil, if_pos (by simp)]
    | cons c rest =>
      rw [List.head?_cons, if_neg]
      rw [List.length_cons] at hlength ⊢
      omega
  case line => exact congrArg Place.line hplace
  case column => exact congrArg Place.column hplace
  case expected =>
    intro t
    have hexpected : t ∈ (errorAt s rest.length expected).expected ↔
        ∃ r, initial.Reaches s r rest ∧ t ∈ r.allowed := by
      have hlisted : t ∈ (errorAt s rest.length expected).expected ↔ t ∈ expected := by
        simp [errorAt, Terminal.mem_all]
      rw [hlisted, hmem]
      constructor
      · rintro ⟨r', rest', ⟨ks, hks, hrun'⟩, hsame, ht⟩
        obtain ⟨-, hdrop'⟩ := hks.drop_eq
        rw [hsame, hdrop] at hdrop'
        subst hdrop'
        exact ⟨r', ⟨ks, hks, hrun'⟩, ht⟩
      · rintro ⟨r', hreaches, ht⟩
        exact ⟨r', rest, hreaches, rfl, ht⟩
    rw [hexpected, reaches_allowed_iff_viable]
    constructor
    · rintro ⟨ks, hks, hviable⟩
      exact ⟨ks, ⟨Nat.sub_le _ _, hdrop.symm ▸ hks, hviable.of_append⟩, hviable⟩
    · rintro ⟨ks, hchain, hviable⟩
      exact ⟨ks, hdrop ▸ hchain.scans, hviable⟩
  case sorted => exact pairwise_label_filter fun t => t ∈ expected
  case quoted =>
    intro t _ w hw
    exact Terminal.label_of_literal hw

/-- The error of markup that cannot be read tells where the chains got furthest, and what
could have followed there. -/
theorem isFurthest_of_parse_error {s : List Char} {e : ReadError}
    (h : parseLocated s = .error e) : ∃ i, e.IsFurthest s i := by
  have hdescribes := describes_explore initial s
  unfold parseLocated parse at h
  split at h
  next => contradiction
  next left expected hexplore =>
    rw [hexplore] at hdescribes
    obtain rfl := Except.error.inj h
    exact ⟨_, isFurthest_errorAt hdescribes⟩

/-- At the end of a text no chain goes on. -/
theorem explore_nil (r : Reading) : r.explore [] = r.stop [] := by
  have hnext : r.next [] = [] := by
    refine List.eq_nil_iff_forall_not_mem.mpr fun p hp => ?_
    exact absurd (length_lt_of_mem_next hp) (Nat.not_lt_zero _)
  rw [explore_eq, hnext, List.map_nil, List.foldl_nil]

/-- The theorem where two chains get to the end: behind the parenthesis stands a function's
name that is also the name of an object. -/
theorem isFurthest_of_parse_error_equal :
    parseLocated "Equal(Equal".toList =
      .error ⟨⟨1, 12⟩, none, [.openParen, .closeParen, .comma]⟩ ∧
    ReadError.IsFurthest ⟨⟨1, 12⟩, none, [.openParen, .closeParen, .comma]⟩
      "Equal(Equal".toList 11 := by
  have hname : initial.next "Equal(Equal".toList =
      [(⟨.functionName (.bare "Equal".toList), .message []⟩, "(Equal".toList)] := rfl
  have hparen : next ⟨.functionName (.bare "Equal".toList), .message []⟩ "(Equal".toList =
      [(⟨.start, .params (.call (.bare "Equal".toList)) [] (.message [])⟩, "Equal".toList)] := rfl
  have hparam : next ⟨.start, .params (.call (.bare "Equal".toList)) [] (.message [])⟩
      "Equal".toList =
      [(⟨.functionName (.bare "Equal".toList),
          .params (.call (.bare "Equal".toList)) [] (.message [])⟩, []),
        (⟨.param, .params (.call (.bare "Equal".toList)) [.object (.bare "Equal".toList)]
          (.message [])⟩, [])] := rfl
  have hexplore : initial.explore "Equal(Equal".toList =
      .stuck 0 [.openParen, .closeParen, .comma] := by
    rw [explore_eq, hname, List.map_singleton, explore_eq, hparen, List.map_singleton,
      explore_eq, hparam, List.map_cons, List.map_singleton, explore_nil, explore_nil]
    rfl
  have herror : parseLocated "Equal(Equal".toList =
      .error ⟨⟨1, 12⟩, none, [.openParen, .closeParen, .comma]⟩ := by
    rw [parseLocated, parse, hexplore]
    rfl
  obtain ⟨i, hfurthest⟩ := isFurthest_of_parse_error herror
  have hi : i = 11 := by
    by_contra hne
    have hlength : i ≠ "Equal(Equal".toList.length := hne
    have hsummary := hfurthest.summary
    rw [if_neg hlength] at hsummary
    exact absurd hsummary (by decide)
  exact ⟨herror, hi ▸ hfurthest⟩

end Concrete

end LogMarkup
