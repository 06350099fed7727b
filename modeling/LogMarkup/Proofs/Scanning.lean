import LogMarkup.Proofs.Lexeme

/-!
# How text falls apart into lexemes

A text is scanned by taking one lexeme after the other, each the longest match of its
terminal.  The texts that fall apart into the lexemes of a given message are exactly its
spellings, and only a well-formed message has one: its words are of their classes, and no
text could have been continued into the next part.

Main results:

- `Scans.append_iff`: scanning goes lexeme by lexeme.
- `Concrete.ends_listChars_iff`: a text can be continued into a sequence of parts exactly
  when the sequence begins with a text.
- `Concrete.scans_lexemes_iff`, `Concrete.scans_listLexemes_iff`: the texts that fall
  apart into the lexemes of a message are the spellings of well-formed ones.
-/

namespace LogMarkup

/-- The text `s` falls apart into the lexemes, each the longest match at its place, and
the rest. -/
inductive Scans : List Char → List Lexeme → List Char → Prop
  /-- No lexemes leave all of the text. -/
  | nil (s : List Char) : Scans s [] s
  /-- The first lexeme is a longest match, and the others follow. -/
  | cons {l : Lexeme} {ls : List Lexeme} {s mid rest : List Char}
      (hmatch : l.kind.match? s = some (l.chars, mid)) (hrest : Scans mid ls rest) :
      Scans s (l :: ls) rest

namespace Scans

@[simp] theorem nil_iff {s rest : List Char} : Scans s [] rest ↔ s = rest := by
  constructor
  · rintro ⟨⟩
    rfl
  · rintro rfl
    exact nil s

/-- The first lexeme is a word of its class that cannot be continued. -/
theorem cons_iff {l : Lexeme} {ls : List Lexeme} {s rest : List Char} :
    Scans s (l :: ls) rest ↔
      ∃ mid, (l.kind.Admits l.chars ∧ l.kind.Ends mid ∧ s = l.chars ++ mid) ∧
        Scans mid ls rest := by
  constructor
  · rintro (_ | ⟨hmatch, hrest⟩)
    exact ⟨_, Terminal.match?_eq_some_iff.mp hmatch, hrest⟩
  · rintro ⟨mid, hmatch, hrest⟩
    exact cons (Terminal.match?_eq_some_iff.mpr hmatch) hrest

/-- Scanning goes lexeme by lexeme. -/
theorem append_iff {ls ks : List Lexeme} {s rest : List Char} :
    Scans s (ls ++ ks) rest ↔ ∃ mid, Scans s ls mid ∧ Scans mid ks rest := by
  induction ls generalizing s with
  | nil => simp
  | cons l ls ih =>
    simp only [List.cons_append, cons_iff, ih]
    constructor
    · rintro ⟨first, hfirst, mid, hmid, hrest⟩
      exact ⟨mid, ⟨first, hfirst, hmid⟩, hrest⟩
    · rintro ⟨mid, ⟨first, hfirst, hmid⟩, hrest⟩
      exact ⟨first, hfirst, mid, hmid, hrest⟩

/-- Punctuation stands where it is written. -/
theorem sign_cons_iff {t : Terminal} {v : List Char} (ht : t.literal? = some v)
    {ls : List Lexeme} {s rest : List Char} :
    Scans s (.sign t :: ls) rest ↔ ∃ mid, s = v ++ mid ∧ Scans mid ls rest := by
  have hadmits : t.Admits v ∧ ∀ mid, t.Ends mid := by
    cases t <;> simp_all [Terminal.literal?, Terminal.Admits, Terminal.Ends]
  rw [cons_iff]
  simp [Lexeme.sign, ht, hadmits]

/-- A single punctuation mark stands where it is written. -/
theorem sign_iff {t : Terminal} {v : List Char} (ht : t.literal? = some v)
    {s rest : List Char} : Scans s [.sign t] rest ↔ s = v ++ rest := by
  simp [sign_cons_iff ht]

/-- The scanned text is that of the lexemes, and then the rest. -/
theorem eq_flatMap_append {ls : List Lexeme} {s rest : List Char} (h : Scans s ls rest) :
    s = ls.flatMap Lexeme.chars ++ rest := by
  induction h with
  | nil s => simp
  | cons hmatch _ ih =>
    rw [List.flatMap_cons, List.append_assoc, ← ih]
    exact (Terminal.match?_append hmatch).symm

/-- Every lexeme that is scanned is a word of its class, and stands in the text. -/
theorem admits_of_mem {ls : List Lexeme} {s rest : List Char} (h : Scans s ls rest)
    {l : Lexeme} (hl : l ∈ ls) : l.kind.Admits l.chars ∧ l.chars <:+: s := by
  induction h with
  | nil s => simp at hl
  | @cons first ls s mid rest hmatch _ ih =>
    obtain ⟨hadmits, -, rfl⟩ := Terminal.match?_eq_some_iff.mp hmatch
    rcases List.mem_cons.mp hl with rfl | hl
    · exact ⟨hadmits, (List.prefix_append l.chars mid).isInfix⟩
    · obtain ⟨hl, hinfix⟩ := ih hl
      exact ⟨hl, hinfix.trans (List.suffix_append first.chars mid).isInfix⟩

end Scans

namespace Terminal

/-- Where text has been continued as far as possible, no text can begin. -/
theorem not_ends_text_append {w r : List Char} (hw : IsText w) (hr : Ends text r) :
    ¬ Ends text (w ++ r) := by
  intro hends
  have hall : splitText (w ++ r) = (w, r) := splitText_eq_iff.mpr ⟨hw.2, hr, rfl⟩
  have hnone : splitText (w ++ r) = ([], w ++ r) :=
    splitText_eq_iff.mpr ⟨⟨by simp, by decide⟩, hends, rfl⟩
  exact hw.1 (Prod.mk.inj (hall.symm.trans hnone)).1

theorem ends_text_nil : Ends text [] := by
  simp [Ends]

/-- Text stops before the `<` of a tag or of a branch. -/
theorem ends_text_lt (r : List Char) : Ends text ('<' :: r) := by
  simp [Ends]

/-- Text stops before a call. -/
theorem ends_text_call (f : FunctionName) (r : List Char) :
    Ends text (f.chars ++ '(' :: r) := by
  intro c hc
  refine Or.inr (startsCall_iff.mpr ⟨f.chars ++ ['('], ?_, ⟨r, by simp⟩⟩)
  exact List.mem_map.mpr ⟨f, by cases f <;> decide, rfl⟩

end Terminal

namespace Concrete

variable {α : Type}

/-- Can the part not be continued into this rest? -/
def Closed : Concrete α → List Char → Prop
  | text _, r => Terminal.text.Ends r
  | object _, r => Terminal.objectName.Ends r
  | number _, r => Terminal.number.Ends r
  | _, _ => True

/-- Parameters are closed by the comma or the parenthesis behind them. -/
theorem closed_moreChars {x : Concrete α} (hx : Position.param.admits x = true)
    (ps : List (Concrete α)) (r : List Char) : x.Closed (moreChars ps ++ r) := by
  cases x with
  | text w => simp [Position.admits] at hx
  | object n | number d => cases ps <;> simp [Closed, Terminal.Ends, moreChars]
  | call | single | pair | branch => trivial

/-- What can be a condition needs nothing to close it. -/
theorem closed_of_condition {x : Concrete α} (hx : Position.condition.admits x = true)
    (r : List Char) : x.Closed r := by
  cases x with
  | call | single => trivial
  | text | object | number | pair | branch => simp [Position.admits] at hx

/-- The name of a tag is closed by its parameters, or by the sign behind it. -/
theorem ends_paramChars {c : Char} (hc : c.isAlpha = false) (ps : List (Concrete α))
    (r : List Char) : Terminal.tagName.Ends (paramChars ps ++ c :: r) := by
  cases ps with
  | nil => simpa [paramChars, Terminal.Ends] using hc
  | cons p ps => simp [paramChars, Terminal.Ends]

/-- Text stops before a part that is no text. -/
theorem ends_chars_append {x : Concrete α} (hpart : Position.part.admits x = true)
    (htext : x.isText = false) (hx : x.WellFormed) (r : List Char) :
    Terminal.text.Ends (x.chars ++ r) := by
  cases x with
  | text w => simp [isText] at htext
  | object n | number d => simp [Position.admits] at hpart
  | single n ps | pair m n ps inner close => exact Terminal.ends_text_lt _
  | branch c yes no => exact Terminal.ends_text_lt _
  | call n ps =>
    obtain ⟨⟨f, hf⟩, hne, _⟩ := hx
    obtain ⟨p, ps, rfl⟩ := List.exists_cons_of_ne_nil hne
    rw [chars, paramChars, hf]
    simpa using Terminal.ends_text_call f (p.chars ++ moreChars ps ++ r)

/-- A text can be continued into a sequence of parts exactly when the sequence begins
with a text. -/
theorem ends_listChars_iff {xs : List (Concrete α)} (hxs : AllWellFormed .part xs)
    {r : List Char} (hr : Terminal.text.Ends r) :
    Terminal.text.Ends (listChars xs ++ r) ↔ xs.head?.any isText = false := by
  induction xs with
  | nil => simpa [listChars] using hr
  | cons x xs ih =>
    obtain ⟨hpart, hx, hnext, hxs⟩ := hxs
    rw [listChars, List.append_assoc, List.head?_cons, Option.any_some]
    by_cases htext : x.isText = true
    · have hends : Terminal.text.Ends (listChars xs ++ r) := by
        rw [ih hxs]
        simpa [htext] using hnext
      cases x with
      | text w =>
        simp only [htext, Bool.true_eq_false, iff_false]
        exact Terminal.not_ends_text_append hx hends
      | call | single | pair | branch | object | number => simp [isText] at htext
    · rw [Bool.not_eq_true] at htext
      simp only [htext, iff_true]
      exact ends_chars_append hpart htext hx _

/-! ## The texts of a message -/

/-- The text between two tags, and the closing tag behind it. -/
theorem scans_inner_iff {inner : Option (Token α)} {ls : List Lexeme} {s r : List Char} :
    Scans s (innerLexemes inner ++ .sign .closeStart :: ls) r ↔
      (∀ w ∈ inner, Terminal.text.Admits w.chars) ∧
        ∃ mid, s = innerChars inner ++ '<' :: '/' :: mid ∧ Scans mid ls r := by
  have hsign : Terminal.closeStart.literal? = some ['<', '/'] := rfl
  cases inner with
  | none =>
    simp only [innerLexemes, innerChars, List.nil_append, Scans.sign_cons_iff hsign]
    simp
  | some w =>
    simp only [innerLexemes, innerChars, List.cons_append, List.nil_append,
      Scans.cons_iff (l := ⟨.text, _⟩), Scans.sign_cons_iff hsign]
    constructor
    · rintro ⟨_, ⟨hw, _, rfl⟩, mid, rfl, hrest⟩
      exact ⟨by simpa using hw, mid, rfl, hrest⟩
    · rintro ⟨hw, mid, rfl, hrest⟩
      exact ⟨_, ⟨by simpa using hw, Terminal.ends_text_lt _, rfl⟩, mid, rfl, hrest⟩

/-- The name of a tag, its parameters and the sign behind it. -/
theorem scans_tag_iff {n : List Char} {ps : List (Concrete α)} {t : Terminal} {c : Char}
    {v : List Char} (ht : t.literal? = some (c :: v)) (hc : c.isAlpha = false)
    (hps : ∀ {s r : List Char},
      Scans s (paramLexemes ps) r ↔ AllWellFormed .param ps ∧ s = paramChars ps ++ r)
    {ls : List Lexeme} {s r : List Char} :
    Scans s (.sign .tagStart :: ⟨.tagName, n⟩ :: (paramLexemes ps ++ .sign t :: ls)) r ↔
      Terminal.tagName.Admits n ∧ AllWellFormed .param ps ∧
        ∃ mid, s = '<' :: (n ++ (paramChars ps ++ (c :: v ++ mid))) ∧ Scans mid ls r := by
  have hstart : Terminal.tagStart.literal? = some ['<'] := rfl
  simp only [Scans.sign_cons_iff hstart, Scans.cons_iff (l := ⟨.tagName, _⟩), Scans.append_iff, hps,
    Scans.sign_cons_iff ht]
  constructor
  · rintro ⟨_, rfl, _, ⟨hn, _, rfl⟩, _, ⟨hall, rfl⟩, mid, rfl, hrest⟩
    exact ⟨hn, hall, mid, rfl, hrest⟩
  · rintro ⟨hn, hall, mid, rfl, hrest⟩
    exact ⟨_, rfl, _, ⟨hn, ends_paramChars hc ps _, rfl⟩, _, ⟨hall, rfl⟩, mid, rfl, hrest⟩

/-- A parameter and those behind it. -/
theorem scans_paramTail_iff {p : Concrete α} {ps : List (Concrete α)}
    (hadmits : Position.param.admits p = true)
    (hp : ∀ {s r : List Char},
      Scans s p.lexemes r ↔ p.WellFormed ∧ p.Closed r ∧ s = p.chars ++ r)
    (hps : ∀ {s r : List Char},
      Scans s (moreLexemes ps) r ↔ AllWellFormed .param ps ∧ s = moreChars ps ++ r)
    {s r : List Char} :
    Scans s (p.lexemes ++ moreLexemes ps) r ↔
      AllWellFormed .param (p :: ps) ∧ s = p.chars ++ (moreChars ps ++ r) := by
  have htext : p.isText = false := by
    cases p with
    | text w => simp [Position.admits] at hadmits
    | call | single | pair | branch | object | number => rfl
  rw [Scans.append_iff]
  constructor
  · rintro ⟨mid, hmid, hrest⟩
    obtain ⟨hpw, _, rfl⟩ := hp.mp hmid
    obtain ⟨hpsw, rfl⟩ := hps.mp hrest
    exact ⟨⟨hadmits, hpw, by simp [htext], hpsw⟩, rfl⟩
  · rintro ⟨⟨_, hpw, _, hpsw⟩, rfl⟩
    refine ⟨moreChars ps ++ r, hp.mpr ⟨hpw, ?_, rfl⟩, hps.mpr ⟨hpsw, rfl⟩⟩
    exact closed_moreChars hadmits ps r

mutual

/-- The texts that fall apart into the lexemes of a part are its spellings, if it is well
formed and closed by the rest. -/
theorem scans_lexemes_iff : ∀ (x : Concrete α), x.Shaped → ∀ {s r : List Char},
    Scans s x.lexemes r ↔ x.WellFormed ∧ x.Closed r ∧ s = x.chars ++ r
  | text w, _, s, r | object w, _, s, r | number w, _, s, r => by
      simp [lexemes, Scans.cons_iff, WellFormed, Closed, chars]
  | call n ps, hx, s, r => by
      rw [lexemes, Scans.cons_iff]
      constructor
      · rintro ⟨mid, ⟨hn, _, rfl⟩, hmid⟩
        obtain ⟨hps, rfl⟩ := (scans_paramLexemes_iff ps hx.2).mp hmid
        exact ⟨⟨hn, hx.1, hps⟩, trivial, by simp [chars]⟩
      · rintro ⟨⟨hn, _, hps⟩, _, rfl⟩
        refine ⟨paramChars ps ++ r, ⟨hn, trivial, by simp [chars]⟩, ?_⟩
        exact (scans_paramLexemes_iff ps hx.2).mpr ⟨hps, rfl⟩
  | single n ps, hx, s, r => by
      have hsign : Terminal.selfClose.literal? = some ['/', '>'] := rfl
      rw [lexemes, scans_tag_iff hsign (by decide) (scans_paramLexemes_iff ps hx)]
      simp [WellFormed, Closed, chars, and_assoc]
  | pair m n ps inner close, hx, s, r => by
      have hopened : Terminal.tagEnd.literal? = some ['>'] := rfl
      rw [lexemes, scans_tag_iff hopened (by decide) (scans_paramLexemes_iff ps hx)]
      simp only [scans_inner_iff, Scans.cons_iff (l := ⟨.tagName, _⟩), Scans.sign_iff hopened]
      constructor
      · rintro ⟨hn, hps, _, rfl, hinner, _, rfl, _, ⟨hclose, _, rfl⟩, rfl⟩
        exact ⟨⟨hn, hps, hinner, hclose⟩, trivial, by simp [chars]⟩
      · rintro ⟨⟨hn, hps, hinner, hclose⟩, _, rfl⟩
        refine ⟨hn, hps, _, by simp [chars], hinner, _, rfl, '>' :: r, ⟨hclose, ?_, rfl⟩, rfl⟩
        exact ends_paramChars (by decide) ([] : List (Concrete α)) r
  | branch c yes no, hx, s, r => by
      obtain ⟨⟨hadmits, hc⟩, hyes, hno⟩ := hx
      have hif : Terminal.ifStart.literal? = some ['<', 'I', 'f', '('] := rfl
      have hend : Terminal.conditionEnd.literal? = some [')', '>'] := rfl
      have helse : Terminal.elseMark.literal? = some ['<', 'E', 'l', 's', 'e', '/', '>'] := rfl
      have hclose : Terminal.ifEnd.literal? = some ['<', '/', 'I', 'f', '>'] := rfl
      simp only [lexemes, Scans.sign_cons_iff hif, Scans.append_iff, Scans.sign_cons_iff hend,
        Scans.sign_cons_iff helse, Scans.sign_iff hclose, scans_lexemes_iff c hc]
      constructor
      · rintro ⟨_, rfl, _, ⟨hcw, _, rfl⟩, _, rfl, _, hs, _, rfl, _, hs', rfl⟩
        obtain ⟨hyesw, rfl⟩ :=
          (scans_listLexemes_iff yes hyes (Terminal.ends_text_lt _)).mp hs
        obtain ⟨hnow, rfl⟩ := (scans_listLexemes_iff no hno (Terminal.ends_text_lt _)).mp hs'
        exact ⟨⟨⟨hadmits, hcw⟩, hyesw, hnow⟩, trivial, by simp [chars]⟩
      · rintro ⟨⟨⟨_, hcw⟩, hyesw, hnow⟩, _, rfl⟩
        refine ⟨_, by simp [chars], _, ⟨hcw, closed_of_condition hadmits _, rfl⟩, _, rfl, _,
          (scans_listLexemes_iff yes hyes (Terminal.ends_text_lt _)).mpr ⟨hyesw, rfl⟩, _, rfl, _,
          (scans_listLexemes_iff no hno (Terminal.ends_text_lt _)).mpr ⟨hnow, rfl⟩, rfl⟩

/-- The texts that fall apart into the lexemes of parameters are their spellings. -/
theorem scans_paramLexemes_iff : ∀ (ps : List (Concrete α)), AllShaped .param ps →
    ∀ {s r : List Char},
      Scans s (paramLexemes ps) r ↔ AllWellFormed .param ps ∧ s = paramChars ps ++ r
  | [], _, s, r => by simp [paramLexemes, AllWellFormed, paramChars]
  | p :: ps, hx, s, r => by
      have hopen : Terminal.openParen.literal? = some ['('] := rfl
      rw [paramLexemes, Scans.sign_cons_iff hopen]
      simp only [scans_paramTail_iff hx.1 (scans_lexemes_iff p hx.2.1)
        (scans_moreLexemes_iff ps hx.2.2)]
      constructor
      · rintro ⟨_, rfl, hall, rfl⟩
        exact ⟨hall, by simp [paramChars]⟩
      · rintro ⟨hall, rfl⟩
        exact ⟨_, by simp [paramChars], hall, rfl⟩

/-- The texts that fall apart into the lexemes of the parameters behind another one are
their spellings. -/
theorem scans_moreLexemes_iff : ∀ (ps : List (Concrete α)), AllShaped .param ps →
    ∀ {s r : List Char},
      Scans s (moreLexemes ps) r ↔ AllWellFormed .param ps ∧ s = moreChars ps ++ r
  | [], _, s, r => by
      have hclose : Terminal.closeParen.literal? = some [')'] := rfl
      simp [moreLexemes, Scans.sign_iff hclose, AllWellFormed, moreChars]
  | p :: ps, hx, s, r => by
      have hcomma : Terminal.comma.literal? = some [','] := rfl
      rw [moreLexemes, Scans.sign_cons_iff hcomma]
      simp only [scans_paramTail_iff hx.1 (scans_lexemes_iff p hx.2.1)
        (scans_moreLexemes_iff ps hx.2.2)]
      constructor
      · rintro ⟨_, rfl, hall, rfl⟩
        exact ⟨hall, by simp [moreChars]⟩
      · rintro ⟨hall, rfl⟩
        exact ⟨_, by simp [moreChars], hall, rfl⟩

/-- The texts that fall apart into the lexemes of a sequence of parts are the spellings
of well-formed sequences, if text stops before the rest. -/
theorem scans_listLexemes_iff : ∀ (xs : List (Concrete α)), AllShaped .part xs →
    ∀ {s r : List Char}, Terminal.text.Ends r →
      (Scans s (listLexemes xs) r ↔ AllWellFormed .part xs ∧ s = listChars xs ++ r)
  | [], _, s, r, _ => by simp [AllWellFormed, listChars]
  | x :: xs, hx, s, r, hr => by
      obtain ⟨hadmits, hx, hxs⟩ := hx
      rw [listLexemes, Scans.append_iff]
      -- What closes the first part is how the others begin.
      have hclosed : AllWellFormed .part xs → (x.Closed (listChars xs ++ r) ↔
          ¬ (x.isText = true ∧ xs.head?.any isText = true)) := by
        intro hxsw
        cases x with
        | text w => simpa [Closed, isText] using ends_listChars_iff hxsw hr
        | call | single | pair | branch => simp [Closed, isText]
        | object | number => simp [Position.admits] at hadmits
      constructor
      · rintro ⟨mid, hmid, hrest⟩
        obtain ⟨hxsw, rfl⟩ := (scans_listLexemes_iff xs hxs hr).mp hrest
        obtain ⟨hxw, hend, rfl⟩ := (scans_lexemes_iff x hx).mp hmid
        exact ⟨⟨hadmits, hxw, (hclosed hxsw).mp hend, hxsw⟩, by simp [listChars]⟩
      · rintro ⟨⟨_, hxw, hnext, hxsw⟩, rfl⟩
        refine ⟨listChars xs ++ r, ?_, (scans_listLexemes_iff xs hxs hr).mpr ⟨hxsw, rfl⟩⟩
        exact (scans_lexemes_iff x hx).mpr ⟨hxw, (hclosed hxsw).mpr hnext, by simp [listChars]⟩

end

/-- The spelling of a well-formed message falls apart into the lexemes of the message. -/
theorem AllWellFormed.scans {xs : List (Concrete α)} (hxs : AllWellFormed .part xs) :
    Scans (listChars xs) (listLexemes xs) [] :=
  (scans_listLexemes_iff xs hxs.allShaped Terminal.ends_text_nil).mpr
    ⟨hxs, (List.append_nil _).symm⟩

end Concrete

end LogMarkup
