import LogMarkup.Proofs.ValidReading

/-!
# The grammar of markup

The grammar is written down rule by rule, with one constructor for each way to apply a
rule.  Repetitions and options are phrases of their own.  The sequences of terminals that
it derives are those of the messages built by the rules, and their beginnings are what
readings recognize.  So the steps of a reading, which look at nothing but the innermost
of what is open, follow the grammar.

Main results:

- `derives_start_iff`: the derivable sequences are those of messages built by the rules.
- `viable_iff`: a sequence of terminals begins a derivable one exactly when a reading
  can take it, whatever its words are.
-/

namespace LogMarkup

/-- The kinds of pieces that the rules of the grammar speak of. -/
inductive Phrase where
  /-- A whole message. -/
  | start
  /-- Any number of parts. -/
  | parts
  /-- A part of a message or of a branch. -/
  | part
  /-- Literal text. -/
  | text
  /-- Literal text, or nothing. -/
  | optionalText
  /-- A branch, a pair of tags or a tag without closing tag. -/
  | element
  /-- An opening tag, perhaps text, and a closing tag. -/
  | pairedTag
  /-- An opening tag. -/
  | openTag
  /-- A closing tag. -/
  | closeTag
  /-- A tag without closing tag. -/
  | autoClosingTag
  /-- A call. -/
  | function
  /-- Parameters with their parentheses. -/
  | params
  /-- Parameters with their parentheses, or nothing. -/
  | optionalParams
  /-- Any number of further parameters, each with a comma before it. -/
  | moreParams
  /-- A parameter. -/
  | param
  /-- A branch with its two sides. -/
  | ifElse
  /-- The condition of a branch. -/
  | ifParam
deriving DecidableEq, Repr

open Terminal in
/-- The grammar derives the sequence of terminals from the phrase. -/
inductive Derives : Phrase → List Terminal → Prop
  | start {u : List Terminal} (h : Derives .parts u) : Derives .start u
  | noParts : Derives .parts []
  | moreParts {u v : List Terminal} (hu : Derives .part u) (hv : Derives .parts v) :
      Derives .parts (u ++ v)
  | partText {u : List Terminal} (h : Derives .text u) : Derives .part u
  | partElement {u : List Terminal} (h : Derives .element u) : Derives .part u
  | partFunction {u : List Terminal} (h : Derives .function u) : Derives .part u
  | text : Derives .text [text]
  | noText : Derives .optionalText []
  | someText {u : List Terminal} (h : Derives .text u) : Derives .optionalText u
  | elementIfElse {u : List Terminal} (h : Derives .ifElse u) : Derives .element u
  | elementPairedTag {u : List Terminal} (h : Derives .pairedTag u) : Derives .element u
  | elementAutoClosingTag {u : List Terminal} (h : Derives .autoClosingTag u) :
      Derives .element u
  | pairedTag {u v w : List Terminal} (hu : Derives .openTag u) (hv : Derives .optionalText v)
      (hw : Derives .closeTag w) : Derives .pairedTag (u ++ (v ++ w))
  | openTag {u : List Terminal} (h : Derives .optionalParams u) :
      Derives .openTag (tagStart :: tagName :: (u ++ [tagEnd]))
  | closeTag : Derives .closeTag [closeStart, tagName, tagEnd]
  | autoClosingTag {u : List Terminal} (h : Derives .optionalParams u) :
      Derives .autoClosingTag (tagStart :: tagName :: (u ++ [selfClose]))
  | function {u : List Terminal} (h : Derives .params u) :
      Derives .function (functionName :: u)
  | params {u v : List Terminal} (hu : Derives .param u) (hv : Derives .moreParams v) :
      Derives .params (openParen :: (u ++ (v ++ [closeParen])))
  | noParams : Derives .optionalParams []
  | someParams {u : List Terminal} (h : Derives .params u) : Derives .optionalParams u
  | noMoreParams : Derives .moreParams []
  | moreParams {u v : List Terminal} (hu : Derives .param u) (hv : Derives .moreParams v) :
      Derives .moreParams (comma :: (u ++ v))
  | paramElement {u : List Terminal} (h : Derives .element u) : Derives .param u
  | paramFunction {u : List Terminal} (h : Derives .function u) : Derives .param u
  | paramNumber : Derives .param [number]
  | paramObject : Derives .param [objectName]
  | ifElse {u v w : List Terminal} (hu : Derives .ifParam u) (hv : Derives .parts v)
      (hw : Derives .parts w) :
      Derives .ifElse
        (ifStart :: (u ++ (conditionEnd :: (v ++ (elseMark :: (w ++ [ifEnd]))))))
  | ifParamFunction {u : List Terminal} (h : Derives .function u) : Derives .ifParam u
  | ifParamTag {u : List Terminal} (h : Derives .autoClosingTag u) : Derives .ifParam u

/-- The sequence of terminals begins a derivable one. -/
def Viable (ts : List Terminal) : Prop := ∃ us, Derives .start (ts ++ us)

open Concrete

/-! ## Messages of derivable sequences -/

/-- Where the pieces of a phrase can stand. -/
def Phrase.positions : Phrase → List Position
  | part | text => [.part]
  | param => [.param]
  | ifParam => [.condition]
  | element | pairedTag | ifElse => [.part, .param]
  | function | autoClosingTag => [.part, .param, .condition]
  | _ => []

/-- The lexemes are those of a piece of the phrase that is built by the rules. -/
def Phrase.Realizes : Phrase → List Lexeme → Prop
  | start, ls | parts, ls => ∃ xs : List Part, AllShaped .part xs ∧ listLexemes xs = ls
  | optionalText, ls => ∃ x : Option Word, innerLexemes x = ls
  | openTag, ls => ∃ (n : Word) (ps : List Part), AllShaped .param ps ∧
      .sign .tagStart :: ⟨.tagName, n.chars⟩ :: (paramLexemes ps ++ [.sign .tagEnd]) = ls
  | closeTag, ls => ∃ c : Word,
      [.sign .closeStart, ⟨.tagName, c.chars⟩, .sign .tagEnd] = ls
  | params, ls => ∃ ps : List Part, ps ≠ [] ∧ AllShaped .param ps ∧ paramLexemes ps = ls
  | optionalParams, ls => ∃ ps : List Part, AllShaped .param ps ∧ paramLexemes ps = ls
  | moreParams, ls => ∃ ps : List Part, AllShaped .param ps ∧
      moreLexemes ps = ls ++ [.sign .closeParen]
  | p, ls => ∃ x : Part, (∀ q ∈ p.positions, q.admits x = true) ∧ x.Shaped ∧ x.lexemes = ls

/-- Punctuation has only one spelling. -/
theorem Lexeme.respelled_sign {l : Lexeme} {t : Terminal} (h : l.kind = t)
    (ht : t.literal?.isSome = true) : l.respelled = .sign t := by
  obtain ⟨w, hw⟩ := Option.isSome_iff_exists.mp ht
  rw [Lexeme.respelled, Lexeme.sign, h, hw, Option.getD_some, Option.getD_some]

/-- Words keep their spelling. -/
theorem Lexeme.respelled_word {l : Lexeme} {t : Terminal} (h : l.kind = t)
    (ht : t.literal? = none) : l.respelled = ⟨t, l.chars⟩ := by
  rw [Lexeme.respelled, h, ht, Option.getD_none]

/-- A terminal that stands for words is respelled as one of them. -/
theorem Lexeme.exists_word_of_map_kind {t : Terminal} (ht : t.literal? = none)
    {ls : List Lexeme} (h : ls.map Lexeme.kind = [t]) :
    ∃ w : Word, ls.map Lexeme.respelled = [⟨t, w.chars⟩] := by
  obtain ⟨l, rfl, hl⟩ := List.map_eq_singleton_iff.mp h
  refine ⟨⟨l.chars, ()⟩, ?_⟩
  rw [List.map_singleton, Lexeme.respelled_word hl ht]

/-- A tag is realized by a name and the parameters that its parameters realize, whichever
punctuation it ends with. -/
theorem Phrase.exists_tag_of_map_kind {u : List Terminal} {e : Terminal}
    (he : e.literal?.isSome = true) {ls : List Lexeme}
    (ih : ∀ ks : List Lexeme, ks.map Lexeme.kind = u →
      optionalParams.Realizes (ks.map Lexeme.respelled))
    (h : ls.map Lexeme.kind = .tagStart :: .tagName :: (u ++ [e])) :
    ∃ (n : Word) (ps : List Part), AllShaped .param ps ∧
      .sign .tagStart :: ⟨.tagName, n.chars⟩ :: (paramLexemes ps ++ [.sign e]) =
        ls.map Lexeme.respelled := by
  obtain ⟨l, ls, rfl, hl, hls⟩ := List.map_eq_cons_iff.mp h
  obtain ⟨n, ls, rfl, hn, hls⟩ := List.map_eq_cons_iff.mp hls
  obtain ⟨ks, ls, rfl, hks, hls⟩ := List.map_eq_append_iff.mp hls
  obtain ⟨d, rfl, hd⟩ := List.map_eq_singleton_iff.mp hls
  obtain ⟨ps, hps, hparams⟩ := ih ks hks
  refine ⟨⟨n.chars, ()⟩, ps, hps, ?_⟩
  simp [hparams, Lexeme.respelled_sign hl rfl, Lexeme.respelled_word hn rfl,
    Lexeme.respelled_sign hd he]

/-- Lexemes of the terminals of a derivable sequence are those of a message, whatever
their words are. -/
theorem Derives.realizes {p : Phrase} {ts : List Terminal} (h : Derives p ts) :
    ∀ ls : List Lexeme, ls.map Lexeme.kind = ts → p.Realizes (ls.map Lexeme.respelled) := by
  induction h with
  | start _ ih => exact ih
  | noParts =>
    intro ls hls
    obtain rfl := List.map_eq_nil_iff.mp hls
    exact ⟨[], trivial, rfl⟩
  | moreParts _ _ ihu ihv =>
    intro ls hls
    obtain ⟨ks, ls, rfl, hks, hls⟩ := List.map_eq_append_iff.mp hls
    obtain ⟨x, hadmits, hx, hlexemes⟩ := ihu ks hks
    obtain ⟨xs, hxs, hlexemes'⟩ := ihv ls hls
    refine ⟨x :: xs, ⟨hadmits _ (by simp [Phrase.positions]), hx, hxs⟩, ?_⟩
    rw [listLexemes, hlexemes, hlexemes', List.map_append]
  | partText _ ih | partElement _ ih | partFunction _ ih | paramElement _ ih
  | paramFunction _ ih | ifParamFunction _ ih | ifParamTag _ ih | elementIfElse _ ih
  | elementPairedTag _ ih | elementAutoClosingTag _ ih =>
    intro ls hls
    obtain ⟨x, hadmits, hx, hlexemes⟩ := ih ls hls
    refine ⟨x, fun q hq => hadmits q ?_, hx, hlexemes⟩
    simp only [Phrase.positions, List.mem_cons, List.not_mem_nil, or_false] at hq ⊢
    tauto
  | text =>
    intro ls hls
    obtain ⟨w, hw⟩ := Lexeme.exists_word_of_map_kind rfl hls
    exact ⟨.text w, by simp [Phrase.positions, Position.admits], trivial, hw.symm⟩
  | noText =>
    intro ls hls
    obtain rfl := List.map_eq_nil_iff.mp hls
    exact ⟨none, rfl⟩
  | @someText u h ih =>
    intro ls hls
    cases h
    obtain ⟨w, hw⟩ := Lexeme.exists_word_of_map_kind rfl hls
    exact ⟨some w, hw.symm⟩
  | pairedTag _ _ _ ihu ihv ihw =>
    intro ls hls
    obtain ⟨ks, ls, rfl, hks, hls⟩ := List.map_eq_append_iff.mp hls
    obtain ⟨ms, ls, rfl, hms, hls⟩ := List.map_eq_append_iff.mp hls
    obtain ⟨n, ps, hps, hopen⟩ := ihu ks hks
    obtain ⟨x, hinner⟩ := ihv ms hms
    obtain ⟨c, hclose⟩ := ihw ls hls
    refine ⟨.pair () n ps x c, by simp [Phrase.positions, Position.admits], hps, ?_⟩
    rw [List.map_append, List.map_append, ← hopen, ← hinner, ← hclose]
    simp [lexemes]
  | openTag _ ih =>
    intro ls hls
    exact Phrase.exists_tag_of_map_kind rfl ih hls
  | closeTag =>
    intro ls hls
    obtain ⟨l, ls, rfl, hl, hls⟩ := List.map_eq_cons_iff.mp hls
    obtain ⟨n, ls, rfl, hn, hls⟩ := List.map_eq_cons_iff.mp hls
    obtain ⟨e, rfl, he⟩ := List.map_eq_singleton_iff.mp hls
    refine ⟨⟨n.chars, ()⟩, ?_⟩
    simp [Lexeme.respelled_sign hl rfl, Lexeme.respelled_word hn rfl,
      Lexeme.respelled_sign he rfl]
  | autoClosingTag _ ih =>
    intro ls hls
    obtain ⟨n, ps, hps, htag⟩ := Phrase.exists_tag_of_map_kind rfl ih hls
    exact ⟨.single n ps, by simp [Phrase.positions], hps, htag⟩
  | function _ ih =>
    intro ls hls
    obtain ⟨n, ls, rfl, hn, hls⟩ := List.map_eq_cons_iff.mp hls
    obtain ⟨ps, hne, hps, hparams⟩ := ih ls hls
    refine ⟨.call ⟨n.chars, ()⟩ ps, by simp [Phrase.positions], ⟨hne, hps⟩, ?_⟩
    rw [lexemes, hparams, List.map_cons, Lexeme.respelled_word hn rfl]
  | params _ _ ihu ihv =>
    intro ls hls
    obtain ⟨l, ls, rfl, hl, hls⟩ := List.map_eq_cons_iff.mp hls
    obtain ⟨ks, ls, rfl, hks, hls⟩ := List.map_eq_append_iff.mp hls
    obtain ⟨ms, ls, rfl, hms, hls⟩ := List.map_eq_append_iff.mp hls
    obtain ⟨e, rfl, he⟩ := List.map_eq_singleton_iff.mp hls
    obtain ⟨x, hadmits, hx, hlexemes⟩ := ihu ks hks
    obtain ⟨ps, hps, hmore⟩ := ihv ms hms
    refine ⟨x :: ps, by simp, ⟨hadmits _ (by simp [Phrase.positions]), hx, hps⟩, ?_⟩
    simp [paramLexemes, hlexemes, hmore, Lexeme.respelled_sign hl rfl,
      Lexeme.respelled_sign he rfl]
  | noParams =>
    intro ls hls
    obtain rfl := List.map_eq_nil_iff.mp hls
    exact ⟨[], trivial, rfl⟩
  | someParams _ ih =>
    intro ls hls
    obtain ⟨ps, -, hps, hparams⟩ := ih ls hls
    exact ⟨ps, hps, hparams⟩
  | noMoreParams =>
    intro ls hls
    obtain rfl := List.map_eq_nil_iff.mp hls
    exact ⟨[], trivial, rfl⟩
  | moreParams _ _ ihu ihv =>
    intro ls hls
    obtain ⟨l, ls, rfl, hl, hls⟩ := List.map_eq_cons_iff.mp hls
    obtain ⟨ks, ls, rfl, hks, hls⟩ := List.map_eq_append_iff.mp hls
    obtain ⟨x, hadmits, hx, hlexemes⟩ := ihu ks hks
    obtain ⟨ps, hps, hmore⟩ := ihv ls hls
    refine ⟨x :: ps, ⟨hadmits _ (by simp [Phrase.positions]), hx, hps⟩, ?_⟩
    simp [moreLexemes, hlexemes, hmore, Lexeme.respelled_sign hl rfl]
  | paramNumber =>
    intro ls hls
    obtain ⟨w, hw⟩ := Lexeme.exists_word_of_map_kind rfl hls
    exact ⟨.number w, by simp [Phrase.positions, Position.admits], trivial, hw.symm⟩
  | paramObject =>
    intro ls hls
    obtain ⟨w, hw⟩ := Lexeme.exists_word_of_map_kind rfl hls
    exact ⟨.object w, by simp [Phrase.positions, Position.admits], trivial, hw.symm⟩
  | ifElse _ _ _ ihu ihv ihw =>
    intro ls hls
    obtain ⟨l, ls, rfl, hl, hls⟩ := List.map_eq_cons_iff.mp hls
    obtain ⟨ks, ls, rfl, hks, hls⟩ := List.map_eq_append_iff.mp hls
    obtain ⟨d, ls, rfl, hd, hls⟩ := List.map_eq_cons_iff.mp hls
    obtain ⟨ms, ls, rfl, hms, hls⟩ := List.map_eq_append_iff.mp hls
    obtain ⟨m, ls, rfl, hm, hls⟩ := List.map_eq_cons_iff.mp hls
    obtain ⟨ns, ls, rfl, hns, hls⟩ := List.map_eq_append_iff.mp hls
    obtain ⟨e, rfl, he⟩ := List.map_eq_singleton_iff.mp hls
    obtain ⟨c, hadmits, hc, hcondition⟩ := ihu ks hks
    obtain ⟨yes, hyes, hyes'⟩ := ihv ms hms
    obtain ⟨no, hno, hno'⟩ := ihw ns hns
    refine ⟨.branch c yes no, by simp [Phrase.positions, Position.admits],
      ⟨⟨hadmits _ (by simp [Phrase.positions]), hc⟩, hyes, hno⟩, ?_⟩
    simp [lexemes, hcondition, hyes', hno', Lexeme.respelled_sign hl rfl,
      Lexeme.respelled_sign hd rfl, Lexeme.respelled_sign hm rfl, Lexeme.respelled_sign he rfl]

/-! ## Derivable sequences of messages -/

/-- The phrase for a piece of markup that stands there. -/
def Position.phrase : Position → Phrase
  | part => .part
  | param => .param
  | condition => .ifParam

/-- Elements can stand among parts and among parameters. -/
theorem Derives.of_element {p : Position} (hp : p ≠ .condition) {ts : List Terminal}
    (h : Derives .element ts) : Derives p.phrase ts := by
  cases p with
  | part => exact .partElement h
  | param => exact .paramElement h
  | condition => contradiction

/-- Calls can stand everywhere. -/
theorem Derives.of_function (p : Position) {ts : List Terminal} (h : Derives .function ts) :
    Derives p.phrase ts := by
  cases p with
  | part => exact .partFunction h
  | param => exact .paramFunction h
  | condition => exact .ifParamFunction h

/-- Tags without closing tag can stand everywhere. -/
theorem Derives.of_autoClosingTag (p : Position) {ts : List Terminal}
    (h : Derives .autoClosingTag ts) : Derives p.phrase ts := by
  cases p with
  | part => exact .partElement (.elementAutoClosingTag h)
  | param => exact .paramElement (.elementAutoClosingTag h)
  | condition => exact .ifParamTag h

variable {α : Type}

/-- The text between two tags is derived, if there is any. -/
theorem derives_innerLexemes (x : Option (Token α)) :
    Derives .optionalText ((innerLexemes x).map Lexeme.kind) := by
  cases x with
  | none => exact .noText
  | some w => exact .someText .text

mutual

/-- The lexemes of what is built by the rules are derived. -/
theorem Concrete.Shaped.derives : ∀ {x : Concrete α}, x.Shaped → ∀ {p : Position},
    p.admits x = true → Derives p.phrase (x.lexemes.map Lexeme.kind)
  | .text _, _, .part, _ => .partText .text
  | .object _, _, .param, _ => .paramObject
  | .number _, _, .param, _ => .paramNumber
  | .call _ ps, h, p, _ => by
    have hparams := (AllShaped.derives_paramLexemes h.2).2 h.1
    simpa [lexemes] using Derives.of_function p (.function hparams)
  | .single _ ps, h, p, _ => by
    have hparams := (AllShaped.derives_paramLexemes h).1
    simpa [lexemes] using Derives.of_autoClosingTag p (.autoClosingTag hparams)
  | .pair _ _ ps inner _, h, p, hp => by
    have hposition : p ≠ .condition := by
      rintro rfl
      cases hp
    have hparams := (AllShaped.derives_paramLexemes h).1
    have hpair := Derives.pairedTag (.openTag hparams) (derives_innerLexemes inner) .closeTag
    simpa [lexemes] using Derives.of_element hposition (.elementPairedTag hpair)
  | .branch c yes no, h, p, hp => by
    have hposition : p ≠ .condition := by
      rintro rfl
      cases hp
    obtain ⟨⟨hadmits, hc⟩, hyes, hno⟩ := h
    have hbranch := Derives.ifElse (hc.derives hadmits) hyes.derives_listLexemes
      hno.derives_listLexemes
    simpa [lexemes] using Derives.of_element hposition (.elementIfElse hbranch)

/-- The lexemes of parameters with their parentheses are derived, if there are any. -/
theorem Concrete.AllShaped.derives_paramLexemes : ∀ {ps : List (Concrete α)}, AllShaped .param ps →
    Derives .optionalParams ((paramLexemes ps).map Lexeme.kind) ∧
      (ps ≠ [] → Derives .params ((paramLexemes ps).map Lexeme.kind))
  | [], _ => ⟨.noParams, fun h => absurd rfl h⟩
  | _ :: ps, h => by
    obtain ⟨hadmits, hx, hps⟩ := h
    obtain ⟨ts, hts, hmore⟩ := AllShaped.derives_moreLexemes hps
    have hparams := Derives.params (hx.derives hadmits) hts
    simp only [paramLexemes, List.map_cons, List.map_append, hmore]
    exact ⟨.someParams hparams, fun _ => hparams⟩

/-- The lexemes of further parameters are derived, with their parenthesis behind them. -/
theorem Concrete.AllShaped.derives_moreLexemes : ∀ {ps : List (Concrete α)}, AllShaped .param ps →
    ∃ ts, Derives .moreParams ts ∧ (moreLexemes ps).map Lexeme.kind = ts ++ [.closeParen]
  | [], _ => ⟨[], .noMoreParams, rfl⟩
  | _ :: ps, h => by
    obtain ⟨hadmits, hx, hps⟩ := h
    obtain ⟨ts, hts, hmore⟩ := AllShaped.derives_moreLexemes hps
    exact ⟨_, .moreParams (hx.derives hadmits) hts, by simp [moreLexemes, hmore]⟩

/-- The lexemes of a sequence of parts are derived. -/
theorem Concrete.AllShaped.derives_listLexemes : ∀ {xs : List (Concrete α)}, AllShaped .part xs →
    Derives .parts ((listLexemes xs).map Lexeme.kind)
  | [], _ => .noParts
  | _ :: xs, h => by
    obtain ⟨hadmits, hx, hxs⟩ := h
    simpa using Derives.moreParts (hx.derives hadmits) hxs.derives_listLexemes

end

/-! ## Readings follow the grammar -/

/-- The derivable sequences are those of messages built by the rules. -/
theorem derives_start_iff {ts : List Terminal} :
    Derives .start ts ↔
      ∃ m : List Part, AllShaped .part m ∧ (listLexemes m).map Lexeme.kind = ts := by
  constructor
  · intro h
    have hkinds : (ts.map Lexeme.sign).map Lexeme.kind = ts := by
      rw [List.map_map]
      exact List.map_id ts
    obtain ⟨m, hm, hlexemes⟩ := h.realizes _ hkinds
    refine ⟨m, hm, ?_⟩
    rw [hlexemes, List.map_map, ← hkinds]
    simp
  · rintro ⟨m, hm, rfl⟩
    exact .start hm.derives_listLexemes

/-- A sequence of terminals begins a derivable one exactly when a reading can take it,
whatever its words are. -/
theorem viable_iff {ls : List Lexeme} :
    Viable (ls.map Lexeme.kind) ↔ ∃ r, Reading.initial.run ls = some r := by
  constructor
  · rintro ⟨us, hus⟩
    have hkinds : (ls ++ us.map Lexeme.sign).map Lexeme.kind = ls.map Lexeme.kind ++ us := by
      rw [List.map_append, List.map_map]
      exact congrArg _ (List.map_id us)
    obtain ⟨m, hm, hlexemes⟩ := hus.realizes _ hkinds
    have hrun : Reading.initial.run (ls ++ us.map Lexeme.sign) =
        some ⟨.start, .message m.reverse⟩ :=
      Reading.run_initial_eq_message_iff.mpr
        (by rw [List.reverse_reverse]; exact ⟨hm, hlexemes.symm⟩)
    rw [Reading.run_append] at hrun
    obtain ⟨r, hr, -⟩ := Option.bind_eq_some_iff.mp hrun
    exact ⟨r, hr⟩
  · rintro ⟨r, hr⟩
    obtain ⟨hvalid, -⟩ := Reading.valid_initial.run hr
    obtain ⟨ks, read, hks⟩ := hvalid.completable
    have hrun : Reading.initial.run (ls ++ ks) = some ⟨.start, .message read⟩ := by
      rw [Reading.run_append, hr]
      exact hks
    obtain ⟨hread, hlexemes⟩ := Reading.run_initial_eq_message_iff.mp hrun
    refine ⟨ks.map Lexeme.kind, derives_start_iff.mpr ⟨read.reverse, hread, ?_⟩⟩
    rw [← hlexemes, List.map_map, ← List.map_append]
    rfl

end LogMarkup
