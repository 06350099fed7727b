import LogMarkup.Proofs.Recognition

/-!
# What a reading has read

A reading that was reached tells which lexemes led to it: those of its finished parts,
those of what is open around them, and those of the unfinished part.  All its parts are
built by the rules of the grammar.  Whatever has been read, it can be completed to a
message, so no lexeme is ever taken in vain.

Main results:

- `Reading.Valid.run`: a reading that was reached is valid, and its lexemes are those
  that were read.
- `Reading.Valid.completable`: every valid reading can be completed.
- `Reading.run_initial_eq_message_iff`: the lexemes that are read as a message are those
  of the message, if it is built by the rules.
-/

namespace LogMarkup

/-- The lexeme with the spelling that its terminal has, if it has only one. -/
def Lexeme.respelled (l : Lexeme) : Lexeme := ⟨l.kind, l.kind.literal?.getD l.chars⟩

@[simp] theorem Lexeme.respelled_kind (l : Lexeme) : l.respelled.kind = l.kind := rfl

namespace Concrete

variable {α : Type}

/-- The lexemes of parameters with a comma behind each. -/
def leadLexemes (ps : List (Concrete α)) : List Lexeme :=
  ps.flatMap fun p => p.lexemes ++ [.sign .comma]

/-- Another parameter with the comma behind it. -/
theorem leadLexemes_append_singleton (ps : List (Concrete α)) (p : Concrete α) :
    leadLexemes (ps ++ [p]) = leadLexemes ps ++ (p.lexemes ++ [.sign .comma]) := by
  simp [leadLexemes]

/-- The lexemes of parameters, the last one apart. -/
theorem paramLexemes_append_singleton (ps : List (Concrete α)) (p : Concrete α) :
    paramLexemes (ps ++ [p]) =
      .sign .openParen :: (leadLexemes ps ++ (p.lexemes ++ [.sign .closeParen])) := by
  have hmore : ∀ qs : List (Concrete α), moreLexemes (qs ++ [p]) =
      .sign .comma :: (leadLexemes qs ++ (p.lexemes ++ [.sign .closeParen])) := by
    intro qs
    induction qs with
    | nil => simp [moreLexemes, leadLexemes]
    | cons q qs ih =>
      rw [List.cons_append, moreLexemes, ih]
      simp [leadLexemes]
  cases ps with
  | nil => simp [paramLexemes, moreLexemes, leadLexemes]
  | cons q qs =>
    rw [List.cons_append, paramLexemes, hmore]
    simp [leadLexemes]

end Concrete

open Concrete

/-! ## The lexemes of a reading -/

/-- The lexemes before the first parameter. -/
def Owner.lexemes : Owner → List Lexeme
  | call n => [⟨.functionName, n.chars⟩, .sign .openParen]
  | tag n => [.sign .tagStart, ⟨.tagName, n.chars⟩, .sign .openParen]

/-- The lexemes of what was read when something new may begin here. -/
def Context.lexemes : Context → List Lexeme
  | message read => listLexemes read.reverse
  | yes c read outer =>
      outer.lexemes ++ .sign .ifStart ::
        (c.lexemes ++ .sign .conditionEnd :: listLexemes read.reverse)
  | no c y read outer =>
      outer.lexemes ++ .sign .ifStart :: (c.lexemes ++ .sign .conditionEnd ::
        (listLexemes y ++ .sign .elseMark :: listLexemes read.reverse))
  | params o read outer => outer.lexemes ++ (o.lexemes ++ leadLexemes read.reverse)
  | condition outer => outer.lexemes ++ [.sign .ifStart]

/-- The lexemes of an unfinished part. -/
def Point.lexemes : Point → List Lexeme
  | start | param => []
  | condition c => c.lexemes
  | functionName n => [⟨.functionName, n.chars⟩]
  | tagStart => [.sign .tagStart]
  | tagName n => [.sign .tagStart, ⟨.tagName, n.chars⟩]
  | tagParams n ps => .sign .tagStart :: ⟨.tagName, n.chars⟩ :: paramLexemes ps
  | opened n ps =>
      .sign .tagStart :: ⟨.tagName, n.chars⟩ :: (paramLexemes ps ++ [.sign .tagEnd])
  | inner n ps x =>
      .sign .tagStart :: ⟨.tagName, n.chars⟩ ::
        (paramLexemes ps ++ [.sign .tagEnd, ⟨.text, x.chars⟩])
  | closing n ps x =>
      .sign .tagStart :: ⟨.tagName, n.chars⟩ :: (paramLexemes ps ++
        (.sign .tagEnd :: (innerLexemes x ++ [.sign .closeStart])))
  | closeName n ps x c =>
      .sign .tagStart :: ⟨.tagName, n.chars⟩ :: (paramLexemes ps ++
        (.sign .tagEnd :: (innerLexemes x ++ [.sign .closeStart, ⟨.tagName, c.chars⟩])))

/-- The lexemes of what was read.  Behind a parameter its comma is still missing. -/
def Reading.lexemes : Reading → List Lexeme
  | ⟨.param, .params o (x :: read) outer⟩ => (Context.params o read outer).lexemes ++ x.lexemes
  | ⟨point, ctx⟩ => ctx.lexemes ++ point.lexemes

/-! ## Validity -/

namespace Context

/-- Is everything that was read, and is open here, built by the rules? -/
def Valid : Context → Prop
  | message read => AllShaped .part read
  | yes c read outer =>
      outer.Valid ∧ outer.position ≠ .condition ∧ Position.condition.admits c = true ∧
        c.Shaped ∧ AllShaped .part read
  | no c y read outer =>
      outer.Valid ∧ outer.position ≠ .condition ∧ Position.condition.admits c = true ∧
        c.Shaped ∧ AllShaped .part y ∧ AllShaped .part read
  | params _ read outer => outer.Valid ∧ AllShaped .param read
  | condition outer => outer.Valid ∧ outer.position ≠ .condition

end Context

/-- Is the unfinished part built by the rules so far, and can it stand here? -/
def Point.Valid (ctx : Context) : Point → Prop
  | param => ∃ o x read outer, ctx = .params o (x :: read) outer
  | condition c => (∃ outer, ctx = .condition outer) ∧ Position.condition.admits c = true ∧ c.Shaped
  | tagParams _ ps => AllShaped .param ps
  | opened _ ps | inner _ ps _ | closing _ ps _ | closeName _ ps _ _ =>
      ctx.position ≠ .condition ∧ AllShaped .param ps
  | start | functionName _ | tagStart | tagName _ => True

/-- Is everything that was read built by the rules? -/
def Reading.Valid (r : Reading) : Prop := r.context.Valid ∧ r.point.Valid r.context

theorem AllShaped_reverse {p : Position} {xs : List Part} (h : AllShaped p xs) :
    AllShaped p xs.reverse := by
  rw [allShaped_iff] at h ⊢
  simpa using h

/-- A part that is built by the rules can be added where it can stand. -/
theorem Context.Valid.add {ctx : Context} (h : ctx.Valid) {x : Part}
    (hadmits : ctx.position.admits x = true) (hx : x.Shaped) :
    (ctx.add x).Valid ∧ (ctx.add x).lexemes = ctx.lexemes ++ x.lexemes := by
  cases ctx with
  | message read =>
    exact ⟨⟨⟨hadmits, hx, h⟩, trivial⟩,
      by simp [Context.add, Reading.lexemes, Context.lexemes, Point.lexemes, listLexemes_append]⟩
  | yes c read outer =>
    obtain ⟨houter, hposition, hc, hcx, hread⟩ := h
    exact ⟨⟨⟨houter, hposition, hc, hcx, hadmits, hx, hread⟩, trivial⟩,
      by simp [Context.add, Reading.lexemes, Context.lexemes, Point.lexemes, listLexemes_append]⟩
  | no c y read outer =>
    obtain ⟨houter, hposition, hc, hcx, hy, hread⟩ := h
    exact ⟨⟨⟨houter, hposition, hc, hcx, hy, hadmits, hx, hread⟩, trivial⟩,
      by simp [Context.add, Reading.lexemes, Context.lexemes, Point.lexemes, listLexemes_append]⟩
  | params o read outer => exact ⟨⟨⟨h.1, hadmits, hx, h.2⟩, o, x, read, outer, rfl⟩, rfl⟩
  | condition outer => exact ⟨⟨h, ⟨outer, rfl⟩, hadmits, hx⟩, rfl⟩

/-- Calls and tags can stand everywhere. -/
@[simp] theorem Position.admits_call (p : Position) (n : Word) (ps : List Part) :
    p.admits (.call n ps) = true := by
  cases p <;> rfl

@[simp] theorem Position.admits_single (p : Position) (n : Word) (ps : List Part) :
    p.admits (.single n ps) = true := by
  cases p <;> rfl

/-- Pairs of tags and branches can stand everywhere but in a condition. -/
theorem Position.admits_pair {p : Position} (hp : p ≠ .condition) (m : Unit) (n c : Word)
    (ps : List Part) (x : Option Word) : p.admits (.pair m n ps x c) = true := by
  cases p <;> first | rfl | contradiction

theorem Position.admits_branch {p : Position} (hp : p ≠ .condition) (c : Part)
    (yes no : List Part) : p.admits (.branch c yes no) = true := by
  cases p <;> first | rfl | contradiction

namespace Reading

/-- Behind anything but a parameter the lexemes are those of what is open, and those of
the unfinished part. -/
theorem lexemes_of_ne_param {point : Point} (h : point ≠ .param) (ctx : Context) :
    lexemes ⟨point, ctx⟩ = ctx.lexemes ++ point.lexemes := by
  cases point <;> simp_all [lexemes]

/-- The last parameter, and the parenthesis behind it. -/
theorem lexemes_close (o : Owner) (x : Part) (read : List Part) (outer : Context) :
    lexemes ⟨.param, .params o (x :: read) outer⟩ ++ [.sign .closeParen] =
      outer.lexemes ++ (o.point.lexemes ++ paramLexemes (read.reverse ++ [x])) := by
  rw [paramLexemes_append_singleton]
  cases o <;> simp [lexemes, Context.lexemes, Owner.lexemes, Owner.point, Point.lexemes]

/-- A step that completes a part leads to a valid reading, if the part is built by the
rules of the lexemes that were read. -/
theorem Valid.advances_add {point : Point} {ctx : Context} {x : Part} {l : Lexeme}
    (hctx : ctx.Valid) (hpoint : point ≠ .param) (hadmits : ctx.position.admits x = true)
    (hx : x.Shaped) (hlexemes : x.lexemes = point.lexemes ++ [l.respelled]) :
    (ctx.add x).Valid ∧ (ctx.add x).lexemes = lexemes ⟨point, ctx⟩ ++ [l.respelled] := by
  refine ⟨(hctx.add hadmits hx).1, ?_⟩
  rw [(hctx.add hadmits hx).2, hlexemes, lexemes_of_ne_param hpoint, List.append_assoc]

/-- A step that continues an unfinished part leads to a valid reading, if the part can
still be built. -/
theorem Valid.advances_point {point point' : Point} {ctx : Context} {l : Lexeme}
    (hctx : ctx.Valid) (hpoint : point ≠ .param) (hpoint' : point' ≠ .param)
    (hvalid : point'.Valid ctx) (hlexemes : point'.lexemes = point.lexemes ++ [l.respelled]) :
    Valid ⟨point', ctx⟩ ∧ lexemes ⟨point', ctx⟩ = lexemes ⟨point, ctx⟩ ++ [l.respelled] := by
  refine ⟨⟨hctx, hvalid⟩, ?_⟩
  rw [lexemes_of_ne_param hpoint, lexemes_of_ne_param hpoint', hlexemes, List.append_assoc]

/-- A step from a valid reading leads to a valid one, and its lexeme is what is read. -/
theorem Valid.advances {r r' : Reading} {l : Lexeme} (hr : r.Valid) (h : Advances r l r') :
    r'.Valid ∧ r'.lexemes = r.lexemes ++ [l.respelled] := by
  obtain ⟨hctx, hpoint⟩ := hr
  cases h with
  | text h | number h | object h =>
    exact advances_add hctx (by simp) (by rw [h]; rfl) trivial rfl
  | functionName | tagStart | tagName =>
    exact advances_point hctx (by simp) (by simp) trivial rfl
  | openCall | openTag =>
    refine ⟨⟨⟨hctx, trivial⟩, trivial⟩, ?_⟩
    simp [lexemes, Context.lexemes, Point.lexemes, Owner.lexemes, leadLexemes]
    rfl
  | single => exact advances_add hctx (by simp) (by simp) trivial rfl
  | singleParams =>
    have hlexemes : ∀ (n : Word) (ps : List Part) (w : List Char), (single n ps).lexemes =
        (Point.tagParams n ps).lexemes ++ [Lexeme.respelled ⟨.selfClose, w⟩] := by
      intro n ps w
      simp [Concrete.lexemes, Point.lexemes]
      rfl
    exact advances_add hctx (by simp) (by simp) hpoint (hlexemes _ _ _)
  | opened h => exact advances_point hctx (by simp) (by simp) ⟨h, trivial⟩ rfl
  | openedParams h =>
    exact advances_point hctx (by simp) (by simp) ⟨h, hpoint⟩ (by simp [Point.lexemes]; rfl)
  | inner | closeInner | closeName | closeEmpty =>
    exact advances_point hctx (by simp) (by simp) hpoint
      (by simp [Point.lexemes, innerLexemes]; rfl)
  | pair =>
    exact advances_add hctx (by simp) (Position.admits_pair hpoint.1 _ _ _ _ _) hpoint.2
      (by simp [Concrete.lexemes, Point.lexemes]; rfl)
  | comma =>
    obtain ⟨o, x, read, outer, rfl⟩ := hpoint
    refine ⟨⟨hctx, trivial⟩, ?_⟩
    simp [lexemes, Context.lexemes, Point.lexemes, leadLexemes_append_singleton]
    rfl
  | @closeParen o read outer w =>
    obtain ⟨_, x, read, _, ⟨rfl⟩⟩ := hpoint
    obtain ⟨houter, hread⟩ := hctx
    have hps : AllShaped .param (x :: read).reverse := AllShaped_reverse hread
    have hlexemes := lexemes_close o x read outer
    cases o with
    | call n =>
      have hcall : (call n (x :: read).reverse).Shaped := ⟨by simp, hps⟩
      refine ⟨(houter.add (by simp) hcall).1, (houter.add (by simp) hcall).2.trans ?_⟩
      rw [Concrete.lexemes, List.reverse_cons]
      exact hlexemes.symm
    | tag n =>
      refine ⟨⟨houter, hps⟩, ?_⟩
      rw [Owner.close, lexemes_of_ne_param (by simp), Point.lexemes, List.reverse_cons]
      exact hlexemes.symm
  | ifStart h =>
    refine ⟨⟨⟨hctx, h⟩, trivial⟩, ?_⟩
    simp [lexemes, Context.lexemes, Point.lexemes]
    rfl
  | conditionEnd =>
    obtain ⟨_, hadmits, hc⟩ := hpoint
    refine ⟨⟨⟨hctx.1, hctx.2, hadmits, hc, trivial⟩, trivial⟩, ?_⟩
    simp [lexemes, Context.lexemes, Point.lexemes]
    rfl
  | elseMark =>
    obtain ⟨houter, hposition, hadmits, hc, hread⟩ := hctx
    refine ⟨⟨⟨houter, hposition, hadmits, hc, AllShaped_reverse hread, trivial⟩, trivial⟩, ?_⟩
    simp [lexemes, Context.lexemes, Point.lexemes]
    rfl
  | @ifEnd c yes read outer w =>
    obtain ⟨houter, hposition, hadmits, hc, hyes, hread⟩ := hctx
    have hbranch : (branch c yes read.reverse).Shaped :=
      ⟨⟨hadmits, hc⟩, hyes, AllShaped_reverse hread⟩
    have hadd := houter.add (Position.admits_branch hposition c yes read.reverse) hbranch
    refine ⟨hadd.1, hadd.2.trans ?_⟩
    simp [lexemes, Context.lexemes, Point.lexemes, Concrete.lexemes]
    rfl

/-- A reading that was reached from a valid one is valid, and its lexemes are those that
were read. -/
theorem Valid.run {r r' : Reading} {ls : List Lexeme} (hr : r.Valid)
    (h : r.run ls = some r') :
    r'.Valid ∧ r'.lexemes = r.lexemes ++ ls.map Lexeme.respelled := by
  induction ls generalizing r with
  | nil =>
    obtain rfl := Option.some.inj h
    exact ⟨hr, by simp⟩
  | cons l ls ih =>
    obtain ⟨next, hstep, hrun⟩ := run_cons_eq_some_iff.mp h
    obtain ⟨hnext, hlexemes⟩ := hr.advances hstep
    obtain ⟨hr', hlexemes'⟩ := ih hnext hrun
    refine ⟨hr', ?_⟩
    rw [hlexemes', hlexemes, List.append_assoc, List.map_cons, List.singleton_append]

theorem valid_initial : initial.Valid := ⟨trivial, trivial⟩

/-! ## Recognized messages -/

/-- What a reading recognizes does not depend on how punctuation is spelled. -/
theorem advance_respelled (r : Reading) (l : Lexeme) :
    r.advance l.respelled.kind l.respelled.chars = r.advance l.kind l.chars := by
  obtain ⟨point, ctx⟩ := r
  obtain ⟨t, w⟩ := l
  cases t <;> cases point <;> rfl

theorem run_map_respelled (r : Reading) (ls : List Lexeme) :
    r.run (ls.map Lexeme.respelled) = r.run ls := by
  induction ls generalizing r with
  | nil => rfl
  | cons l ls ih => simp only [List.map_cons, Reading.run, advance_respelled, ih]

/-- The lexemes that are read as a message are those of the message, if it is built by
the rules. -/
theorem run_initial_eq_message_iff {ls : List Lexeme} {read : List Part} :
    initial.run ls = some ⟨.start, .message read⟩ ↔
      AllShaped .part read.reverse ∧ ls.map Lexeme.respelled = listLexemes read.reverse := by
  constructor
  · intro h
    obtain ⟨hvalid, hlexemes⟩ := valid_initial.run h
    refine ⟨AllShaped_reverse hvalid.1, ?_⟩
    have hnone : initial.lexemes = [] := rfl
    rw [hnone, List.nil_append] at hlexemes
    rw [← hlexemes]
    simp [lexemes, Context.lexemes, Point.lexemes]
  · rintro ⟨hread, hls⟩
    have hposition : (Context.message []).position = .part := rfl
    have hrun := run_listLexemes_append read.reverse hread hposition []
    rw [List.append_nil] at hrun
    rw [← run_map_respelled, hls, initial, hrun]
    simp [Context.extend]

/-! ## Completion -/

/-- Can the reading be completed to a message? -/
def Completable (r : Reading) : Prop :=
  ∃ ls read, r.run ls = some ⟨.start, .message read⟩

/-- A step to a reading that can be completed begins a completion. -/
theorem Completable.of_advances {r r' : Reading} {l : Lexeme} (hr' : r'.Completable)
    (h : Advances r l r') : r.Completable := by
  obtain ⟨ls, read, hrun⟩ := hr'
  exact ⟨l :: ls, read, (run_cons_of_advances h ls).trans hrun⟩

/-- Once a part is complete, everything that is open around it can be closed.  The
induction is on what is open; closing the innermost completes a part of the next. -/
theorem completable_add (ctx : Context) (x : Part) : (ctx.add x).Completable := by
  induction ctx generalizing x with
  | message read => exact ⟨[], x :: read, rfl⟩
  | yes c read outer ih =>
    exact ((ih _).of_advances (.ifEnd (w := []))).of_advances (.elseMark (w := []))
  | no c y read outer ih => exact (ih _).of_advances (.ifEnd (w := []))
  | params o read outer ih =>
    refine Completable.of_advances ?_ (.closeParen (w := []))
    cases o with
    | call n => exact ih _
    | tag n => exact (ih _).of_advances (.singleParams (w := []))
  | condition outer ih =>
    exact (((ih _).of_advances (.ifEnd (w := []))).of_advances
      (.elseMark (w := []))).of_advances (.conditionEnd (w := []))

/-- Where parameters begin, a number and a parenthesis complete them. -/
theorem completable_params (o : Owner) (read : List Part) (outer : Context) :
    Completable ⟨.start, .params o read outer⟩ :=
  (completable_add _ _).of_advances (.number (w := []) rfl)

/-- Everywhere a call can begin, and it can be completed. -/
theorem completable_start (ctx : Context) : Completable ⟨.start, ctx⟩ :=
  ((completable_params _ _ _).of_advances (.openCall (w := []))).of_advances
    (.functionName (w := []))

/-- Every valid reading can be completed. -/
theorem Valid.completable {r : Reading} (hr : r.Valid) : r.Completable := by
  obtain ⟨point, ctx⟩ := r
  obtain ⟨_, hpoint⟩ := hr
  have hclosing : ∀ n ps x, Completable ⟨.closing n ps x, ctx⟩ := by
    intro n ps x
    exact ((completable_add _ _).of_advances (.pair (w := []))).of_advances
      (.closeName (w := []))
  cases point with
  | start => exact completable_start ctx
  | param => exact (completable_start ctx).of_advances (.comma (w := []))
  | condition c =>
    obtain ⟨⟨outer, rfl⟩, _⟩ := hpoint
    exact (completable_start _).of_advances (.conditionEnd (w := []))
  | functionName n => exact (completable_start _).of_advances (.openCall (w := []))
  | tagStart =>
    exact ((completable_add _ _).of_advances (.single (w := []))).of_advances
      (.tagName (w := []))
  | tagName n => exact (completable_add _ _).of_advances (.single (w := []))
  | tagParams n ps => exact (completable_add _ _).of_advances (.singleParams (w := []))
  | opened n ps => exact (hclosing n ps _).of_advances (.closeEmpty (w := []))
  | inner n ps x => exact (hclosing n ps _).of_advances (.closeInner (w := []))
  | closing n ps x => exact hclosing n ps x
  | closeName n ps x c => exact (completable_add _ _).of_advances (.pair (w := []))

end Reading

end LogMarkup
