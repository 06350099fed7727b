import LogMarkup.Concrete.Reading
import LogMarkup.Proofs.Lexeme

/-!
# What readings recognize

A reading takes lexemes one by one.  This module lists all steps that it can take, and
shows that the lexemes of a part that is built by the rules of the grammar are read as
just this part, wherever it can stand.

Main results:

- `Reading.advance_eq_some_iff`: the steps of a reading, one constructor for each.
- `Reading.run_append`: a run goes lexeme by lexeme.
- `Reading.run_lexemes_append`, `Reading.run_listLexemes_append`: the lexemes of a part
  are read as that part.
-/

namespace LogMarkup

namespace Context

/-- What stands at this place. -/
def position : Context → Position
  | message _ | yes .. | no .. => .part
  | params .. => .param
  | condition _ => .condition

theorem holdsParts_iff {ctx : Context} : ctx.holdsParts = true ↔ ctx.position = .part := by
  cases ctx <;> simp [holdsParts, position]

theorem isParams_iff {ctx : Context} : ctx.isParams = true ↔ ctx.position = .param := by
  cases ctx <;> simp [isParams, position]

theorem isCondition_iff {ctx : Context} :
    ctx.isCondition = true ↔ ctx.position = .condition := by
  cases ctx <;> simp [isCondition, position]

end Context

namespace Owner

/-- What has been read before the parameters. -/
def point : Owner → Point
  | call n => .functionName n
  | tag n => .tagName n

/-- The reading in which the parameters are complete. -/
def close (ps : List Part) (ctx : Context) : Owner → Reading
  | call n => ctx.add (.call n ps)
  | tag n => ⟨.tagParams n ps, ctx⟩

end Owner

/-- A tag up to its parameters, if it has any. -/
def Point.tag (n : Word) : List Part → Point
  | [] => .tagName n
  | ps => .tagParams n ps

namespace Reading

/-! ## Steps -/

/-- The steps that a reading can take over a lexeme. -/
inductive Advances : Reading → Lexeme → Reading → Prop
  /-- A text is a part. -/
  | text {ctx : Context} {w : List Char} (h : ctx.position = .part) :
      Advances ⟨.start, ctx⟩ ⟨.text, w⟩ (ctx.add (.text (.bare w)))
  /-- Digits are a parameter. -/
  | number {ctx : Context} {w : List Char} (h : ctx.position = .param) :
      Advances ⟨.start, ctx⟩ ⟨.number, w⟩ (ctx.add (.number (.bare w)))
  /-- The name of an object is a parameter. -/
  | object {ctx : Context} {w : List Char} (h : ctx.position = .param) :
      Advances ⟨.start, ctx⟩ ⟨.objectName, w⟩ (ctx.add (.object (.bare w)))
  /-- A call begins with its name. -/
  | functionName {ctx : Context} {w : List Char} :
      Advances ⟨.start, ctx⟩ ⟨.functionName, w⟩ ⟨.functionName (.bare w), ctx⟩
  /-- Parameters of the call follow. -/
  | openCall {ctx : Context} {n : Word} {w : List Char} :
      Advances ⟨.functionName n, ctx⟩ ⟨.openParen, w⟩ ⟨.start, .params (.call n) [] ctx⟩
  /-- A tag begins with `<`. -/
  | tagStart {ctx : Context} {w : List Char} :
      Advances ⟨.start, ctx⟩ ⟨.tagStart, w⟩ ⟨.tagStart, ctx⟩
  /-- The name of the tag follows. -/
  | tagName {ctx : Context} {w : List Char} :
      Advances ⟨.tagStart, ctx⟩ ⟨.tagName, w⟩ ⟨.tagName (.bare w), ctx⟩
  /-- Parameters of the tag follow. -/
  | openTag {ctx : Context} {n : Word} {w : List Char} :
      Advances ⟨.tagName n, ctx⟩ ⟨.openParen, w⟩ ⟨.start, .params (.tag n) [] ctx⟩
  /-- A tag without parameters ends. -/
  | single {ctx : Context} {n : Word} {w : List Char} :
      Advances ⟨.tagName n, ctx⟩ ⟨.selfClose, w⟩ (ctx.add (.single n []))
  /-- An opening tag without parameters ends. -/
  | opened {ctx : Context} {n : Word} {w : List Char} (h : ctx.position ≠ .condition) :
      Advances ⟨.tagName n, ctx⟩ ⟨.tagEnd, w⟩ ⟨.opened n [], ctx⟩
  /-- Another parameter follows. -/
  | comma {ctx : Context} {w : List Char} :
      Advances ⟨.param, ctx⟩ ⟨.comma, w⟩ ⟨.start, ctx⟩
  /-- The parameters end. -/
  | closeParen {o : Owner} {read : List Part} {outer : Context} {w : List Char} :
      Advances ⟨.param, .params o read outer⟩ ⟨.closeParen, w⟩ (o.close read.reverse outer)
  /-- A tag with parameters ends. -/
  | singleParams {ctx : Context} {n : Word} {ps : List Part} {w : List Char} :
      Advances ⟨.tagParams n ps, ctx⟩ ⟨.selfClose, w⟩ (ctx.add (.single n ps))
  /-- An opening tag with parameters ends. -/
  | openedParams {ctx : Context} {n : Word} {ps : List Part} {w : List Char}
      (h : ctx.position ≠ .condition) :
      Advances ⟨.tagParams n ps, ctx⟩ ⟨.tagEnd, w⟩ ⟨.opened n ps, ctx⟩
  /-- Text between two tags. -/
  | inner {ctx : Context} {n : Word} {ps : List Part} {w : List Char} :
      Advances ⟨.opened n ps, ctx⟩ ⟨.text, w⟩ ⟨.inner n ps (.bare w), ctx⟩
  /-- A closing tag without text before it begins. -/
  | closeEmpty {ctx : Context} {n : Word} {ps : List Part} {w : List Char} :
      Advances ⟨.opened n ps, ctx⟩ ⟨.closeStart, w⟩ ⟨.closing n ps none, ctx⟩
  /-- A closing tag behind text begins. -/
  | closeInner {ctx : Context} {n x : Word} {ps : List Part} {w : List Char} :
      Advances ⟨.inner n ps x, ctx⟩ ⟨.closeStart, w⟩ ⟨.closing n ps (some x), ctx⟩
  /-- The name of the closing tag follows. -/
  | closeName {ctx : Context} {n : Word} {ps : List Part} {x : Option Word} {w : List Char} :
      Advances ⟨.closing n ps x, ctx⟩ ⟨.tagName, w⟩ ⟨.closeName n ps x (.bare w), ctx⟩
  /-- A closing tag ends. -/
  | pair {ctx : Context} {n c : Word} {ps : List Part} {x : Option Word} {w : List Char} :
      Advances ⟨.closeName n ps x c, ctx⟩ ⟨.tagEnd, w⟩ (ctx.add (.pair () n ps x c))
  /-- A branch begins. -/
  | ifStart {ctx : Context} {w : List Char} (h : ctx.position ≠ .condition) :
      Advances ⟨.start, ctx⟩ ⟨.ifStart, w⟩ ⟨.start, .condition ctx⟩
  /-- The condition of a branch ends. -/
  | conditionEnd {c : Part} {outer : Context} {w : List Char} :
      Advances ⟨.condition c, .condition outer⟩ ⟨.conditionEnd, w⟩ ⟨.start, .yes c [] outer⟩
  /-- The first side of a branch ends. -/
  | elseMark {c : Part} {read : List Part} {outer : Context} {w : List Char} :
      Advances ⟨.start, .yes c read outer⟩ ⟨.elseMark, w⟩ ⟨.start, .no c read.reverse [] outer⟩
  /-- The second side of a branch ends. -/
  | ifEnd {c : Part} {yes read : List Part} {outer : Context} {w : List Char} :
      Advances ⟨.start, .no c yes read outer⟩ ⟨.ifEnd, w⟩
        (outer.add (.branch c yes read.reverse))

/-- A reading advances over a lexeme by one of the steps, or not at all. -/
theorem advance_eq_some_iff {r r' : Reading} {t : Terminal} {w : List Char} :
    r.advance t w = some r' ↔ Advances r ⟨t, w⟩ r' := by
  constructor
  · intro h
    obtain ⟨point, ctx⟩ := r
    unfold advance at h
    -- One case for each row of the table; the rows that refuse the lexeme contradict `h`.
    split at h
    all_goals try split at h
    all_goals try contradiction
    all_goals obtain rfl := Option.some.inj h
    all_goals simp_all only [Context.holdsParts_iff, Context.isParams_iff, Context.isCondition_iff]
    all_goals constructor <;> assumption
  · intro h
    cases h with
    | text h => simp [advance, Context.holdsParts_iff.mpr h]
    | number h | object h => simp [advance, Context.isParams_iff.mpr h]
    | opened h | openedParams h | ifStart h =>
      rw [ne_eq, ← Context.isCondition_iff] at h
      simp [advance, h]
    | @closeParen o => cases o <;> rfl
    | _ => rfl

/-- Parameters begin behind the name of a call or of a tag. -/
theorem Advances.openParen (o : Owner) (ctx : Context) (w : List Char) :
    Advances ⟨o.point, ctx⟩ ⟨.openParen, w⟩ ⟨.start, .params o [] ctx⟩ := by
  cases o with
  | call n => exact .openCall
  | tag n => exact .openTag

/-- A tag ends behind its name or its parameters. -/
theorem Advances.selfClose (n : Word) (ps : List Part) (ctx : Context) (w : List Char) :
    Advances ⟨.tag n ps, ctx⟩ ⟨.selfClose, w⟩ (ctx.add (.single n ps)) := by
  cases ps with
  | nil => exact .single
  | cons p ps => exact .singleParams

/-- An opening tag ends behind its name or its parameters. -/
theorem Advances.tagEnd (n : Word) (ps : List Part) {ctx : Context} (w : List Char)
    (h : ctx.position ≠ .condition) :
    Advances ⟨.tag n ps, ctx⟩ ⟨.tagEnd, w⟩ ⟨.opened n ps, ctx⟩ := by
  cases ps with
  | nil => exact .opened h
  | cons p ps => exact .openedParams h

/-! ## Runs -/

/-- The reading after the lexemes; nothing if it cannot take one of them. -/
def run : Reading → List Lexeme → Option Reading
  | r, [] => some r
  | r, l :: ls => (r.advance l.kind l.chars).bind fun next => next.run ls

@[simp] theorem run_nil (r : Reading) : r.run [] = some r := rfl

/-- A step of a run. -/
theorem run_cons_of_advances {r r' : Reading} {l : Lexeme} (h : Advances r l r')
    (ls : List Lexeme) : r.run (l :: ls) = r'.run ls := by
  rw [run, advance_eq_some_iff.mpr h, Option.bind_some]

/-- A step of a run over punctuation. -/
theorem run_sign_of_advances {r r' : Reading} {t : Terminal}
    (h : ∀ w, Advances r ⟨t, w⟩ r') (ls : List Lexeme) :
    r.run (.sign t :: ls) = r'.run ls :=
  run_cons_of_advances (h _) ls

theorem run_cons_eq_some_iff {r r' : Reading} {l : Lexeme} {ls : List Lexeme} :
    r.run (l :: ls) = some r' ↔ ∃ next, Advances r l next ∧ next.run ls = some r' := by
  simp only [run, Option.bind_eq_some_iff, advance_eq_some_iff]

/-- A run goes lexeme by lexeme. -/
theorem run_append (r : Reading) (ls ks : List Lexeme) :
    r.run (ls ++ ks) = (r.run ls).bind fun next => next.run ks := by
  induction ls generalizing r with
  | nil => rfl
  | cons l ls ih => simp only [List.cons_append, run, Option.bind_assoc, ih]

end Reading

namespace Context

/-- The context with further parts read; among parameters and in a condition none can
be. -/
def extend (xs : List Part) : Context → Context
  | message read => message (xs.reverse ++ read)
  | yes c read outer => yes c (xs.reverse ++ read) outer
  | no c y read outer => no c y (xs.reverse ++ read) outer
  | ctx => ctx

@[simp] theorem extend_nil (ctx : Context) : ctx.extend [] = ctx := by
  cases ctx <;> rfl

/-- Further parts are read one after the other. -/
theorem extend_extend (xs ys : List Part) (ctx : Context) :
    (ctx.extend xs).extend ys = ctx.extend (xs ++ ys) := by
  cases ctx <;> simp [extend]

@[simp] theorem position_extend (xs : List Part) (ctx : Context) :
    (ctx.extend xs).position = ctx.position := by
  cases ctx <;> rfl

/-- Where parts stand, another part can follow. -/
theorem add_eq_extend {ctx : Context} (h : ctx.position = .part) (x : Part) :
    ctx.add x = ⟨.start, ctx.extend [x]⟩ := by
  cases ctx with
  | params o read outer => contradiction
  | condition outer => contradiction
  | message | yes | no => rfl

end Context

namespace Reading

open Concrete

/-- The text between two tags is read as such. -/
theorem run_innerLexemes_append (n : Word) (ps : List Part) (inner : Option Word)
    (ctx : Context) (ls : List Lexeme) :
    run ⟨.opened n ps, ctx⟩ (innerLexemes inner ++ .sign .closeStart :: ls) =
      run ⟨.closing n ps inner, ctx⟩ ls := by
  cases inner with
  | none => exact run_sign_of_advances (fun _ => .closeEmpty) ls
  | some x =>
    rw [innerLexemes, List.singleton_append, run_cons_of_advances .inner]
    exact run_sign_of_advances (fun _ => .closeInner) ls

/-- The name of a tag is read, and then its parameters, if it has any. -/
theorem run_tag_append {ps : List Part} (hps : ps ≠ [] → ∀ (o : Owner) (ctx : Context) ls,
      run ⟨o.point, ctx⟩ (paramLexemes ps ++ ls) = (o.close ps ctx).run ls)
    (n : Word) (ctx : Context) (ls : List Lexeme) :
    run ⟨.start, ctx⟩
        (.sign .tagStart :: ⟨.tagName, n.chars⟩ :: (paramLexemes ps ++ ls)) =
      run ⟨.tag n ps, ctx⟩ ls := by
  rw [run_sign_of_advances (fun _ => .tagStart), run_cons_of_advances .tagName]
  cases ps with
  | nil => rfl
  | cons p ps => exact hps (by simp) (.tag n) ctx ls

mutual

/-- The lexemes of a part are read as that part, wherever it can stand. -/
theorem run_lexemes_append : ∀ (x : Part), x.Shaped → ∀ {ctx : Context},
    ctx.position.admits x = true → ∀ ls : List Lexeme,
    run ⟨.start, ctx⟩ (x.lexemes ++ ls) = (ctx.add x).run ls
  | .text w, _, ctx, h, ls => by
      have hpart : ctx.position = .part := by
        cases hctx : ctx.position <;> simp_all [Position.admits]
      exact run_cons_of_advances (.text hpart) ls
  | .object w, _, ctx, h, ls => by
      have hparam : ctx.position = .param := by
        cases hctx : ctx.position <;> simp_all [Position.admits]
      exact run_cons_of_advances (.object hparam) ls
  | .number w, _, ctx, h, ls => by
      have hparam : ctx.position = .param := by
        cases hctx : ctx.position <;> simp_all [Position.admits]
      exact run_cons_of_advances (.number hparam) ls
  | .call n ps, hx, ctx, _, ls => by
      rw [lexemes, List.cons_append, run_cons_of_advances .functionName]
      exact run_paramLexemes_append ps hx.2 hx.1 (.call n) ctx ls
  | .single n ps, hx, ctx, _, ls => by
      rw [lexemes, List.cons_append, List.cons_append, List.append_assoc,
        run_tag_append (run_paramLexemes_append ps hx)]
      exact run_sign_of_advances (Advances.selfClose n ps ctx) ls
  | .pair m n ps inner close, hx, ctx, h, ls => by
      have hctx : ctx.position ≠ .condition := by
        intro hcondition
        simp [hcondition, Position.admits] at h
      rw [lexemes, List.cons_append, List.cons_append, List.append_assoc,
        run_tag_append (run_paramLexemes_append ps hx), List.cons_append,
        run_sign_of_advances (fun w => Advances.tagEnd n ps w hctx), List.append_assoc,
        List.cons_append, run_innerLexemes_append, List.cons_append,
        run_cons_of_advances .closeName]
      exact run_sign_of_advances (fun _ => .pair) ls
  | .branch c yes no, hx, ctx, h, ls => by
      obtain ⟨⟨hadmits, hc⟩, hyes, hno⟩ := hx
      have hctx : ctx.position ≠ .condition := by
        intro hcondition
        simp [hcondition, Position.admits] at h
      have hcondition : (Context.condition ctx).position.admits c = true := hadmits
      rw [lexemes, List.cons_append, run_sign_of_advances (fun _ => .ifStart hctx),
        List.append_assoc, run_lexemes_append c hc hcondition, List.cons_append]
      refine (run_sign_of_advances (fun _ => .conditionEnd) _).trans ?_
      rw [List.append_assoc, run_listLexemes_append yes hyes rfl, List.cons_append]
      refine (run_sign_of_advances (fun _ => .elseMark) _).trans ?_
      rw [List.append_assoc, run_listLexemes_append no hno rfl]
      refine (run_sign_of_advances (fun _ => .ifEnd) ls).trans ?_
      simp [Context.add]

/-- The lexemes of parameters are read as these parameters. -/
theorem run_paramLexemes_append : ∀ (ps : List Part), AllShaped .param ps → ps ≠ [] →
    ∀ (o : Owner) (ctx : Context) (ls : List Lexeme),
    run ⟨o.point, ctx⟩ (paramLexemes ps ++ ls) = (o.close ps ctx).run ls
  | [], _, hne, _, _, _ => absurd rfl hne
  | p :: ps, hps, _, o, ctx, ls => by
      have hadmits : (Context.params o [] ctx).position.admits p = true := hps.1
      rw [paramLexemes, List.cons_append, run_sign_of_advances (Advances.openParen o ctx),
        List.append_assoc, run_lexemes_append p hps.2.1 hadmits]
      exact run_moreLexemes_append ps hps.2.2 o [p] ctx ls

/-- The lexemes of the parameters behind others are read as these parameters. -/
theorem run_moreLexemes_append : ∀ (ps : List Part), AllShaped .param ps →
    ∀ (o : Owner) (read : List Part) (ctx : Context) (ls : List Lexeme),
    run ⟨.param, .params o read ctx⟩ (moreLexemes ps ++ ls) =
      (o.close (read.reverse ++ ps) ctx).run ls
  | [], _, o, read, ctx, ls => by
      rw [moreLexemes, List.append_nil]
      exact run_sign_of_advances (fun _ => .closeParen) ls
  | p :: ps, hps, o, read, ctx, ls => by
      have hadmits : (Context.params o read ctx).position.admits p = true := hps.1
      rw [moreLexemes, List.cons_append, run_sign_of_advances (fun _ => .comma),
        List.append_assoc, run_lexemes_append p hps.2.1 hadmits]
      refine (run_moreLexemes_append ps hps.2.2 o (p :: read) ctx ls).trans ?_
      rw [List.reverse_cons, List.append_assoc, List.singleton_append]

/-- The lexemes of a sequence of parts are read as these parts. -/
theorem run_listLexemes_append : ∀ (xs : List Part), AllShaped .part xs →
    ∀ {ctx : Context}, ctx.position = .part → ∀ ls : List Lexeme,
    run ⟨.start, ctx⟩ (listLexemes xs ++ ls) = run ⟨.start, ctx.extend xs⟩ ls
  | [], _, ctx, _, ls => by rw [listLexemes, List.nil_append, Context.extend_nil]
  | x :: xs, hxs, ctx, h, ls => by
      have hadmits : ctx.position.admits x = true := by
        rw [h]
        exact hxs.1
      rw [listLexemes, List.append_assoc, run_lexemes_append x hxs.2.1 hadmits,
        Context.add_eq_extend h, run_listLexemes_append xs hxs.2.2 (by simpa using h),
        Context.extend_extend, List.singleton_append]

end

end Reading

end LogMarkup
