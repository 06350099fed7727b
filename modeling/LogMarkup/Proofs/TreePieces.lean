import LogMarkup.Concrete.Tree
import LogMarkup.Proofs.Derivation

/-!
# The pieces of a derivation tree

A derivation tree leaves punctuation out, because the rules determine it.  Here it is put
back: the rule of a node says which punctuation stands around and between what the node
consists of.  The pieces of a tree are then its words, as they stand in the leaves, and
the punctuation between them.  The tree of a part has the text of the part, and what
stands at a node is what the grammar derives by the rule of the node.

Main results:

- `Tree.filterMap_leaf?_pieces`: the words among the pieces of a tree are its leaves.
- `Concrete.map_lexeme_pieces`, `Concrete.spell_pieces`: the pieces of a part's tree are
  written as the part is.
- `Concrete.Shaped.grammatical`: the tree of a part follows the grammar at every node.
- `Concrete.pieces_locate`: places of a part are places of its pieces.
-/

namespace LogMarkup

/-! ## Pieces -/

/-- A piece of a text that a derivation tree is read from: punctuation, which has a fixed
spelling, or a word. -/
inductive Piece (α : Type) where
  /-- Punctuation. -/
  | sign (t : Terminal) (literal : t.literal?.isSome = true := by decide)
  /-- A word, read as the given terminal. -/
  | word (kind : Terminal) (token : Token α)

namespace Piece

variable {α : Type}

/-- How a piece is written, and the terminal that it is read as. -/
def lexeme : Piece α → Lexeme
  | sign t _ => .sign t
  | word kind token => ⟨kind, token.chars⟩

/-- The leaf that a piece comes from; none for punctuation. -/
def leaf? : Piece α → Option (Terminal × Token α)
  | sign _ _ => none
  | word kind token => some (kind, token)

/-- The text of a sequence of pieces. -/
def spell (us : List (Piece α)) : List Char := us.flatMap fun u => u.lexeme.chars

@[simp] theorem spell_nil : spell ([] : List (Piece α)) = [] := rfl

@[simp] theorem spell_cons (u : Piece α) (us : List (Piece α)) :
    spell (u :: us) = u.lexeme.chars ++ spell us := rfl

@[simp] theorem spell_append (us vs : List (Piece α)) :
    spell (us ++ vs) = spell us ++ spell vs := List.flatMap_append

@[simp] theorem filterMap_leaf?_sign (t : Terminal) (h : t.literal?.isSome = true)
    (us : List (Piece α)) : (sign t h :: us).filterMap leaf? = us.filterMap leaf? := rfl

@[simp] theorem filterMap_leaf?_word (k : Terminal) (w : Token α) (us : List (Piece α)) :
    (word k w :: us).filterMap leaf? = (k, w) :: us.filterMap leaf? := rfl

/-! ## Punctuation -/

/-- Further parameters, each with a comma before it, and the closing parenthesis. -/
def moreParams : List (List (Piece α)) → List (Piece α)
  | [] => [.sign .closeParen]
  | u :: us => .sign .comma :: (u ++ moreParams us)

/-- Parameters with their parentheses; without any, nothing. -/
def params : List (List (Piece α)) → List (Piece α)
  | [] => []
  | u :: us => .sign .openParen :: (u ++ moreParams us)

@[simp] theorem filterMap_leaf?_moreParams (us : List (List (Piece α))) :
    (moreParams us).filterMap leaf? = us.flatten.filterMap leaf? := by
  induction us with
  | nil => rfl
  | cons u us ih => simp [moreParams, ih]

@[simp] theorem filterMap_leaf?_params (us : List (List (Piece α))) :
    (params us).filterMap leaf? = us.flatten.filterMap leaf? := by
  cases us with
  | nil => rfl
  | cons u us => simp [params]

end Piece

/-- The pieces of a rule that was applied to pieces: the rule determines the punctuation
around and between them. -/
def Rule.arrange {α : Type} : Rule → List (List (Piece α)) → List (Piece α)
  | openTag, n :: ps => .sign .tagStart :: (n ++ (Piece.params ps ++ [.sign .tagEnd]))
  | autoClosingTag, n :: ps => .sign .tagStart :: (n ++ (Piece.params ps ++ [.sign .selfClose]))
  | closeTag, us => .sign .closeStart :: (us.flatten ++ [.sign .tagEnd])
  | function, n :: ps => n ++ Piece.params ps
  | ifElse, [c, yes, no] =>
      .sign .ifStart :: (c ++ (.sign .conditionEnd :: (yes ++ (.sign .elseMark ::
        (no ++ [.sign .ifEnd])))))
  | _, us => us.flatten

/-- Rules add nothing but punctuation, and keep everything in order. -/
@[simp] theorem Rule.filterMap_leaf?_arrange {α : Type} (r : Rule) (us : List (List (Piece α))) :
    (r.arrange us).filterMap Piece.leaf? = us.flatten.filterMap Piece.leaf? := by
  unfold arrange
  split <;> simp

namespace Tree

variable {α : Type}

mutual

/-- The words of a tree and the punctuation between them, from left to right. -/
def pieces : Tree α → List (Piece α)
  | leaf kind token => [.word kind token]
  | node rule children => rule.arrange (piecesEach children)

/-- The pieces of each of several trees. -/
def piecesEach : List (Tree α) → List (List (Piece α))
  | [] => []
  | t :: ts => t.pieces :: piecesEach ts

end

@[simp] theorem piecesEach_append (ts us : List (Tree α)) :
    piecesEach (ts ++ us) = piecesEach ts ++ piecesEach us := by
  induction ts with
  | nil => rfl
  | cons t ts ih => simp [piecesEach, ih]

mutual

/-- The words among the pieces of a tree are its leaves. -/
theorem filterMap_leaf?_pieces : ∀ t : Tree α, t.pieces.filterMap Piece.leaf? = t.leaves
  | leaf _ _ => rfl
  | node _ ts => by rw [pieces, Rule.filterMap_leaf?_arrange, filterMap_leaf?_piecesEach, leaves]

/-- The same for several trees. -/
theorem filterMap_leaf?_piecesEach :
    ∀ ts : List (Tree α), (piecesEach ts).flatten.filterMap Piece.leaf? = leavesList ts
  | [] => rfl
  | t :: ts => by
    rw [piecesEach, List.flatten_cons, List.filterMap_append, filterMap_leaf?_pieces t,
      filterMap_leaf?_piecesEach ts, leavesList]

end

/-- An element has the pieces of what it consists of. -/
@[simp] theorem pieces_content (t : Tree α) : t.content.pieces = t.pieces := by
  unfold content
  split
  · simp [pieces, piecesEach, Rule.arrange]
  · rfl

end Tree

/-! ## Grammatical trees -/

/-- What the grammar derives by a rule. -/
def Rule.phrase : Rule → Phrase
  | start => .start
  | text => .text
  | element => .element
  | pairedTag => .pairedTag
  | openTag => .openTag
  | closeTag => .closeTag
  | autoClosingTag => .autoClosingTag
  | function => .function
  | number | objectLiteral => .param
  | ifElse => .ifElse
  | ifParam => .ifParam
  | branch => .parts

namespace Tree

variable {α : Type}

/-- The terminals of the pieces of a tree. -/
def terminals (t : Tree α) : List Terminal := (t.pieces.map Piece.lexeme).map Lexeme.kind

mutual

/-- The grammar derives the pieces of every node by the node's rule. -/
def Grammatical : Tree α → Prop
  | leaf _ _ => True
  | node r ts => Derives r.phrase (node r ts).terminals ∧ AllGrammatical ts

/-- The same for several trees. -/
def AllGrammatical : List (Tree α) → Prop
  | [] => True
  | t :: ts => t.Grammatical ∧ AllGrammatical ts

end

theorem allGrammatical_append {ts us : List (Tree α)} :
    AllGrammatical (ts ++ us) ↔ AllGrammatical ts ∧ AllGrammatical us := by
  induction ts with
  | nil => simp [AllGrammatical]
  | cons t ts ih => simp [AllGrammatical, ih, and_assoc]

/-- What an element consists of is grammatical with it. -/
theorem Grammatical.content {t : Tree α} (h : t.Grammatical) : t.content.Grammatical := by
  unfold Tree.content
  split
  · exact h.2.1
  · exact h

end Tree

/-! ## Places -/

namespace Piece

variable {α : Type}

/-- The piece with the place of its word, when it begins at `p`. -/
def settle (p : Place) : Piece α → Piece Place
  | sign t h => sign t h
  | word k w => word k ⟨w.chars, p⟩

/-- A place does not change how a piece is written. -/
theorem lexeme_settle (p : Place) (u : Piece α) : (u.settle p).lexeme = u.lexeme := by
  cases u <;> rfl

/-- The pieces with the places of their words, when the first one begins at `p`. -/
def locate (p : Place) : List (Piece α) → List (Piece Place)
  | [] => []
  | u :: us => u.settle p :: locate (p.after u.lexeme.chars) us

@[simp] theorem locate_nil (p : Place) : locate p ([] : List (Piece α)) = [] := rfl

@[simp] theorem locate_sign (p : Place) (t : Terminal) (h : t.literal?.isSome = true)
    (us : List (Piece α)) :
    locate p (sign t h :: us) = sign t h :: locate (p.after (Lexeme.sign t).chars) us := rfl

@[simp] theorem locate_word (p : Place) (k : Terminal) (w : Token α) (us : List (Piece α)) :
    locate p (word k w :: us) = word k ⟨w.chars, p⟩ :: locate (p.after w.chars) us := rfl

/-- What follows some pieces begins behind their text. -/
@[simp] theorem locate_append (p : Place) (us vs : List (Piece α)) :
    locate p (us ++ vs) = locate p us ++ locate (p.after (spell us)) vs := by
  induction us generalizing p with
  | nil => rfl
  | cons u us ih => cases u <;> simp [lexeme, Place.after_append, ih]

/-- Every word bears the place behind the text before it. -/
theorem mark_of_locate_eq {p : Place} {us : List (Piece α)} {before after : List (Piece Place)}
    {k : Terminal} {w : Token Place} (h : locate p us = before ++ word k w :: after) :
    w.mark = p.after (spell before) := by
  induction before generalizing p us with
  | nil =>
    cases us with
    | nil => contradiction
    | cons u us =>
      obtain ⟨hsettled, -⟩ := List.cons.inj h
      cases u with
      | sign t ht => contradiction
      | word k' w' =>
        obtain ⟨rfl, rfl⟩ := word.inj hsettled
        rfl
  | cons v before ih =>
    cases us with
    | nil => contradiction
    | cons u us =>
      obtain ⟨hsettled, hrest⟩ := List.cons.inj h
      rw [ih hrest, ← hsettled, spell_cons, lexeme_settle, Place.after_append]

end Piece

/-! ## Pieces of parts -/

namespace Concrete

open LogMarkup.Tree Piece

variable {α : Type}

/-- The text between two tags is one piece. -/
theorem map_lexeme_innerTrees (x : Option (Token α)) :
    (piecesEach (innerTrees x)).flatten.map lexeme = innerLexemes x := by
  cases x <;> rfl

mutual

/-- The pieces of a part's tree are written as the part is. -/
@[simp] theorem map_lexeme_pieces : ∀ x : Concrete α, x.tree.pieces.map lexeme = x.lexemes
  | text _ | object _ | number _ => rfl
  | call _ ps => by
    simp [tree, pieces, piecesEach, Rule.arrange, lexeme, lexemes, map_lexeme_params ps]
  | single _ ps => by
    simp [tree, pieces, piecesEach, Rule.arrange, lexeme, lexemes, map_lexeme_params ps]
  | pair _ _ ps inner _ => by
    simp [tree, pieces, piecesEach, Rule.arrange, lexeme, lexemes, map_lexeme_params ps,
      ← map_lexeme_innerTrees]
  | branch c yes no => by
    simp [tree, pieces, piecesEach, Rule.arrange, lexeme, lexemes, map_lexeme_pieces c,
      ← map_lexeme_trees]

/-- The pieces of parameters are written as the parameters are. -/
theorem map_lexeme_params :
    ∀ xs : List (Concrete α), (params (piecesEach (trees xs))).map lexeme = paramLexemes xs
  | [] => rfl
  | x :: xs => by
    simp [trees, piecesEach, params, lexeme, paramLexemes, map_lexeme_pieces x,
      map_lexeme_moreParams xs]

/-- The pieces of further parameters are written as these are. -/
theorem map_lexeme_moreParams :
    ∀ xs : List (Concrete α), (moreParams (piecesEach (trees xs))).map lexeme = moreLexemes xs
  | [] => rfl
  | x :: xs => by
    simp [trees, piecesEach, moreParams, lexeme, moreLexemes, map_lexeme_pieces x,
      map_lexeme_moreParams xs]

/-- The pieces of a sequence of parts are written as these are. -/
theorem map_lexeme_trees :
    ∀ xs : List (Concrete α), (piecesEach (trees xs)).flatten.map lexeme = listLexemes xs
  | [] => rfl
  | x :: xs => by
    simp [trees, piecesEach, map_lexeme_pieces x, map_lexeme_trees xs]

end

/-- The text between two tags is grammatical. -/
theorem allGrammatical_innerTrees (x : Option (Token α)) : AllGrammatical (innerTrees x) := by
  cases x with
  | none => trivial
  | some w => exact ⟨⟨.text, trivial, trivial⟩, trivial⟩

/-- The side of a branch is grammatical with its parts. -/
theorem grammatical_side {xs : List (Concrete α)} (hxs : AllShaped .part xs)
    (h : AllGrammatical (trees xs)) : (Tree.node .branch (trees xs)).Grammatical := by
  have hparts := hxs.derives_listLexemes
  rw [← map_lexeme_trees] at hparts
  exact ⟨hparts, h⟩

mutual

/-- The tree of a part that is built by the rules is grammatical. -/
theorem Shaped.grammatical : ∀ {x : Concrete α}, x.Shaped → x.tree.Grammatical
  | text _, _ => ⟨.text, trivial, trivial⟩
  | object _, _ => ⟨.paramObject, trivial, trivial⟩
  | number _, _ => ⟨.paramNumber, trivial, trivial⟩
  | call n ps, h => by
    have hparams := (AllShaped.derives_paramLexemes h.2).2 h.1
    have hcall : Derives .function (call n ps).tree.terminals := by
      simpa [terminals, lexemes] using Derives.function hparams
    exact ⟨hcall, trivial, h.2.allGrammatical⟩
  | single n ps, h => by
    have hparams := (AllShaped.derives_paramLexemes h).1
    have htag : Derives .autoClosingTag (single n ps).tree.content.terminals := by
      simpa [terminals, lexemes] using Derives.autoClosingTag hparams
    have helement : Derives .element (single n ps).tree.terminals := by
      simpa [terminals] using Derives.elementAutoClosingTag htag
    exact ⟨helement, ⟨htag, trivial, h.allGrammatical⟩, trivial⟩
  | pair mark n ps inner close, h => by
    have hopen : Derives .openTag
        (Tree.node .openTag (.leaf .tagName n :: trees ps)).terminals := by
      simpa [terminals, pieces, piecesEach, Rule.arrange, lexeme, map_lexeme_params] using
        Derives.openTag (AllShaped.derives_paramLexemes h).1
    have hclose : Derives .closeTag (Tree.node .closeTag [.leaf .tagName close]).terminals :=
      .closeTag
    have hpair : Derives .pairedTag (pair mark n ps inner close).tree.content.terminals := by
      simpa [terminals, lexemes] using Derives.pairedTag
        (.openTag (AllShaped.derives_paramLexemes h).1) (derives_innerLexemes inner) .closeTag
    have helement : Derives .element (pair mark n ps inner close).tree.terminals := by
      simpa [terminals] using Derives.elementPairedTag hpair
    exact ⟨helement, ⟨hpair, ⟨hopen, trivial, h.allGrammatical⟩,
      allGrammatical_append.mpr ⟨allGrammatical_innerTrees inner,
        ⟨hclose, trivial, trivial⟩, trivial⟩⟩, trivial⟩
  | branch c yes no, h => by
    obtain ⟨⟨hadmits, hc⟩, hyes, hno⟩ := h
    have hasked : Derives .ifParam (c.lexemes.map Lexeme.kind) := hc.derives hadmits
    have hparam : Derives .ifParam (Tree.node .ifParam [c.tree.content]).terminals := by
      simpa [terminals, pieces, piecesEach, Rule.arrange] using hasked
    have hbranch : Derives .ifElse (branch c yes no).tree.content.terminals := by
      simpa [terminals, lexemes] using Derives.ifElse hasked hyes.derives_listLexemes
        hno.derives_listLexemes
    have helement : Derives .element (branch c yes no).tree.terminals := by
      simpa [terminals] using Derives.elementIfElse hbranch
    exact ⟨helement, ⟨hbranch, ⟨hparam, hc.grammatical.content, trivial⟩,
      grammatical_side hyes hyes.allGrammatical, grammatical_side hno hno.allGrammatical,
      trivial⟩, trivial⟩

/-- The trees of a sequence are grammatical. -/
theorem AllShaped.allGrammatical {p : Position} :
    ∀ {xs : List (Concrete α)}, AllShaped p xs → AllGrammatical (trees xs)
  | [], _ => trivial
  | _ :: _, h => ⟨h.2.1.grammatical, h.2.2.allGrammatical⟩

end

mutual

/-- The text of the pieces of a part's tree is the spelling of the part. -/
@[simp] theorem spell_pieces : ∀ x : Concrete α, spell x.tree.pieces = x.chars
  | text _ | object _ | number _ => by
    simp [tree, pieces, piecesEach, Rule.arrange, lexeme, chars]
  | call _ ps => by
    simp [tree, pieces, piecesEach, Rule.arrange, lexeme, chars, spell_params ps]
  | single _ ps => by
    simp [tree, pieces, piecesEach, Rule.arrange, lexeme, chars, spell_params ps,
      Terminal.literal?]
  | pair _ _ ps inner _ => by
    cases inner <;>
      simp [tree, pieces, piecesEach, Rule.arrange, lexeme, chars, spell_params ps,
        Terminal.literal?, innerTrees, innerChars]
  | branch c yes no => by
    simp [tree, pieces, piecesEach, Rule.arrange, lexeme, chars, spell_pieces c,
      spell_trees yes, spell_trees no, Terminal.literal?]

/-- The text of the pieces of parameters is the spelling of the parameters. -/
theorem spell_params :
    ∀ xs : List (Concrete α), spell (params (piecesEach (trees xs))) = paramChars xs
  | [] => rfl
  | x :: xs => by
    simp [trees, piecesEach, params, lexeme, paramChars, spell_pieces x, spell_moreParams xs,
      Terminal.literal?]

/-- The text of the pieces of further parameters is the spelling of these. -/
theorem spell_moreParams :
    ∀ xs : List (Concrete α), spell (moreParams (piecesEach (trees xs))) = moreChars xs
  | [] => rfl
  | x :: xs => by
    simp [trees, piecesEach, moreParams, lexeme, moreChars, spell_pieces x, spell_moreParams xs,
      Terminal.literal?]

/-- The text of the pieces of a sequence of parts is the spelling of these. -/
theorem spell_trees :
    ∀ xs : List (Concrete α), spell (piecesEach (trees xs)).flatten = listChars xs
  | [] => rfl
  | x :: xs => by
    simp [trees, piecesEach, listChars, spell_pieces x, spell_trees xs]

end

mutual

/-- The places of a part are those of its pieces. -/
theorem pieces_locate (p : Place) :
    ∀ x : Concrete α, (x.locate p).tree.pieces = Piece.locate p x.tree.pieces
  | text _ | object _ | number _ => rfl
  | call n ps => by
    simp [tree, pieces, piecesEach, Rule.arrange, Concrete.locate,
      params_locateParams _ ps]
  | single n ps => by
    simp [tree, pieces, piecesEach, Rule.arrange, Concrete.locate,
      params_locateParams _ ps, Terminal.literal?]
  | pair _ n ps inner _ => by
    cases inner <;>
    simp [tree, pieces, piecesEach, Rule.arrange, Concrete.locate, spell_params,
      params_locateParams _ ps, Terminal.literal?, innerTrees, innerChars]
  | branch c yes no => by
    simp [tree, pieces, piecesEach, Rule.arrange, Concrete.locate, spell_trees,
      pieces_locate _ c, flatten_locateList _ yes, flatten_locateList _ no, Terminal.literal?]

/-- The places of parameters are those of their pieces. -/
theorem params_locateParams (p : Place) :
    ∀ xs : List (Concrete α), params (piecesEach (trees (locateParams p xs))) =
      Piece.locate p (params (piecesEach (trees xs)))
  | [] => rfl
  | x :: xs => by
    have hparen : p.next '(' = p.next ',' := rfl
    simp [trees, piecesEach, params, locateParams, pieces_locate _ x,
      moreParams_locateParams _ xs, Terminal.literal?, hparen]

/-- The places of further parameters are those of their pieces. -/
theorem moreParams_locateParams (p : Place) :
    ∀ xs : List (Concrete α), moreParams (piecesEach (trees (locateParams p xs))) =
      Piece.locate p (moreParams (piecesEach (trees xs)))
  | [] => rfl
  | x :: xs => by
    simp [trees, piecesEach, moreParams, locateParams, pieces_locate _ x,
      moreParams_locateParams _ xs, Terminal.literal?]

/-- The places of a sequence of parts are those of its pieces. -/
theorem flatten_locateList (p : Place) :
    ∀ xs : List (Concrete α), (piecesEach (trees (locateList p xs))).flatten =
      Piece.locate p (piecesEach (trees xs)).flatten
  | [] => rfl
  | x :: xs => by
    simp [trees, piecesEach, locateList, pieces_locate _ x, flatten_locateList _ xs]

end

end Concrete

end LogMarkup
