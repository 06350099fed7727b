import LogMarkup.Proofs.Fault
import LogMarkup.Proofs.Spelling

/-!
# Faults of a derivation tree

Building works from the leaves of a derivation tree up: it understands the words of a rule
from left to right and then applies the rule.  This module visits a tree in this order and
says which of its places are at fault.  They are the faulty sites of the message, which are
written in the markup where they are marked.

Main results:

- `Concrete.standsIn_of_mem_sitesList`: the sites of a message are written where they are
  marked.
- `Concrete.filterMap_postOrder`: visiting the tree comes to the sites of the message.
- `Concrete.faulty_iff`: a place of the tree is at fault exactly if its site is.
-/

namespace LogMarkup

/-- The place one column in front of this one. -/
def Place.back (p : Place) : Place := ⟨p.line, p.column - 1⟩

/-! ## Where sites are written -/

namespace Site

variable {α : Type}

/-- The mark of the site. -/
def mark : Site α → α
  | function w | tag w | object w | number w => w.mark
  | pair m _ _ => m

/-- What is written at the site; where two names are compared, the beginning of the pair. -/
def written : Site α → List Char
  | function w | tag w | object w | number w => w.chars
  | pair _ opened _ => '<' :: opened

/-- In the text that begins at `p`, the site is written at its mark. -/
def StandsIn (v : Site Place) (p : Place) (cs : List Char) : Prop :=
  ∃ before after, cs = before ++ (v.written ++ after) ∧ v.mark = p.after before

/-- What is written in a piece of a text is written in the text. -/
theorem StandsIn.within {v : Site Place} {p q : Place} {cs ds : List Char}
    (h : v.StandsIn q cs) (before after : List Char) (hq : q = p.after before)
    (hds : ds = before ++ (cs ++ after)) : v.StandsIn p ds := by
  obtain ⟨front, back, rfl, hmark⟩ := h
  refine ⟨before ++ front, back ++ after, by simp [hds], ?_⟩
  rw [hmark, hq, Place.after_append]

/-- What is written at the beginning of a text. -/
theorem standsIn_start {v : Site Place} {p : Place} (hmark : v.mark = p) (after : List Char) :
    v.StandsIn p (v.written ++ after) :=
  ⟨[], after, rfl, hmark⟩

end Site

namespace Concrete

variable {α : Type}

mutual

/-- The sites of a part are written where they are marked. -/
theorem standsIn_of_mem_sites : ∀ (x : Concrete α) (p : Place), ∀ v ∈ (x.locate p).sites,
    v.StandsIn p x.chars
  | text _, _, v, hv => by simp [locate, sites] at hv
  | call n ps, p, v, hv => by
      rcases List.mem_cons.mp hv with rfl | hv
      · exact Site.standsIn_start rfl _
      · refine (standsIn_of_mem_params ps _ v hv).within n.chars [] rfl ?_
        simp [chars]
  | single n ps, p, v, hv => by
      rcases List.mem_cons.mp hv with rfl | hv
      · exact ⟨['<'], _, rfl, rfl⟩
      · exact (standsIn_of_mem_params ps _ v hv).within ('<' :: n.chars) ['/', '>'] rfl rfl
  | pair m n ps inner close, p, v, hv => by
      rcases List.mem_cons.mp hv with rfl | hv
      · exact ⟨['<'], _, rfl, rfl⟩
      rcases List.mem_append.mp hv with hv | hv
      · exact (standsIn_of_mem_params ps _ v hv).within ('<' :: n.chars)
          ('>' :: (innerChars inner ++ ('<' :: '/' :: (close.chars ++ ['>'])))) rfl rfl
      rcases List.mem_pair.mp hv with rfl | rfl
      · refine ⟨'<' :: (n.chars ++ (paramChars ps ++ ('>' :: (innerChars inner ++ ['<', '/'])))),
          ['>'], by simp [chars, Site.written], ?_⟩
        simp [Site.mark, Place.after_append]
      · exact Site.standsIn_start rfl _
  | branch c yes no, p, v, hv => by
      rcases List.mem_append.mp hv with hv | hv
      · exact (standsIn_of_mem_sites c _ v hv).within ['<', 'I', 'f', '(']
          ([')', '>'] ++ (listChars yes ++ (['<', 'E', 'l', 's', 'e', '/', '>'] ++
            (listChars no ++ ['<', '/', 'I', 'f', '>'])))) rfl rfl
      rcases List.mem_append.mp hv with hv | hv
      · refine (standsIn_of_mem_sitesList yes _ v hv).within
          (['<', 'I', 'f', '('] ++ (c.chars ++ [')', '>']))
          (['<', 'E', 'l', 's', 'e', '/', '>'] ++ (listChars no ++ ['<', '/', 'I', 'f', '>'])) ?_ ?_
        · simp [Place.after_append]
        · simp [chars]
      · refine (standsIn_of_mem_sitesList no _ v hv).within
          (['<', 'I', 'f', '('] ++ (c.chars ++ ([')', '>'] ++ (listChars yes ++
            ['<', 'E', 'l', 's', 'e', '/', '>'])))) ['<', '/', 'I', 'f', '>'] ?_ ?_
        · simp [Place.after_append]
        · simp [chars]
  | object n, p, v, hv => by
      obtain rfl := List.mem_singleton.mp hv
      exact ⟨[], [], by simp [chars, Site.written], rfl⟩
  | number d, p, v, hv => by
      obtain rfl := List.mem_singleton.mp hv
      exact ⟨[], [], by simp [chars, Site.written], rfl⟩

/-- The same for parameters with their parentheses. -/
theorem standsIn_of_mem_params : ∀ (xs : List (Concrete α)) (p : Place),
    ∀ v ∈ sitesList (locateParams p xs), v.StandsIn p (paramChars xs)
  | [], _, v, hv => by simp [locateParams, sitesList] at hv
  | x :: xs, p, v, hv => by
      rcases List.mem_append.mp hv with hv | hv
      · exact (standsIn_of_mem_sites x _ v hv).within ['('] (moreChars xs) rfl rfl
      · refine (standsIn_of_mem_more xs _ v hv).within ('(' :: x.chars) [] rfl ?_
        simp [paramChars]

/-- The same for the parameters behind another one. -/
theorem standsIn_of_mem_more : ∀ (xs : List (Concrete α)) (p : Place),
    ∀ v ∈ sitesList (locateParams p xs), v.StandsIn p (moreChars xs)
  | [], _, v, hv => by simp [locateParams, sitesList] at hv
  | x :: xs, p, v, hv => by
      rcases List.mem_append.mp hv with hv | hv
      · exact (standsIn_of_mem_sites x _ v hv).within [','] (moreChars xs) rfl rfl
      · refine (standsIn_of_mem_more xs _ v hv).within (',' :: x.chars) [] rfl ?_
        simp [moreChars]

/-- The sites of a message are written where they are marked. -/
theorem standsIn_of_mem_sitesList : ∀ (xs : List (Concrete α)) (p : Place),
    ∀ v ∈ sitesList (locateList p xs), v.StandsIn p (listChars xs)
  | [], _, v, hv => by simp [locateList, sitesList] at hv
  | x :: xs, p, v, hv => by
      rcases List.mem_append.mp hv with hv | hv
      · exact (standsIn_of_mem_sites x _ v hv).within [] (listChars xs) rfl rfl
      · refine (standsIn_of_mem_sitesList xs _ v hv).within x.chars [] rfl ?_
        simp [listChars]

end

end Concrete

/-! ## Visiting a tree -/

namespace Tree

variable {α : Type}

mutual

/-- The tree and all trees inside it in post-order: the children of a rule from left to
right, and then what the rule was applied to. -/
def postOrder : Tree α → List (Tree α)
  | leaf kind w => [leaf kind w]
  | node r ts => postOrderList ts ++ [node r ts]

/-- Several trees in post-order, one after the other. -/
def postOrderList : List (Tree α) → List (Tree α)
  | [] => []
  | t :: ts => t.postOrder ++ postOrderList ts

end

/-- The place of the tree is at fault. -/
inductive Faulty : Tree Place → BuildError Place → Prop
  /-- There is no tag of this name. -/
  | tag {w : Token Place} (h : ∀ t : TagName, w.chars ≠ t.chars) :
      Faulty (leaf .tagName w) (.unknownTag w.chars w.mark)
  /-- There is no object of this name. -/
  | object {w : Token Place} (h : ∀ o : ObjectName, w.chars ≠ o.chars) :
      Faulty (leaf .objectName w) (.unknownObject w.chars w.mark)
  /-- The number has too many digits. -/
  | number {w : Token Place} (h : Digits.limit < w.chars.length) :
      Faulty (leaf .number w) (.unreadableNumber w.chars)
  /-- The two names of a pair of tags differ.  The pair begins in front of the first one. -/
  | pair {n close : Token Place} {ps inner : List (Tree Place)} (h : n.chars ≠ close.chars) :
      Faulty (node .pairedTag (node .openTag (leaf .tagName n :: ps) ::
        (inner ++ [node .closeTag [leaf .tagName close]])))
        (.mismatch n.chars close.chars n.mark.back)

/-- What building has to understand of a word that was read as the given terminal. -/
def wordSite? (kind : Terminal) (w : Token α) : Option (Site α) :=
  match kind with
  | .functionName => some (.function w)
  | .tagName => some (.tag w)
  | .objectName => some (.object w)
  | .number => some (.number w)
  | _ => none

/-- The name of a closing tag. -/
def closeName? : Tree α → Option (Token α)
  | node .closeTag [leaf .tagName close] => some close
  | _ => none

/-- What building has to understand at this place of the tree, behind everything inside. -/
def site? : Tree Place → Option (Site Place)
  | leaf kind w => wordSite? kind w
  | node .pairedTag (node .openTag (leaf .tagName n :: _) :: rest) =>
      (rest.getLast?.bind closeName?).map fun close => .pair n.mark.back n.chars close.chars
  | _ => none

/-- Only of a pair of tags there is something to understand when the rule is applied. -/
theorem site?_node {r : Rule} (hr : r ≠ .pairedTag) (ts : List (Tree Place)) :
    site? (node r ts) = none := by
  cases r with
  | pairedTag => contradiction
  | _ => rfl

/-- An element has nothing to understand beyond what it consists of. -/
theorem filterMap_postOrder_content (t : Tree Place) :
    t.content.postOrder.filterMap site? = t.postOrder.filterMap site? := by
  unfold content
  split
  · simp [postOrder, postOrderList, site?_node]
  · rfl

end Tree

namespace Concrete

variable {α : Type}

mutual

/-- Visiting the tree of a part comes to its sites in the order in which building does. -/
theorem filterMap_postOrder : ∀ (x : Concrete α) (p : Place),
    (x.locate p).tree.postOrder.filterMap Tree.site? = (x.locate p).sites
  | text _, _ | object _, _ | number _, _ => rfl
  | call n ps, p => by
      have hps := filterMap_postOrder_params ps (p.after n.chars)
      simp [locate, tree, sites, Tree.postOrder, Tree.postOrderList, Tree.site?, Tree.wordSite?,
        hps]
  | single n ps, p => by
      have hps := filterMap_postOrder_params ps ((p.next '<').after n.chars)
      simp [locate, tree, sites, Tree.postOrder, Tree.postOrderList, Tree.site?, Tree.wordSite?,
        hps]
  | pair _ n ps inner close, p => by
      have hps := filterMap_postOrder_params ps ((p.next '<').after n.chars)
      cases inner with
      | none =>
        simp [locate, tree, sites, innerTrees, Tree.postOrder, Tree.postOrderList, Tree.site?,
          Tree.wordSite?, hps]
        rfl
      | some w =>
        simp [locate, tree, sites, innerTrees, Tree.postOrder, Tree.postOrderList, Tree.site?,
          Tree.wordSite?, hps]
        rfl
  | branch c yes no, p => by
      simp [locate, tree, sites, Tree.postOrder, Tree.postOrderList, Tree.site?_node,
        Tree.filterMap_postOrder_content, filterMap_postOrder c,
        filterMap_postOrderList yes, filterMap_postOrderList no]

/-- The same for parameters. -/
theorem filterMap_postOrder_params : ∀ (xs : List (Concrete α)) (p : Place),
    (Tree.postOrderList (trees (locateParams p xs))).filterMap Tree.site? =
      sitesList (locateParams p xs)
  | [], _ => rfl
  | x :: xs, p => by
      simp [locateParams, trees, sitesList, Tree.postOrderList, filterMap_postOrder x,
        filterMap_postOrder_params xs]

/-- The same for the parts of a message. -/
theorem filterMap_postOrderList : ∀ (xs : List (Concrete α)) (p : Place),
    (Tree.postOrderList (trees (locateList p xs))).filterMap Tree.site? =
      sitesList (locateList p xs)
  | [], _ => rfl
  | x :: xs, p => by
      simp [locateList, trees, sitesList, Tree.postOrderList, filterMap_postOrder x,
        filterMap_postOrderList xs]

end

/-! ## Faults of sites and places -/

/-- A place of the tree of a well-formed message is at fault exactly if its site is. -/
theorem faulty_iff {xs : List (Concrete Place)} (hxs : AllWellFormed .part xs) {v : Tree Place}
    (hv : ∀ u, v.site? = some u → u ∈ sitesList xs) {e : BuildError Place} :
    Tree.Faulty v e ↔ ∃ u, v.site? = some u ∧ Fault u e := by
  have hnumber : ∀ w : Token Place, Site.number w ∈ sitesList xs →
      (Numeral.read? w.chars = none ↔ Digits.limit < w.chars.length) := by
    intro w hw
    obtain ⟨⟨hne, hdigits⟩, -⟩ := hxs.admits_of_mem_sites hw rfl
    rw [Numeral.read?_of_isDigit hne hdigits]
    simp
  constructor
  · intro h
    cases h with
    | tag h => exact ⟨.tag _, rfl, .tag h⟩
    | object h => exact ⟨.object _, rfl, .object h⟩
    | @number w h => exact ⟨.number w, rfl, .number ((hnumber w (hv _ rfl)).mpr h)⟩
    | @pair n close ps inner h =>
      refine ⟨.pair n.mark.back n.chars close.chars, ?_, .pair h⟩
      simp [Tree.site?, Tree.closeName?]
  · rintro ⟨u, hu, he⟩
    cases v with
    | leaf kind w =>
      rw [Tree.site?] at hu
      cases kind with
      | functionName =>
        obtain rfl := Option.some.inj hu
        obtain ⟨h⟩ := he
        -- The scanner takes nothing but the names of functions for such names.
        obtain ⟨⟨f, hf⟩, -⟩ := hxs.admits_of_mem_sites (hv _ rfl) rfl
        exact absurd hf (h f)
      | tagName =>
        obtain rfl := Option.some.inj hu
        cases he with
        | tag h => exact .tag h
      | objectName =>
        obtain rfl := Option.some.inj hu
        cases he with
        | object h => exact .object h
      | number =>
        obtain rfl := Option.some.inj hu
        cases he with
        | number h => exact .number ((hnumber w (hv _ rfl)).mp h)
      | _ => contradiction
    | node r ts =>
      unfold Tree.site? at hu
      split at hu
      next => contradiction
      next n ps rest heq =>
        obtain ⟨rfl, rfl⟩ := Tree.node.inj heq
        obtain ⟨close, hclose, rfl⟩ := Option.map_eq_some_iff.mp hu
        obtain ⟨last, hlast, hname⟩ := Option.bind_eq_some_iff.mp hclose
        obtain ⟨inner, rfl⟩ := List.getLast?_eq_some_iff.mp hlast
        unfold Tree.closeName? at hname
        split at hname
        next =>
          obtain rfl := Option.some.inj hname
          cases he with
          | pair h => exact .pair h
        next => contradiction
      next => contradiction

end Concrete

/-- A place of a tree is at fault in at most one way. -/
theorem Tree.Faulty.unique {v : Tree Place} {e e' : BuildError Place} (h : v.Faulty e)
    (h' : v.Faulty e') : e = e' := by
  cases h with
  | tag h => cases h'; rfl
  | object h => cases h'; rfl
  | number h => cases h'; rfl
  | @pair n close ps inner h =>
    generalize hv : (node .pairedTag (node .openTag (leaf .tagName n :: ps) ::
      (inner ++ [node .closeTag [leaf .tagName close]]))) = v at h'
    cases h' with
    | pair h' =>
      obtain ⟨-, hchildren⟩ := Tree.node.inj hv
      obtain ⟨hopen, hrest⟩ := List.cons.inj hchildren
      obtain ⟨-, hclose⟩ := List.append_inj' hrest rfl
      simp only [node.injEq, leaf.injEq, List.cons.injEq, true_and, and_true] at hopen hclose
      obtain ⟨rfl, -⟩ := hopen
      rw [hclose]
    | _ => cases hv

end LogMarkup
