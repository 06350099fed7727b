import LogMarkup.Proofs.Building
import LogMarkup.Proofs.FirstError
import LogMarkup.Proofs.Scanning

/-!
# The first fault of a message

Building a message understands its names and numbers in the order in which they are
written, and compares the names of a pair of tags when everything else in the pair is
understood.  This module lists these sites of a message and says when one of them is at
fault.  Building fails with the first fault, and what the sites hold is written in the
message.

Main results:

- `Concrete.build_endsAtFirst`, `Concrete.buildList_endsAtFirst`: building is the walk
  through the sites that ends at the first fault.
- `Concrete.filterMap_sites`: the sites hold the names and numbers of the message, in the
  order in which they are written.
- `Concrete.AllWellFormed.fault`: of a well-formed message all faults have a place, unless
  a number has too many digits.
-/

namespace LogMarkup

/-- Something in a message that building has to understand. -/
inductive Site (α : Type) where
  /-- The name of a function. -/
  | function (name : Token α)
  /-- The name of a tag. -/
  | tag (name : Token α)
  /-- The name of an object. -/
  | object (name : Token α)
  /-- Digits. -/
  | number (digits : Token α)
  /-- The names of a pair of tags. -/
  | pair (mark : α) (opened closed : List Char)

/-- The site cannot be understood. -/
inductive Fault {α : Type} : Site α → BuildError α → Prop
  /-- There is no function of this name. -/
  | function {w : Token α} (h : ∀ f : FunctionName, w.chars ≠ f.chars) :
      Fault (.function w) (.unknownFunction w.chars)
  /-- There is no tag of this name. -/
  | tag {w : Token α} (h : ∀ t : TagName, w.chars ≠ t.chars) :
      Fault (.tag w) (.unknownTag w.chars w.mark)
  /-- There is no object of this name. -/
  | object {w : Token α} (h : ∀ o : ObjectName, w.chars ≠ o.chars) :
      Fault (.object w) (.unknownObject w.chars w.mark)
  /-- The digits denote no number. -/
  | number {w : Token α} (h : Numeral.read? w.chars = none) :
      Fault (.number w) (.unreadableNumber w.chars)
  /-- The two names differ. -/
  | pair {mark : α} {opened closed : List Char} (h : opened ≠ closed) :
      Fault (.pair mark opened closed) (.mismatch opened closed mark)

/-- A site is at fault in at most one way. -/
theorem Fault.unique {α : Type} {v : Site α} {e e' : BuildError α} (h : Fault v e)
    (h' : Fault v e') : e = e' := by
  cases h <;> cases h' <;> rfl

namespace Concrete

variable {α : Type}

mutual

/-- The sites of a part, in the order in which building comes to them. -/
def sites : Concrete α → List (Site α)
  | text _ => []
  | call n ps => .function n :: sitesList ps
  | single n ps => .tag n :: sitesList ps
  | pair mark n ps _ close =>
      .tag n :: (sitesList ps ++ [.tag close, .pair mark n.chars close.chars])
  | branch c yes no => c.sites ++ (sitesList yes ++ sitesList no)
  | object n => [.object n]
  | number d => [.number d]

/-- The sites of a sequence of parts or parameters. -/
def sitesList : List (Concrete α) → List (Site α)
  | [] => []
  | x :: xs => x.sites ++ sitesList xs

end

/-! ## Building ends at the first fault -/

/-- A name is looked up in a table that finds exactly what is spelled so. -/
theorem name_endsAtFirst {β : Type} {ofChars? : List Char → Option β} {chars : β → List Char}
    (hchars : ∀ {cs : List Char} {b : β}, ofChars? cs = some b ↔ cs = chars b)
    {w : List Char} {v : Site α} {e : BuildError α} {x : Except (BuildError α) β}
    (hlookup : x = (ofChars? w).elim (.error e) .ok)
    (hfault : ∀ e', Fault v e' ↔ (∀ b, w ≠ chars b) ∧ e' = e) :
    EndsAtFirst Fault [v] x := by
  apply EndsAtFirst.lookup hlookup
  · intro b hb e' he'
    exact ((hfault e').mp he').1 b (hchars.mp hb)
  · intro hnone
    refine (hfault e).mpr ⟨?_, rfl⟩
    intro b hb
    rw [hchars.mpr hb] at hnone
    contradiction

theorem functionName_endsAtFirst (w : Token α) :
    EndsAtFirst Fault [.function w] (functionName w) := by
  have hlookup : functionName w =
      (FunctionName.ofChars? w.chars).elim (.error (.unknownFunction w.chars)) .ok := by
    unfold functionName
    cases FunctionName.ofChars? w.chars <;> rfl
  have hchars :=
    @ofChars?_eq_some_iff _ _ _ FunctionName.ofChars?_chars FunctionName.chars_of_ofChars?
  refine name_endsAtFirst hchars hlookup fun e => ?_
  constructor
  · intro he
    cases he with
    | function h => exact ⟨h, rfl⟩
  · rintro ⟨h, rfl⟩
    exact .function h

theorem tagName_endsAtFirst (w : Token α) : EndsAtFirst Fault [.tag w] (tagName w) := by
  have hlookup : tagName w =
      (TagName.ofChars? w.chars).elim (.error (.unknownTag w.chars w.mark)) .ok := by
    unfold tagName
    cases TagName.ofChars? w.chars <;> rfl
  have hchars :=
    @ofChars?_eq_some_iff _ _ _ TagName.ofChars?_chars TagName.chars_of_ofChars?
  refine name_endsAtFirst hchars hlookup fun e => ?_
  constructor
  · intro he
    cases he with
    | tag h => exact ⟨h, rfl⟩
  · rintro ⟨h, rfl⟩
    exact .tag h

theorem objectName_endsAtFirst (w : Token α) :
    EndsAtFirst Fault [.object w] (objectName w) := by
  have hlookup : objectName w =
      (ObjectName.ofChars? w.chars).elim (.error (.unknownObject w.chars w.mark)) .ok := by
    unfold objectName
    cases ObjectName.ofChars? w.chars <;> rfl
  have hchars :=
    @ofChars?_eq_some_iff _ _ _ ObjectName.ofChars?_chars ObjectName.chars_of_ofChars?
  refine name_endsAtFirst hchars hlookup fun e => ?_
  constructor
  · intro he
    cases he with
    | object h => exact ⟨h, rfl⟩
  · rintro ⟨h, rfl⟩
    exact .object h

theorem numberValue_endsAtFirst (w : Token α) :
    EndsAtFirst Fault [.number w] (numberValue w) := by
  have hlookup : numberValue w =
      (Numeral.read? w.chars).elim (.error (.unreadableNumber w.chars)) .ok := by
    unfold numberValue
    cases Numeral.read? w.chars <;> rfl
  apply EndsAtFirst.lookup hlookup
  · intro i hi e he
    cases he with
    | number h => rw [hi] at h; contradiction
  · exact .number

/-- The names of a pair are compared as they are spelled. -/
theorem names_endsAtFirst {mark : α} {n close : Token α} {t t' : TagName}
    (ht : tagName n = .ok t) (ht' : tagName close = .ok t') (b : Node) :
    EndsAtFirst Fault [.pair mark n.chars close.chars]
      (if t = t' then .ok b else .error (.mismatch t.chars t'.chars mark) :
        Except (BuildError α) Node) := by
  rw [tagName_eq_ok_iff.mp ht, tagName_eq_ok_iff.mp ht']
  by_cases hsame : t = t'
  · rw [if_pos hsame]
    apply EndsAtFirst.passed
    intro e he
    cases he with
    | pair h => exact h (congrArg TagName.chars hsame)
  · rw [if_neg hsame]
    apply EndsAtFirst.error
    apply Fault.pair
    intro hchars
    have hread := congrArg TagName.ofChars? hchars
    rw [TagName.ofChars?_chars, TagName.ofChars?_chars] at hread
    exact hsame (Option.some.inj hread)

mutual

/-- Building a part is the walk through its sites that ends at the first fault. -/
theorem build_endsAtFirst : ∀ x : Concrete α, EndsAtFirst Fault x.sites x.build
  | text _ => EndsAtFirst.ok _
  | call n ps => by
      rw [sites, build_call_eq]
      refine (functionName_endsAtFirst n).bind fun f _ => ?_
      exact (buildList_endsAtFirst ps).bind_ok fun ns => ⟨_, rfl⟩
  | single n ps => by
      rw [sites, build_single_eq]
      refine (tagName_endsAtFirst n).bind fun t _ => ?_
      exact (buildList_endsAtFirst ps).bind_ok fun ns => ⟨_, rfl⟩
  | pair mark n ps inner close => by
      rw [sites, build_pair_eq]
      refine (tagName_endsAtFirst n).bind fun t ht => ?_
      refine (buildList_endsAtFirst ps).bind fun ns _ => ?_
      refine (tagName_endsAtFirst close).bind fun t' ht' => ?_
      exact names_endsAtFirst ht ht' _
  | branch c yes no => by
      rw [sites, build_branch_eq]
      refine (build_endsAtFirst c).bind fun k _ => ?_
      refine (buildList_endsAtFirst yes).bind fun ys _ => ?_
      exact (buildList_endsAtFirst no).bind_ok fun ns => ⟨_, rfl⟩
  | object n => by
      rw [sites, build_object_eq]
      exact (objectName_endsAtFirst n).bind_ok fun o => ⟨_, rfl⟩
  | number d => by
      rw [sites, build_number_eq]
      exact (numberValue_endsAtFirst d).bind_ok fun i => ⟨_, rfl⟩

/-- Building a sequence is the walk through its sites that ends at the first fault. -/
theorem buildList_endsAtFirst : ∀ xs : List (Concrete α),
    EndsAtFirst Fault (sitesList xs) (buildList xs)
  | [] => EndsAtFirst.ok _
  | x :: xs => by
      rw [sitesList, buildList_cons_eq]
      refine (build_endsAtFirst x).bind fun n _ => ?_
      exact (buildList_endsAtFirst xs).bind_ok fun ns => ⟨_, rfl⟩

end

/-! ## What the sites hold -/

end Concrete

/-- The lexeme at a site; none where two names are compared. -/
def Site.lexeme? {α : Type} : Site α → Option Lexeme
  | function w => some ⟨.functionName, w.chars⟩
  | tag w => some ⟨.tagName, w.chars⟩
  | object w => some ⟨.objectName, w.chars⟩
  | number w => some ⟨.number, w.chars⟩
  | pair .. => none

/-- Is the lexeme a name or a number? -/
def Lexeme.isUnderstood (l : Lexeme) : Bool :=
  l.kind ∈ [Terminal.functionName, .tagName, .objectName, .number]

namespace Concrete

variable {α : Type}

/-- The text between two tags is not understood. -/
@[simp] theorem filter_innerLexemes (inner : Option (Token α)) :
    (innerLexemes inner).filter Lexeme.isUnderstood = [] := by
  cases inner <;> rfl

mutual

/-- The sites of a part hold its names and numbers, in the order in which they are
written. -/
theorem filterMap_sites : ∀ x : Concrete α,
    x.sites.filterMap Site.lexeme? = x.lexemes.filter Lexeme.isUnderstood
  | text _ | object _ | number _ => rfl
  | call n ps => by
      simp [sites, lexemes, Site.lexeme?, Lexeme.isUnderstood, ← filter_paramLexemes ps]
  | single n ps => by
      simp [sites, lexemes, Site.lexeme?, Lexeme.isUnderstood, ← filter_paramLexemes ps]
  | pair mark n ps inner close => by
      simp [sites, lexemes, Site.lexeme?, Lexeme.isUnderstood, ← filter_paramLexemes ps]
  | branch c yes no => by
      simp [sites, lexemes, Lexeme.isUnderstood, ← filter_listLexemes yes,
        ← filter_listLexemes no, filterMap_sites c]

/-- The same for parameters with their parentheses. -/
theorem filter_paramLexemes : ∀ ps : List (Concrete α),
    (sitesList ps).filterMap Site.lexeme? = (paramLexemes ps).filter Lexeme.isUnderstood
  | [] => rfl
  | p :: ps => by
      simp [sitesList, paramLexemes, Lexeme.isUnderstood, filterMap_sites p,
        filter_moreLexemes ps]

/-- The same for the parameters behind another one. -/
theorem filter_moreLexemes : ∀ ps : List (Concrete α),
    (sitesList ps).filterMap Site.lexeme? = (moreLexemes ps).filter Lexeme.isUnderstood
  | [] => rfl
  | p :: ps => by
      simp [sitesList, moreLexemes, Lexeme.isUnderstood, filterMap_sites p,
        filter_moreLexemes ps]

/-- The same for a sequence of parts. -/
theorem filter_listLexemes : ∀ xs : List (Concrete α),
    (sitesList xs).filterMap Site.lexeme? = (listLexemes xs).filter Lexeme.isUnderstood
  | [] => rfl
  | x :: xs => by
      simp [sitesList, filterMap_sites x, filter_listLexemes xs]

end

/-- What a site of a well-formed message holds is a word of its class, and is written in
the message. -/
theorem AllWellFormed.admits_of_mem_sites {xs : List (Concrete α)}
    (hxs : AllWellFormed .part xs) {v : Site α} (hv : v ∈ sitesList xs) {l : Lexeme}
    (hl : v.lexeme? = some l) : l.kind.Admits l.chars ∧ l.chars <:+: listChars xs := by
  have hmem : l ∈ (sitesList xs).filterMap Site.lexeme? :=
    List.mem_filterMap.mpr ⟨v, hv, hl⟩
  rw [filter_listLexemes] at hmem
  exact hxs.scans.admits_of_mem (List.mem_of_mem_filter hmem)

/-- A number is only unreadable if it has too many digits. -/
theorem limit_lt_of_unreadable {ds : List Char} (hds : Terminal.IsNumeral ds)
    (h : Numeral.read? ds = none) : Digits.limit < ds.length := by
  rw [Numeral.read?_of_isDigit hds.1 hds.2] at h
  by_contra hle
  rw [if_pos (Nat.le_of_not_lt hle)] at h
  contradiction

/-- The faults of a well-formed message have a place, apart from numbers of too many
digits. -/
theorem AllWellFormed.fault {xs : List (Concrete α)} (hxs : AllWellFormed .part xs)
    {v : Site α} (hv : v ∈ sitesList xs) {e : BuildError α} (he : Fault v e) :
    e.mark?.isSome = true ∨ ∃ ds, e = .unreadableNumber ds ∧ Terminal.IsNumeral ds ∧
      Digits.limit < ds.length ∧ ds <:+: listChars xs := by
  cases he with
  | function h =>
    obtain ⟨⟨f, hf⟩, -⟩ := hxs.admits_of_mem_sites hv rfl
    exact absurd hf (h f)
  | tag _ | object _ | pair _ => exact .inl rfl
  | number h =>
    obtain ⟨hnumeral, hinfix⟩ := hxs.admits_of_mem_sites hv rfl
    exact .inr ⟨_, rfl, hnumeral, limit_lt_of_unreadable hnumeral h, hinfix⟩

end Concrete

end LogMarkup
