import LogMarkup.Concrete
import LogMarkup.Terminal

/-!
# Messages read so far

A reading is a message of which only a front part has been seen.  Its context holds
the finished parts and what is open around them; its point says which words of an
unfinished part have been read.  `Reading.advance` takes one more terminal.  The
grammar of markup is this one function: a terminal is allowed exactly when the
reading can advance over it.

Main results:

- `Reading.mem_allowed_iff`: the allowed terminals are those over which a reading
  advances.
- `Reading.length_lt_of_mem_next`: every continuation of a reading takes something
  from the text.
-/

namespace LogMarkup

/-- A part whose words carry no marks. -/
abbrev Part := Concrete Unit

/-- A word without a mark. -/
abbrev Word := Token Unit

/-- The word of given characters. -/
def Token.bare (cs : List Char) : Word := ⟨cs, ()⟩

/-- Whose parameters are being read. -/
inductive Owner where
  /-- A call of the named function. -/
  | call (name : Word)
  /-- A tag of the given name. -/
  | tag (name : Word)

/-- What is open around the point of reading, from the inside out.  Parts that were
read are kept latest first. -/
inductive Context where
  /-- The message itself. -/
  | message (read : List Part)
  /-- The first side of a branch. -/
  | yes (condition : Part) (read : List Part) (outer : Context)
  /-- The second side of a branch. -/
  | no (condition : Part) (yes read : List Part) (outer : Context)
  /-- The parameters of a call or of a tag. -/
  | params (owner : Owner) (read : List Part) (outer : Context)
  /-- The condition of a branch. -/
  | condition (outer : Context)

/-- Which words of an unfinished part have been read. -/
inductive Point where
  /-- None: something new may begin. -/
  | start
  /-- A parameter is complete. -/
  | param
  /-- The condition of a branch is complete. -/
  | condition (read : Part)
  /-- The name of a function. -/
  | functionName (name : Word)
  /-- The `<` of a tag. -/
  | tagStart
  /-- A tag up to its name. -/
  | tagName (name : Word)
  /-- A tag up to its parameters. -/
  | tagParams (name : Word) (params : List Part)
  /-- An opening tag. -/
  | opened (name : Word) (params : List Part)
  /-- An opening tag and text. -/
  | inner (name : Word) (params : List Part) (text : Word)
  /-- An opening tag, perhaps text, and `</` -/
  | closing (name : Word) (params : List Part) (text : Option Word)
  /-- An opening tag, perhaps text, and `</Name` -/
  | closeName (name : Word) (params : List Part) (text : Option Word) (close : Word)

/-- A message of which only a front part has been seen. -/
structure Reading where
  /-- The unfinished part. -/
  point : Point
  /-- What is open around it. -/
  context : Context

namespace Context

/-- Do parts stand here, so that there may be text? -/
def holdsParts : Context → Bool
  | message _ | yes .. | no .. => true
  | params .. | condition _ => false

/-- Is this the parameter list of a call or of a tag? -/
def isParams : Context → Bool
  | params .. => true
  | _ => false

/-- Is this the condition of a branch? -/
def isCondition : Context → Bool
  | condition _ => true
  | _ => false

/-- The reading in which the part `x` has been completed here. -/
def add (x : Part) : Context → Reading
  | message read => ⟨.start, message (x :: read)⟩
  | yes c read outer => ⟨.start, yes c (x :: read) outer⟩
  | no c y read outer => ⟨.start, no c y (x :: read) outer⟩
  | params o read outer => ⟨.param, params o (x :: read) outer⟩
  | condition outer => ⟨.condition x, condition outer⟩

end Context

namespace Reading

/-- Nothing has been read. -/
def initial : Reading := ⟨.start, .message []⟩

/-- The message, if it may end here. -/
def finished? : Reading → Option (List Part)
  | ⟨.start, .message read⟩ => some read.reverse
  | _ => none

/-- The reading after one more terminal, spelled `w`; nothing if the grammar does not
allow the terminal here. -/
def advance (r : Reading) (t : Terminal) (w : List Char) : Option Reading :=
  match r.point, t with
  | .start, .text =>
      if r.context.holdsParts then some (r.context.add (.text (.bare w))) else none
  | .start, .number =>
      if r.context.isParams then some (r.context.add (.number (.bare w))) else none
  | .start, .objectName =>
      if r.context.isParams then some (r.context.add (.object (.bare w))) else none
  | .start, .functionName => some ⟨.functionName (.bare w), r.context⟩
  | .start, .tagStart => some ⟨.tagStart, r.context⟩
  | .start, .ifStart =>
      if r.context.isCondition then none else some ⟨.start, .condition r.context⟩
  | .start, .elseMark =>
      match r.context with
      | .yes c read outer => some ⟨.start, .no c read.reverse [] outer⟩
      | _ => none
  | .start, .ifEnd =>
      match r.context with
      | .no c yes read outer => some (outer.add (.branch c yes read.reverse))
      | _ => none
  | .param, .comma => some ⟨.start, r.context⟩
  | .param, .closeParen =>
      match r.context with
      | .params (.call n) read outer => some (outer.add (.call n read.reverse))
      | .params (.tag n) read outer => some ⟨.tagParams n read.reverse, outer⟩
      | _ => none
  | .condition c, .conditionEnd =>
      match r.context with
      | .condition outer => some ⟨.start, .yes c [] outer⟩
      | _ => none
  | .functionName n, .openParen => some ⟨.start, .params (.call n) [] r.context⟩
  | .tagStart, .tagName => some ⟨.tagName (.bare w), r.context⟩
  | .tagName n, .openParen => some ⟨.start, .params (.tag n) [] r.context⟩
  | .tagName n, .selfClose => some (r.context.add (.single n []))
  | .tagName n, .tagEnd =>
      if r.context.isCondition then none else some ⟨.opened n [], r.context⟩
  | .tagParams n ps, .selfClose => some (r.context.add (.single n ps))
  | .tagParams n ps, .tagEnd =>
      if r.context.isCondition then none else some ⟨.opened n ps, r.context⟩
  | .opened n ps, .text => some ⟨.inner n ps (.bare w), r.context⟩
  | .opened n ps, .closeStart => some ⟨.closing n ps none, r.context⟩
  | .inner n ps x, .closeStart => some ⟨.closing n ps (some x), r.context⟩
  | .closing n ps x, .tagName => some ⟨.closeName n ps x (.bare w), r.context⟩
  | .closeName n ps x c, .tagEnd => some (r.context.add (.pair () n ps x c))
  | _, _ => none

/-- May the terminal come next? -/
def allows (r : Reading) (t : Terminal) : Bool := (r.advance t []).isSome

/-- The terminals that may come next, in the order of their labels. -/
def allowed (r : Reading) : List Terminal := Terminal.all.filter r.allows

/-- The allowed terminals are those over which a reading advances. -/
theorem mem_allowed_iff {r : Reading} {t : Terminal} :
    t ∈ r.allowed ↔ (r.advance t []).isSome := by
  simp [allowed, allows, Terminal.mem_all]

/-- The reading after the longest `t` at the front of `s`, and the rest of `s`. -/
def take? (r : Reading) (s : List Char) (t : Terminal) : Option (Reading × List Char) :=
  if r.allows t then
    match t.match? s with
    | some (w, rest) => (r.advance t w).map (·, rest)
    | none => none
  else none

/-- Every way to read one more terminal from `s`, with the rest of `s`. -/
def next (r : Reading) (s : List Char) : List (Reading × List Char) :=
  Terminal.all.filterMap (r.take? s)

/-- A continuation takes a terminal that is allowed, at its longest match. -/
theorem mem_next_iff {r r' : Reading} {s rest : List Char} :
    (r', rest) ∈ r.next s ↔
      ∃ t w, r.allows t ∧ t.match? s = some (w, rest) ∧ r.advance t w = some r' := by
  simp only [next, List.mem_filterMap, take?]
  constructor
  · rintro ⟨t, _, h⟩
    split at h
    next hallows =>
      split at h
      next w rest' hmatch =>
        simp only [Option.map_eq_some_iff, Prod.mk.injEq] at h
        obtain ⟨_, hadvance, rfl, rfl⟩ := h
        exact ⟨t, w, hallows, hmatch, hadvance⟩
      next => contradiction
    next => contradiction
  · rintro ⟨t, w, hallows, hmatch, hadvance⟩
    exact ⟨t, Terminal.mem_all t, by simp [hallows, hmatch, hadvance]⟩

/-- Every continuation takes something from the text. -/
theorem length_lt_of_mem_next {r : Reading} {s : List Char} {p : Reading × List Char}
    (h : p ∈ r.next s) : p.2.length < s.length := by
  obtain ⟨_, _, _, hmatch, _⟩ := mem_next_iff.mp h
  exact Terminal.match?_length_lt hmatch

end Reading

end LogMarkup
