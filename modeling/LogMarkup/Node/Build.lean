import LogMarkup.Concrete
import LogMarkup.Node
import LogMarkup.Text.Numeral

/-!
# From concrete messages to nodes

Building understands the words of a concrete message: names of functions, tags and
objects, and numbers.  It goes through the message from left to right and from the
inside out, so that the first word that cannot be understood decides the error; a pair
of tags is compared after everything in it.

Main results:

- `BuildError.message_known`: a place that is known is shown behind the message.
- `Concrete.build_number`: which digits are understood as a number.
- `Concrete.build_call_eq_ok_iff`, `Concrete.build_single_eq_ok_iff`,
  `Concrete.build_pair_eq_ok_iff`, `Concrete.build_branch_eq_ok_iff`: what the other pieces
  are built of, and into what.
-/

namespace LogMarkup

/-- Two steps succeed when the first does and then the second. -/
theorem bind_eq_ok_iff {ε β γ : Type} {x : Except ε β} {f : β → Except ε γ} {c : γ} :
    (x >>= f) = .ok c ↔ ∃ b, x = .ok b ∧ f b = .ok c := by
  cases x with
  | error e => simp [bind, Except.bind]
  | ok b => simp [bind, Except.bind]

/-- Why a concrete message has no nodes.  A mark tells what is known of the offending
place. -/
inductive BuildError (α : Type) where
  /-- There is no tag of this name. -/
  | unknownTag (name : List Char) (mark : α)
  /-- There is no object of this name. -/
  | unknownObject (name : List Char) (mark : α)
  /-- A pair of tags with two different names. -/
  | mismatch (opened closed : List Char) (mark : α)
  /-- Digits that are too many to be understood, or a word that is no numeral. -/
  | unreadableNumber (digits : List Char)
  /-- There is no function of this name. -/
  | unknownFunction (name : List Char)
deriving DecidableEq, Repr

namespace BuildError

/-- The mark of the offending place. -/
def mark? {α : Type} : BuildError α → Option α
  | unknownTag _ m | unknownObject _ m | mismatch _ _ m => some m
  | unreadableNumber _ | unknownFunction _ => none

/-- The error without its place. -/
def reason {α : Type} : BuildError α → String
  | unknownTag name _ => "Unknown tag name (" ++ String.ofList name ++ ")"
  | unknownObject name _ => "Unknown object literal (" ++ String.ofList name ++ ")"
  | mismatch opened closed _ =>
      "Open and close tags do not match (" ++ String.ofList opened ++ ", " ++
        String.ofList closed ++ ")"
  | unreadableNumber _ => "Number out of range"
  | unknownFunction name => "Unknown function (" ++ String.ofList name ++ ")"

/-- How a column is shown that need not be known. -/
def columnText : Option Int → String
  | none => "None"
  | some column => toString column

/-- The error with its place, if the line is known. -/
def message (e : BuildError KnownPlace) : String :=
  match e.mark? with
  | some ⟨some line, column⟩ =>
      e.reason ++ " (line " ++ toString line ++ ", column " ++ columnText column ++ ")"
  | _ => e.reason

/-- The error with another mark. -/
def map {α β : Type} (f : α → β) : BuildError α → BuildError β
  | unknownTag name m => unknownTag name (f m)
  | unknownObject name m => unknownObject name (f m)
  | mismatch opened closed m => mismatch opened closed (f m)
  | unreadableNumber digits => unreadableNumber digits
  | unknownFunction name => unknownFunction name

/-- Another mark does not change what is said of the error itself. -/
theorem reason_map {α β : Type} (f : α → β) (e : BuildError α) : (e.map f).reason = e.reason := by
  cases e <;> rfl

/-- A place that is known is shown behind the message. -/
theorem message_known (name : List Char) (p : Place) :
    message (unknownTag name p.known) = reason (unknownTag name p) ++ " (line " ++
      toString (Int.ofNat p.line) ++ ", column " ++ toString (Int.ofNat p.column) ++ ")" := rfl

end BuildError

namespace Concrete

variable {α : Type}

/-- The function that a word names. -/
def functionName (w : Token α) : Except (BuildError α) FunctionName :=
  match FunctionName.ofChars? w.chars with
  | some f => .ok f
  | none => .error (.unknownFunction w.chars)

/-- The tag that a word names. -/
def tagName (w : Token α) : Except (BuildError α) TagName :=
  match TagName.ofChars? w.chars with
  | some t => .ok t
  | none => .error (.unknownTag w.chars w.mark)

/-- The object that a word names. -/
def objectName (w : Token α) : Except (BuildError α) ObjectName :=
  match ObjectName.ofChars? w.chars with
  | some o => .ok o
  | none => .error (.unknownObject w.chars w.mark)

/-- The number that a word denotes. -/
def numberValue (w : Token α) : Except (BuildError α) Int :=
  match Numeral.read? w.chars with
  | some i => .ok i
  | none => .error (.unreadableNumber w.chars)

/-- The node as the condition of a branch: there a tag without closing tag stands for
itself. -/
def asCondition : Concrete α → Node → Node
  | single .., .element t ps _ => .tag t ps
  | _, n => n

mutual

/-- The node of a part or parameter. -/
def build : Concrete α → Except (BuildError α) Node
  | text w => .ok (.text (String.ofList w.chars))
  | call n ps => do
      let name ← functionName n
      let params ← buildList ps
      return .call name params
  | single n ps => do
      let name ← tagName n
      let params ← buildList ps
      return .element name params none
  | pair mark n ps inner close => do
      let opened ← tagName n
      let params ← buildList ps
      let closed ← tagName close
      if opened = closed then
        return .element opened params (inner.map fun w => String.ofList w.chars)
      else throw (.mismatch opened.chars closed.chars mark)
  | branch c yes no => do
      let condition ← build c
      let yes ← buildList yes
      let no ← buildList no
      return .branch (c.asCondition condition) yes no
  | object n => do
      let name ← objectName n
      return .object name
  | number d => do
      let value ← numberValue d
      return .number value

/-- The nodes of a sequence of parts or parameters. -/
def buildList : List (Concrete α) → Except (BuildError α) (List Node)
  | [] => .ok []
  | x :: xs => do
      let n ← build x
      let ns ← buildList xs
      return n :: ns

end

/-! ## What the pieces are built of

The other lemmas open `build` with these equations, one for each kind of piece. -/

theorem build_text_eq (w : Token α) : (text w).build = .ok (.text (String.ofList w.chars)) :=
  rfl

theorem build_call_eq (w : Token α) (ps : List (Concrete α)) :
    (call w ps).build =
      functionName w >>= fun f => buildList ps >>= fun ns => .ok (.call f ns) :=
  rfl

theorem build_single_eq (w : Token α) (ps : List (Concrete α)) :
    (single w ps).build =
      tagName w >>= fun t => buildList ps >>= fun ns => .ok (.element t ns none) :=
  rfl

theorem build_pair_eq (mark : α) (w close : Token α) (ps : List (Concrete α))
    (inner : Option (Token α)) :
    (pair mark w ps inner close).build =
      tagName w >>= fun t => buildList ps >>= fun ns => tagName close >>= fun t' =>
        if t = t' then .ok (.element t ns (inner.map fun v => String.ofList v.chars))
        else .error (.mismatch t.chars t'.chars mark) :=
  rfl

theorem build_branch_eq (c : Concrete α) (yes no : List (Concrete α)) :
    (branch c yes no).build =
      c.build >>= fun k => buildList yes >>= fun ys => buildList no >>= fun ns =>
        .ok (.branch (c.asCondition k) ys ns) :=
  rfl

theorem build_object_eq (w : Token α) :
    (object w).build = objectName w >>= fun o => .ok (.object o) :=
  rfl

theorem build_number_eq (w : Token α) :
    (number w).build = numberValue w >>= fun i => .ok (.number i) :=
  rfl

theorem buildList_nil_eq : buildList ([] : List (Concrete α)) = .ok [] :=
  rfl

theorem buildList_cons_eq (x : Concrete α) (xs : List (Concrete α)) :
    buildList (x :: xs) = x.build >>= fun n => buildList xs >>= fun ns => .ok (n :: ns) :=
  rfl

/-- Which digits are understood as a number. -/
theorem build_number {w : Token α} (hne : w.chars ≠ [])
    (h : ∀ d ∈ w.chars, d.isDigit = true) :
    (number w).build = if w.chars.length ≤ Digits.limit then
      .ok (.number (Int.ofNat (Digits.value w.chars))) else .error (.unreadableNumber w.chars) := by
  by_cases hlen : w.chars.length ≤ Digits.limit
  · simp only [build_number_eq, numberValue, Numeral.read?_of_isDigit hne h, if_pos hlen]
    rfl
  · simp only [build_number_eq, numberValue, Numeral.read?_of_isDigit hne h, if_neg hlen]
    rfl

/-! ## When building succeeds -/

/-- Digits are understood unless they are too many. -/
theorem build_number_eq_ok_iff {w : Token α} {n : Node} (hne : w.chars ≠ [])
    (h : ∀ d ∈ w.chars, d.isDigit = true) :
    (number w).build = .ok n ↔
      w.chars.length ≤ Digits.limit ∧ n = .number (Int.ofNat (Digits.value w.chars)) := by
  rw [build_number hne h]
  by_cases hlen : w.chars.length ≤ Digits.limit
  · simp [hlen, eq_comm]
  · simp [hlen]

/-- A name is found exactly for the text that spells it, where reading undoes spelling and
finds nothing else. -/
theorem ofChars?_eq_some_iff {β : Type} {ofChars? : List Char → Option β} {chars : β → List Char}
    (hfound : ∀ b, ofChars? (chars b) = some b)
    (hspelled : ∀ {cs b}, ofChars? cs = some b → chars b = cs) {cs : List Char} {b : β} :
    ofChars? cs = some b ↔ cs = chars b := by
  constructor
  · intro h
    exact (hspelled h).symm
  · rintro rfl
    exact hfound b

theorem functionName_eq_ok_iff {w : Token α} {f : FunctionName} :
    functionName w = .ok f ↔ w.chars = f.chars := by
  rw [← ofChars?_eq_some_iff FunctionName.ofChars?_chars FunctionName.chars_of_ofChars?,
    functionName]
  cases FunctionName.ofChars? w.chars <;> simp

theorem tagName_eq_ok_iff {w : Token α} {t : TagName} :
    tagName w = .ok t ↔ w.chars = t.chars := by
  rw [← ofChars?_eq_some_iff TagName.ofChars?_chars TagName.chars_of_ofChars?, tagName]
  cases TagName.ofChars? w.chars <;> simp

theorem objectName_eq_ok_iff {w : Token α} {o : ObjectName} :
    objectName w = .ok o ↔ w.chars = o.chars := by
  rw [← ofChars?_eq_some_iff ObjectName.ofChars?_chars ObjectName.chars_of_ofChars?, objectName]
  cases ObjectName.ofChars? w.chars <;> simp

theorem build_call_eq_ok_iff {w : Token α} {ps : List (Concrete α)} {n : Node} :
    (call w ps).build = .ok n ↔
      ∃ f ns, w.chars = FunctionName.chars f ∧ buildList ps = .ok ns ∧ n = .call f ns := by
  simp only [build_call_eq, bind_eq_ok_iff, functionName_eq_ok_iff, Except.ok.injEq]
  constructor
  · rintro ⟨f, hf, ns, hns, rfl⟩
    exact ⟨f, ns, hf, hns, rfl⟩
  · rintro ⟨f, ns, hf, hns, rfl⟩
    exact ⟨f, hf, ns, hns, rfl⟩

theorem build_single_eq_ok_iff {w : Token α} {ps : List (Concrete α)} {n : Node} :
    (single w ps).build = .ok n ↔
      ∃ t ns, w.chars = TagName.chars t ∧ buildList ps = .ok ns ∧ n = .element t ns none := by
  simp only [build_single_eq, bind_eq_ok_iff, tagName_eq_ok_iff, Except.ok.injEq]
  constructor
  · rintro ⟨t, ht, ns, hns, rfl⟩
    exact ⟨t, ns, ht, hns, rfl⟩
  · rintro ⟨t, ns, ht, hns, rfl⟩
    exact ⟨t, ht, ns, hns, rfl⟩

/-- The names of the two tags of a pair have to agree. -/
theorem build_pair_eq_ok_iff {mark : α} {w close : Token α} {ps : List (Concrete α)}
    {inner : Option (Token α)} {n : Node} :
    (pair mark w ps inner close).build = .ok n ↔
      ∃ t ns, (w.chars = TagName.chars t ∧ close.chars = TagName.chars t) ∧
        buildList ps = .ok ns ∧ n = .element t ns (inner.map fun v => String.ofList v.chars) := by
  simp only [build_pair_eq, bind_eq_ok_iff, tagName_eq_ok_iff]
  constructor
  · rintro ⟨t, ht, ns, hns, t', ht', h⟩
    split at h
    next heq =>
      subst heq
      exact ⟨t, ns, ⟨ht, ht'⟩, hns, (Except.ok.inj h).symm⟩
    next => contradiction
  · rintro ⟨t, ns, ⟨ht, ht'⟩, hns, rfl⟩
    refine ⟨t, ht, ns, hns, t, ht', ?_⟩
    rw [if_pos rfl]

theorem build_branch_eq_ok_iff {c : Concrete α} {yes no : List (Concrete α)} {n : Node} :
    (branch c yes no).build = .ok n ↔
      ∃ k ys ns, c.build = .ok k ∧ buildList yes = .ok ys ∧ buildList no = .ok ns ∧
        n = .branch (c.asCondition k) ys ns := by
  simp only [build_branch_eq, bind_eq_ok_iff, Except.ok.injEq]
  constructor
  · rintro ⟨k, hk, ys, hys, ns, hns, rfl⟩
    exact ⟨k, ys, ns, hk, hys, hns, rfl⟩
  · rintro ⟨k, ys, ns, hk, hys, hns, rfl⟩
    exact ⟨k, hk, ys, hys, ns, hns, rfl⟩

theorem build_object_eq_ok_iff {w : Token α} {n : Node} :
    (object w).build = .ok n ↔ ∃ o, w.chars = ObjectName.chars o ∧ n = .object o := by
  simp only [build_object_eq, bind_eq_ok_iff, objectName_eq_ok_iff, Except.ok.injEq]
  simp only [eq_comm]

theorem build_number_eq_ok {w : Token α} {n : Node} (h : (number w).build = .ok n) :
    ∃ i, n = .number i := by
  simp only [build_number_eq, bind_eq_ok_iff, Except.ok.injEq] at h
  obtain ⟨i, -, rfl⟩ := h
  exact ⟨i, rfl⟩

theorem buildList_cons_eq_ok_iff {x : Concrete α} {xs : List (Concrete α)} {ns : List Node} :
    buildList (x :: xs) = .ok ns ↔
      ∃ n ns', x.build = .ok n ∧ buildList xs = .ok ns' ∧ ns = n :: ns' := by
  simp only [buildList_cons_eq, bind_eq_ok_iff, Except.ok.injEq]
  constructor
  · rintro ⟨n, hn, ns', hns', rfl⟩
    exact ⟨n, ns', hn, hns', rfl⟩
  · rintro ⟨n, ns', hn, hns', rfl⟩
    exact ⟨n, hn, ns', hns', rfl⟩

end Concrete

end LogMarkup
