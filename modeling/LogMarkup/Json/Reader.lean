import LogMarkup.Json.Symbol

/-!
# Reading JSON

The symbols of a JSON text are taken one by one.  In between, a stack holds the lists
and objects that are open, and a focus says what may come next.

Main results:

- `Json.parse?_eq_some_iff`: a text is read exactly when its symbols lead to one value
  with nothing open around it.
-/

namespace LogMarkup

namespace Json

/-- What is open, with what was read of it, latest first. -/
inductive Frame where
  /-- A list. -/
  | list (read : List Json)
  /-- An object, inside the field of a given name. -/
  | object (read : List (String × Json)) (name : String)

/-- What may come next. -/
inductive Focus where
  /-- A value. -/
  | value
  /-- The first value of a list, or the end of the list. -/
  | first
  /-- The name of a field; when it may be the first one, also the end of the object. -/
  | name (mayClose : Bool) (read : List (String × Json))
  /-- The colon behind a name. -/
  | colon (read : List (String × Json)) (name : String)
  /-- What may follow a value that is complete. -/
  | behind (value : Json)

/-- A JSON text of which a front part was read. -/
structure Progress where
  /-- What may come next. -/
  focus : Focus
  /-- What is open, from the inside out. -/
  frames : List Frame

namespace Progress

/-- Nothing was read. -/
def initial : Progress := ⟨.value, []⟩

/-- The progress with a value begun by the symbol. -/
def begin? (frames : List Frame) : Symbol → Option Progress
  | .scalar v => some ⟨.behind v, frames⟩
  | .openBracket => some ⟨.first, .list [] :: frames⟩
  | .openBrace => some ⟨.name true [], frames⟩
  | _ => none

/-- The progress after one more symbol, if that may come next. -/
def step? (p : Progress) (x : Symbol) : Option Progress :=
  match p.focus, x, p.frames with
  | .first, .closeBracket, .list [] :: frames => some ⟨.behind (.list []), frames⟩
  | .value, _, frames | .first, _, frames => begin? frames x
  | .name _ read, .scalar (.string name), frames => some ⟨.colon read name, frames⟩
  | .name true read, .closeBrace, frames => some ⟨.behind (.object read.reverse), frames⟩
  | .colon read name, .colon, frames => some ⟨.value, .object read name :: frames⟩
  | .behind v, .comma, .list read :: frames => some ⟨.value, .list (v :: read) :: frames⟩
  | .behind v, .comma, .object read name :: frames =>
      some ⟨.name false ((name, v) :: read), frames⟩
  | .behind v, .closeBracket, .list read :: frames =>
      some ⟨.behind (.list (v :: read).reverse), frames⟩
  | .behind v, .closeBrace, .object read name :: frames =>
      some ⟨.behind (.object ((name, v) :: read).reverse), frames⟩
  | _, _, _ => none

/-- The value, if the text may end here. -/
def finished? : Progress → Option Json
  | ⟨.behind v, []⟩ => some v
  | _ => none

end Progress

/-- The value that a text denotes. -/
def parse? (s : String) : Option Json := do
  let symbols ← Symbol.all? s.toList
  let progress ← symbols.foldlM Progress.step? Progress.initial
  progress.finished?

/-- A text is read exactly when its symbols lead to one value with nothing open around
it. -/
theorem parse?_eq_some_iff {s : String} {v : Json} :
    parse? s = some v ↔ ∃ symbols, Symbol.all? s.toList = some symbols ∧
      symbols.foldlM Progress.step? Progress.initial = some ⟨.behind v, []⟩ := by
  have hfinished : ∀ p : Progress, p.finished? = some v ↔ p = ⟨.behind v, []⟩ := by
    rintro ⟨focus, frames⟩
    cases focus <;> cases frames <;> simp [Progress.finished?]
  simp [parse?, Option.bind_eq_some_iff, hfinished]

end Json

end LogMarkup
