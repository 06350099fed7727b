import LogMarkup.Json.Reader
import LogMarkup.Text.Integer

/-!
# Typed values from JSON

A JSON value is checked against what is expected in its place.  All issues are
collected, in the order in which the parts of the value are checked; each names its
place in the value.

Main results:

- `Json.Checked.both_eq_ok_iff`: two checks together succeed exactly when both do.
-/

namespace LogMarkup

namespace Json

/-- A step into a JSON value. -/
inductive Step where
  /-- Into a list. -/
  | index (i : Nat)
  /-- Into an object. -/
  | field (name : String)
deriving DecidableEq, Repr

/-- What is wrong with a value. -/
inductive Fault where
  /-- The text is no JSON. -/
  | noJson
  /-- A list is expected. -/
  | noList
  /-- An object is expected. -/
  | noObject
  /-- A required field is not there. -/
  | missing
  /-- A string is expected. -/
  | noString
  /-- One of a few given strings is expected. -/
  | noChoice
  /-- A value of a kind that can say a truth value is expected. -/
  | noBool
  /-- The value says no truth value. -/
  | unknownBool
  /-- A value of a kind that can say an integer is expected. -/
  | noInteger
  /-- The string says no integer. -/
  | unknownInteger
  /-- The integer is too large to be taken. -/
  | hugeInteger
  /-- The number has a fraction. -/
  | fraction
  /-- The number is not finite. -/
  | infinite
deriving DecidableEq, Repr

/-- The code of a fault. -/
def Fault.code : Fault → String
  | noJson => "json_invalid"
  | noList => "list_type"
  | noObject => "model_type"
  | missing => "missing"
  | noString => "string_type"
  | noChoice => "enum"
  | noBool => "bool_type"
  | unknownBool => "bool_parsing"
  | noInteger => "int_type"
  | unknownInteger => "int_parsing"
  | hugeInteger => "int_parsing_size"
  | fraction => "int_from_float"
  | infinite => "finite_number"

/-- What is wrong with a value, and where. -/
structure Issue where
  /-- What is wrong. -/
  fault : Fault
  /-- The steps from the whole value to the place, outermost first. -/
  path : List Step
deriving DecidableEq, Repr

/-- The issue, seen from one step further outside. -/
def Issue.inside (s : Step) (i : Issue) : Issue := { i with path := s :: i.path }

/-- A value that was checked, or the issues that were found. -/
abbrev Checked (α : Type) := Except (List Issue) α

namespace Checked

variable {α β : Type}

/-- One fault, and no value. -/
def fail (f : Fault) : Checked α := .error [⟨f, []⟩]

/-- The check, seen from one step further outside. -/
def inside (s : Step) (a : Checked α) : Checked α := a.mapError (·.map (Issue.inside s))

/-- Two checks, one after the other; the issues of both are collected. -/
def both (a : Checked α) (b : Checked β) : Checked (α × β) :=
  match a, b with
  | .ok x, .ok y => .ok (x, y)
  | .ok _, .error es => .error es
  | .error es, .ok _ => .error es
  | .error es, .error fs => .error (es ++ fs)

/-- Two checks together succeed exactly when both do. -/
theorem both_eq_ok_iff {a : Checked α} {b : Checked β} {x : α} {y : β} :
    both a b = .ok (x, y) ↔ a = .ok x ∧ b = .ok y := by
  cases a <;> cases b <;> simp [both]

/-- Every value of a list is checked, the first one being at index `i`. -/
def eachFrom (f : Json → Checked α) (i : Nat) : List Json → Checked (List α)
  | [] => .ok []
  | v :: vs => (both (inside (.index i) (f v)) (eachFrom f (i + 1) vs)).map fun p => p.1 :: p.2

end Checked

/-- A list whose values pass a check. -/
def asList {α : Type} (f : Json → Checked α) : Json → Checked (List α)
  | .list vs => Checked.eachFrom f 0 vs
  | _ => .fail .noList

/-- The fields of an object. -/
def asObject : Json → Checked (List (String × Json))
  | .object fields => .ok fields
  | _ => .fail .noObject

/-- A string. -/
def asString : Json → Checked String
  | .string s => .ok s
  | _ => .fail .noString

/-- One of the values that strings can name. -/
def asChoice {α : Type} (ofString? : String → Option α) : Json → Checked α
  | .string s =>
      match ofString? s with
      | some a => .ok a
      | none => .fail .noChoice
  | _ => .fail .noChoice

/-- A value, or `null` for none. -/
def asOptional {α : Type} (f : Json → Checked α) : Json → Checked (Option α)
  | .null => .ok none
  | v => (f v).map some

/-- The words for yes, in small letters. -/
def yesWords : List String := ["true", "t", "yes", "y", "on", "1"]

/-- The words for no, in small letters. -/
def noWords : List String := ["false", "f", "no", "n", "off", "0"]

/-- The bound of the integers of 64 bits. -/
def wordBound : Int := Int.pow 2 63

/-- The truth value that an integer says. -/
def boolOfInt (i : Int) : Checked Bool :=
  if i = 0 then .ok false else if i = 1 then .ok true else .fail .unknownBool

/-- A truth value: a literal, one of the numbers 1 and 0, or a word for yes or no in
any case.  A number that is no integer of 64 bits is not of a kind that says one. -/
def asBool : Json → Checked Bool
  | .bool b => .ok b
  | .whole i => if -wordBound ≤ i ∧ i < wordBound then boolOfInt i else .fail .noBool
  | .real x =>
      match x.toInt? with
      | some i => if -wordBound < i ∧ i < wordBound then boolOfInt i else .fail .noBool
      | none => .fail .noBool
  | .string s =>
      if s.toLower ∈ yesWords then .ok true
      else if s.toLower ∈ noWords then .ok false
      else .fail .unknownBool
  | .null | .list _ | .object _ => .fail .noBool

/-- An integer: a whole number, a number of double precision that is whole, a truth
value as 1 or 0, or a string that says an integer. -/
def asInteger : Json → Checked Int
  | .whole i => .ok i
  | .bool b => .ok (if b then 1 else 0)
  | .real x =>
      if x.isFinite then
        match x.toInt? with
        | some i => if -wordBound < i ∧ i < wordBound then .ok i else .fail .hugeInteger
        | none => .fail .fraction
      else .fail .infinite
  | .string s =>
      match WrittenInteger.read s.toList with
      | .value i => .ok i
      | .tooLong => .fail .hugeInteger
      | .malformed => .fail .unknownInteger
  | .null | .list _ | .object _ => .fail .noInteger

/-- The field of a given name, which has to be there. -/
def required {α : Type} (f : Json → Checked α) (fields : List (String × Json)) (name : String) :
    Checked α :=
  .inside (.field name) <|
    match field? fields name with
    | some v => f v
    | none => .fail .missing

/-- The field of a given name, or a default if it is not there. -/
def optional {α : Type} (f : Json → Checked α) (default : α) (fields : List (String × Json))
    (name : String) : Checked α :=
  .inside (.field name) <|
    match field? fields name with
    | some v => f v
    | none => .ok default

end Json

end LogMarkup
