import LogMarkup.Binary64

/-!
# JSON values

A JSON value keeps the fields of an object in their order.  Whole numbers are exact;
a number with a fraction or an exponent is a number of double precision.

Main results:

- `Json.field?_append_single`: of several fields with one name the last one counts.
-/

namespace LogMarkup

/-- A JSON value. -/
inductive Json where
  /-- The literal `null`. -/
  | null
  /-- One of the literals `true` and `false`. -/
  | bool (value : Bool)
  /-- A number without fraction and exponent. -/
  | whole (value : Int)
  /-- A number with a fraction or an exponent, or one that is not finite. -/
  | real (value : Binary64)
  /-- A string. -/
  | string (value : String)
  /-- A list. -/
  | list (values : List Json)
  /-- An object with its fields in order. -/
  | object (fields : List (String × Json))
deriving Repr

namespace Json

/-- The value of the last field of a given name. -/
def field? (fields : List (String × Json)) (name : String) : Option Json :=
  (fields.reverse.find? (·.1 = name)).map Prod.snd

/-- Of several fields with one name the last one counts. -/
@[simp] theorem field?_append_single (fields : List (String × Json)) (name : String)
    (value : Json) : field? (fields ++ [(name, value)]) name = some value := by
  simp [field?]

/-- A field of another name makes no difference. -/
theorem field?_append_single_of_ne (fields : List (String × Json)) {name other : String}
    (value : Json) (h : other ≠ name) :
    field? (fields ++ [(other, value)]) name = field? fields name := by
  simp [field?, h]

end Json

end LogMarkup
