import LogMarkup.Concrete.Reading
import LogMarkup.Text.Quoted

/-!
# Reading markup

A chain is a sequence of terminals, each allowed behind the ones before it and each
the longest match at its place.  Markup is read by following all chains.  If one of
them reaches the end of the text with a complete message, that message is the result.
Otherwise the error is reported where the chains got furthest, and lists every
terminal that one of the chains ending there could have gone on with.

Main results:

- `explore_eq`: exploring a reading merges what its continuations lead to.
- `Outcome.merge_stuck_left`: of two failures the one that got further is kept.
-/

namespace LogMarkup

/-- What the chains that go on from a reading lead to. -/
inductive Outcome where
  /-- One of them is a complete message. -/
  | finished (message : List Part)
  /-- None is.  The furthest ones leave `left` characters unread, and would go on with
  one of the expected terminals. -/
  | stuck (left : Nat) (expected : List Terminal)

namespace Outcome

/-- What two sets of chains lead to together. -/
def merge : Outcome → Outcome → Outcome
  | finished m, _ => finished m
  | stuck .., finished m => finished m
  | stuck l e, stuck l' e' =>
      if l < l' then stuck l e else if l' < l then stuck l' e' else stuck l (e ++ e')

/-- Of two failures the one that leaves less is kept. -/
theorem merge_stuck_left {l l' : Nat} {e e' : List Terminal} (h : l < l') :
    merge (stuck l e) (stuck l' e') = stuck l e := by
  simp [merge, h]

/-- Two failures at one place expect what either expects. -/
theorem merge_stuck_same {l : Nat} {e e' : List Terminal} :
    merge (stuck l e) (stuck l e') = stuck l (e ++ e') := by
  simp [merge]

end Outcome

namespace Reading

/-- What the chain that stops at this reading, before `s`, amounts to. -/
def stop (r : Reading) (s : List Char) : Outcome :=
  match s, r.finished? with
  | [], some m => .finished m
  | _, _ => .stuck s.length r.allowed

/-- What the chains from this reading over `s` lead to. -/
def explore (r : Reading) (s : List Char) : Outcome :=
  ((r.next s).attach.map fun p => explore p.1.1 p.1.2).foldl Outcome.merge (r.stop s)
termination_by s.length
decreasing_by exact length_lt_of_mem_next p.2

/-- Exploring a reading merges what its continuations lead to. -/
theorem explore_eq (r : Reading) (s : List Char) :
    r.explore s = ((r.next s).map fun p => p.1.explore p.2).foldl Outcome.merge (r.stop s) := by
  rw [explore, List.attach_map_val (f := fun p : Reading × List Char => p.1.explore p.2)]

end Reading

/-! ## Errors -/

/-- Why and where markup cannot be read. -/
structure ReadError where
  /-- The furthest place that could be reached. -/
  place : Place
  /-- The character that stands there; nothing at the end of the text. -/
  found : Option Char
  /-- What could have stood there, in the order of the labels. -/
  expected : List Terminal
deriving DecidableEq, Repr

namespace ReadError

/-- The error in one line. -/
def summary (e : ReadError) : String :=
  match e.found with
  | none => "Unexpected end of log message"
  | some _ =>
      "Parse error at line " ++ toString e.place.line ++ ", column " ++ toString e.place.column

/-- The error with its place and with what was expected. -/
def message (e : ReadError) : String :=
  let placed := "Error: " ++ e.summary ++ "\n  At: line " ++ toString e.place.line ++
    ", column " ++ toString e.place.column
  match e.expected with
  | [] => placed
  | _ => placed ++ "\n  Expected: " ++ String.intercalate ", " (e.expected.map Terminal.label)

/-- The error with the offending character. -/
def report (e : ReadError) : String :=
  match e.found with
  | none => e.message
  | some c => e.message ++ "\n  Got: " ++ String.ofList (Quoted.ofChars [c])

end ReadError

/-! ## The parser -/

namespace Concrete

/-- The error of markup whose furthest chains leave `left` characters unread. -/
def errorAt (s : List Char) (left : Nat) (expected : List Terminal) : ReadError :=
  let offset := s.length - left
  { place := Place.start.after (s.take offset)
    found := (s.drop offset).head?
    expected := Terminal.all.filter (· ∈ expected) }

/-- The message that a markup spells. -/
def parse (s : List Char) : Except ReadError (List Part) :=
  match Reading.initial.explore s with
  | .finished m => .ok m
  | .stuck left expected => .error (errorAt s left expected)

/-- The message that a markup spells, with the places of its words. -/
def parseLocated (s : List Char) : Except ReadError (List (Concrete Place)) :=
  (parse s).map (locateList Place.start)

end Concrete

end LogMarkup
