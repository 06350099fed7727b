import LogMarkup.Disk.Path
import LogMarkup.Reduction

/-!
# Disks

A disk holds directories, files, and reductions that were stored in directories.
Everything is found by walking: each step leads from a directory to something in it,
or to the directory above.

Main results:

- `Disk.makeDirectories_stored`: making directories loses no stored reduction.
- `Disk.find?_store_self`: a reduction that was stored is found.
-/

namespace LogMarkup

/-- From where a place on a disk is described. -/
inductive Base where
  /-- The root of the disk. -/
  | root
  /-- The directory so many levels above the one in which the program runs. -/
  | above (levels : Nat)
deriving DecidableEq, Repr

/-- A place on a disk. -/
structure Spot where
  /-- From where the place is described. -/
  base : Base
  /-- The names that lead there, each inside the one before. -/
  names : List (List Char)
deriving DecidableEq, Repr

namespace Spot

/-- The directory in which the program runs. -/
def here : Spot := ⟨.above 0, []⟩

/-- What is called `name` in this directory. -/
def child (s : Spot) (name : List Char) : Spot := { s with names := s.names ++ [name] }

/-- The directory above. -/
def parent (s : Spot) : Spot :=
  match s.names, s.base with
  | [], .root => s
  | [], .above levels => ⟨.above (levels + 1), []⟩
  | _ :: _, _ => { s with names := s.names.dropLast }

/-- Does the place lie inside the directory `d`? -/
def isInside (s d : Spot) : Bool :=
  match s.base, d.base with
  | .above n, .above m =>
      if n = m then d.names.isPrefixOf s.names && s.names != d.names
      else decide (n < m) && d.names.isEmpty
  | .root, .root => d.names.isPrefixOf s.names && s.names != d.names
  | _, _ => false

/-- Is the place `d`, or does it lie inside it? -/
def isWithin (s d : Spot) : Bool := s == d || s.isInside d

end Spot

/-- From where a path is walked. -/
def Path.begin (p : Path) : Spot := if p.lead = [] then .here else ⟨.root, []⟩

/-- A reduction that is stored in a directory. -/
structure Stored where
  /-- The directory. -/
  directory : Spot
  /-- The markup that was reduced. -/
  markup : String
  /-- Its reduction. -/
  reduction : Reduction
deriving DecidableEq, Repr

/-- What is on a disk. -/
structure Disk where
  /-- The directories; those from where places are described always exist. -/
  directories : List Spot
  /-- The files with their texts. -/
  files : List (Spot × String)
  /-- The reductions that are stored. -/
  stored : List Stored

namespace Disk

/-- Nothing is on the disk. -/
def empty : Disk := ⟨[], [], []⟩

/-- Is there a directory? -/
def isDirectory (d : Disk) (s : Spot) : Bool := s.names.isEmpty || s ∈ d.directories

/-- The text of a file, if there is one. -/
def file? (d : Disk) (s : Spot) : Option String := (d.files.find? (·.1 = s)).map Prod.snd

/-! ## Walking -/

/-- Why a walk or a reading fails. -/
inductive Failure where
  /-- There is nothing of that name. -/
  | notFound
  /-- A step leads on from a file. -/
  | notADirectory
  /-- What should be read or written is a directory. -/
  | isADirectory
  /-- There is something of that name already. -/
  | alreadyThere
  /-- A name or a path is too long. -/
  | nameTooLong
  /-- The path holds a null character. -/
  | nullInPath
  /-- Something else, in the system's words. -/
  | other (words : String)
deriving DecidableEq, Repr

/-- The system's number and words for a failure. -/
def Failure.text : Failure → String
  | notFound => "[Errno 2] No such file or directory"
  | notADirectory => "[Errno 20] Not a directory"
  | alreadyThere => "[Errno 17] File exists"
  | isADirectory => "[Errno 21] Is a directory"
  | nameTooLong => "[Errno 36] File name too long"
  | nullInPath => "embedded null byte"
  | other words => words

/-- Where the steps lead from `s`. -/
def walk (d : Disk) (s : Spot) : List (List Char) → Except Failure Spot
  | [] => .ok s
  | step :: steps =>
      if !d.isDirectory s then .error .notADirectory
      else if step = Path.up then walk d s.parent steps
      else if Path.isTooLongName step then .error .nameTooLong
      else
        let next := s.child step
        if d.isDirectory next || (d.file? next).isSome then walk d next steps
        else .error .notFound

/-- What is wrong with a path on every disk. -/
def pathFailure? (p : Path) : Option Failure :=
  if p.holdsNull then some .nullInPath else if p.isTooLong then some .nameTooLong else none

/-- Where a path leads. -/
def locate (d : Disk) (p : Path) : Except Failure Spot :=
  match pathFailure? p with
  | some f => .error f
  | none => d.walk p.begin p.steps

/-- Does the path lead anywhere? -/
def contains (d : Disk) (p : Path) : Bool := (d.locate p).isOk

/-- The text of the file to which a path leads. -/
def read (d : Disk) (p : Path) : Except Failure String := do
  let s ← d.locate p
  match d.file? s with
  | some text => return text
  | none => throw .isADirectory

/-! ## Making and removing -/

/-- The disk with a directory for each of the steps from `s`, and where they lead.  The
steps stop at a file and at a name that is too long; the directories before it stay. -/
def makeFrom (d : Disk) (s : Spot) : List (List Char) → Disk × Except Failure Spot
  | [] => (d, .ok s)
  | step :: steps =>
      if step = Path.up then makeFrom d s.parent steps
      else if Path.isTooLongName step then (d, .error .nameTooLong)
      else
        let next := s.child step
        if d.isDirectory next then makeFrom d next steps
        else if (d.file? next).isSome then
          (d, .error (if steps = [] then .alreadyThere else .notADirectory))
        else makeFrom { d with directories := next :: d.directories } next steps

/-- The disk with a directory for each step of a path, and where it leads. -/
def makeDirectories (d : Disk) (p : Path) : Disk × Except Failure Spot :=
  match pathFailure? p with
  | some f => (d, .error f)
  | none => d.makeFrom p.begin p.steps

/-- The disk with something at the end of a path: what is there, or else a directory. -/
def ensure (d : Disk) (p : Path) : Disk × Except Failure Unit :=
  if d.contains p then (d, .ok ())
  else
    let (d, s) := d.makeDirectories p
    (d, s.map fun _ => ())

/-- Making directories loses no stored reduction. -/
theorem makeDirectories_stored (d : Disk) (p : Path) :
    (d.makeDirectories p).1.stored = d.stored := by
  have hfrom : ∀ (steps : List (List Char)) (d : Disk) (s : Spot),
      (d.makeFrom s steps).1.stored = d.stored := by
    intro steps
    induction steps with
    | nil => intro d s; rfl
    | cons step steps ih =>
      intro d s
      rw [makeFrom]
      split
      · exact ih d _
      · split
        · rfl
        · dsimp only
          split
          · exact ih d _
          · split
            · rfl
            · exact ih _ _
  unfold makeDirectories
  split
  · rfl
  · exact hfrom p.steps d p.begin

/-- The disk with a file of the given name in the directory `s`.  A directory of that
name is in the way. -/
def writeIn (d : Disk) (s : Spot) (name : List Char) (text : String) : Except Failure Disk :=
  if Path.isTooLongName name then .error .nameTooLong
  else if d.isDirectory (s.child name) then .error .isADirectory
  else .ok { d with files := (s.child name, text) :: d.files }

/-- The disk with a file at the end of a path, below directories that are made for it. -/
def write (d : Disk) (p : Path) (text : String) : Except Failure Disk :=
  match pathFailure? p, p.steps.getLast? with
  | some f, _ => .error f
  | none, none => .error .isADirectory
  | none, some name =>
      match d.makeFrom p.begin p.steps.dropLast with
      | (_, .error f) => .error f
      | (d, .ok s) => d.writeIn s name text

/-- The disk without everything at the places that are `gone`. -/
def without (d : Disk) (gone : Spot → Bool) : Disk where
  directories := d.directories.filter fun s => !gone s
  files := d.files.filter fun f => !gone f.1
  stored := d.stored.filter fun e => !gone e.directory

/-- The disk without what is inside the directory `s`. -/
def clear (d : Disk) (s : Spot) : Disk :=
  { d.without (·.isInside s) with
    stored := d.stored.filter fun e => !e.directory.isWithin s }

/-- The disk without the directory to which a path leads, and whether that could be
removed.  A file is not removed.  A path that does not end in a name leads to a
directory that can only be emptied. -/
def removeDirectory (d : Disk) (p : Path) : Disk × Bool :=
  match d.locate p with
  | .error _ => (d, false)
  | .ok s =>
      if !d.isDirectory s then (d, false)
      else if p.endsInName then (d.without (·.isWithin s), true)
      else (d.clear s, false)

/-! ## Stored reductions -/

/-- The reduction of a markup that is stored in a directory. -/
def find? (d : Disk) (s : Spot) (markup : String) : Option Reduction :=
  (d.stored.find? fun e => e.directory = s ∧ e.markup = markup).map Stored.reduction

/-- The disk with a reduction stored in a directory, in the place of one of the same
markup. -/
def store (d : Disk) (s : Spot) (markup : String) (r : Reduction) : Disk :=
  { d with
    stored := ⟨s, markup, r⟩ :: d.stored.filter fun e => ¬(e.directory = s ∧ e.markup = markup) }

/-- A reduction that was stored is found. -/
theorem find?_store_self (d : Disk) (s : Spot) (markup : String) (r : Reduction) :
    (d.store s markup r).find? s markup = some r := by
  simp [store, find?]

end Disk

end LogMarkup
