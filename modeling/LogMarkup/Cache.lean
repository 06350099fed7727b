import LogMarkup.Disk
import LogMarkup.Markup

/-!
# Caches of reductions

Reductions can be kept in a directory that a setting names.  A markup whose reduction
is kept is not reduced again; one that has no reduction is never kept.  Clearing
removes the directory.

Inside its directory a cache keeps the reductions on a shelf, some directories further
down, and puts beside it a file that tells version control to ignore the cache.  A
setting can also name a directory on the way to a shelf, or that file.

Main results:

- `Cache.reduce_of_off`: without a usable directory markup is simply reduced.
- `Cache.stored_reduce_of_error`: a markup without a reduction changes nothing.
-/

namespace LogMarkup

/-- A cache of reductions. -/
structure Cache where
  /-- The disk on which reductions are kept. -/
  disk : Disk
  /-- The directory that the setting names; none if the cache is off. -/
  directory : Option Path
  /-- The directory that is used; none if the cache is off or the directory cannot be
  made. -/
  location : Option Path

namespace Cache

/-- What a cache reports. -/
inductive Note where
  /-- The cache is off, so that there is nothing to clear. -/
  | off
  /-- The directory is not there. -/
  | nothingAt (p : Path)
  /-- The directory was removed. -/
  | removed (p : Path)
  /-- The directory could not be removed. -/
  | notRemoved (p : Path)
  /-- The directory cannot be used. -/
  | unusable (p : Path)
deriving DecidableEq, Repr

/-- A report in words. -/
def Note.message : Note → String
  | off => "Reduction cache is off, nothing to clear"
  | nothingAt p => "No reduction cache at " ++ p.text
  | removed p => "Removed reduction cache " ++ p.text
  | notRemoved p => "Could not remove reduction cache " ++ p.text
  | unusable p => "Cannot use cache directory " ++ p.text ++ ", caching disabled"

/-- The cache that is off. -/
def off (disk : Disk) : Cache := ⟨disk, none, none⟩

/-- The settings, in small letters, that turn the cache off. -/
def offSettings : List String := ["0", "false", ""]

/-- The directory that a setting names; none if it turns the cache off. -/
def directoryOf (setting : Option String) : Option Path :=
  match setting with
  | none => none
  | some s => if s.toLower ∈ offSettings then none else some (Path.ofString s)

/-- The names of the directories that lead from the directory of a cache to the shelf,
each inside the one before. -/
def shelfNames : List (List Char) :=
  ["joblib", "emoteparser", "cache", "reduce_markup"].map String.toList

/-- Where the cache in a directory keeps its reductions. -/
def shelf (p : Path) : Path := p.append shelfNames

/-- The name of the file that tells version control to ignore a cache. -/
def ignoreName : List Char := ".gitignore".toList

/-- The disk on which version control is told to ignore the cache in a directory, unless
there is something of that name already. -/
def ignore (d : Disk) (p : Path) : Except Disk.Failure Disk :=
  if d.contains (p.append [ignoreName]) then .ok d else d.write (p.append [ignoreName]) "*\n"

/-- The disk on which a directory was prepared for a cache, and whether that was
possible. -/
def prepare (d : Disk) (p : Path) : Disk × Bool :=
  match d.makeDirectories p with
  | (d, .error _) => (d, false)
  | (d, .ok _) =>
      match d.ensure (p.append (shelfNames.take 1)) with
      | (d, .error _) => (d, false)
      | (d, .ok ()) =>
          match ignore d p with
          | .error _ => (d, false)
          | .ok d => (d, true)

/-- The cache after a change of the setting, and what it reports.  It fails if the
setting holds a null character, and if the directory can be used, but a file is in the
way to the shelf. -/
def configure (c : Cache) (setting : Option String) : Except Disk.Failure (Cache × List Note) :=
  match directoryOf setting with
  | none => .ok (off c.disk, [])
  | some p =>
      if p.holdsNull then .error .nullInPath
      else match prepare c.disk p with
      | (disk, false) => .ok (⟨disk, some p, none⟩, [.unusable p])
      | (disk, true) =>
          match disk.ensure (shelf p) with
          | (_, .error f) => .error f
          | (disk, .ok ()) => .ok (⟨disk, some p, some p⟩, [])

/-- The reduction of a markup that is kept. -/
def kept? (c : Cache) (markup : String) : Option Reduction := do
  let p ← c.location
  let s ← (c.disk.locate (shelf p)).toOption
  c.disk.find? s markup

/-- The cache in which the reduction of a markup is kept, if that is possible. -/
def keep (c : Cache) (markup : String) (r : Reduction) : Cache :=
  match c.location with
  | none => c
  | some p =>
      match c.disk.makeDirectories (shelf p) with
      | (disk, .ok s) => { c with disk := disk.store s markup r }
      | (disk, .error _) => { c with disk := disk }

/-- The reduction of a markup, kept or new, and the cache afterwards. -/
def reduce (c : Cache) (markup : String) : Except MarkupError Reduction × Cache :=
  match c.kept? markup with
  | some r => (.ok r, c)
  | none =>
      match Markup.reduce markup with
      | .ok r => (.ok r, c.keep markup r)
      | .error e => (.error e, c)

/-- The cache after its directory was removed, and what it reports.  It fails if the
directory has a name that is too long for any directory. -/
def clear (c : Cache) : Except Disk.Failure (Cache × List Note) :=
  match c.directory with
  | none => .ok (c, [.off])
  | some p =>
      match c.disk.locate p with
      | .error .nameTooLong => .error .nameTooLong
      | .error _ => .ok (c, [.nothingAt p])
      | .ok _ =>
          match c.disk.removeDirectory p with
          | (disk, true) => .ok ({ c with disk := disk }, [.removed p])
          | (disk, false) => .ok ({ c with disk := disk }, [.notRemoved p])

/-- The reductions that are kept below the directory in which the program runs. -/
def stored (c : Cache) : List Stored :=
  c.disk.stored.filter (·.directory.isWithin .here)

/-- Without a usable directory markup is simply reduced. -/
theorem reduce_of_off {c : Cache} (h : c.location = none) (markup : String) :
    c.reduce markup = (Markup.reduce markup, c) := by
  simp only [reduce, kept?, keep, h]
  cases Markup.reduce markup <;> rfl

/-- A markup without a reduction changes nothing. -/
theorem stored_reduce_of_error {c : Cache} {markup : String} {e : MarkupError}
    (h : Markup.reduce markup = .error e) : (c.reduce markup).2 = c := by
  simp only [reduce, h]
  cases c.kept? markup <;> rfl

end Cache

end LogMarkup
