import Tunnel.Errno
import Tunnel.Text.Split
import Tunnel.Text.Utf8

/-!
# A directory of files

Files and directories below one directory, in which paths are resolved as the system does it: a path
leads through directories one name at a time, a file in the middle of it is a failure, and so is a
name too long to be kept. Nothing is known of the entries outside the directory, so that no name
leads on from there.

## Main definitions

* `Directory` — the entries below a directory
* `Directory.Place`, `Directory.step`, `Directory.walk` — where one stands, and following names
* `Directory.resolve` — following a path
* `Directory.read`, `Directory.write`, `Directory.makeDirectory` — files and directories by path

## Main results

* `Directory.find_put_self` — an entry that was put is found
* `Directory.walk_append` — names are followed one after the other
* `Directory.step_eq_nameTooLong` — which names are too long
-/

namespace Tunnel

/-- What a path may lead to. -/
inductive Entry
  | file (content : Bytes)
  | directory
deriving DecidableEq, Repr

/-- Files and directories, each by the names on its way down. -/
structure Directory where
  entries : List (List String × Entry)
deriving DecidableEq, Repr

namespace Directory

/-- A directory without entries. -/
def empty : Directory := ⟨[]⟩

/-- What stands at the end of a way down. -/
def find? (directory : Directory) (way : List String) : Option Entry :=
  if way = [] then some .directory else directory.entries.lookup way

/-- Puts an entry at the end of a way down, in place of what is there. -/
def put (directory : Directory) (way : List String) (entry : Entry) : Directory :=
  ⟨(way, entry) :: directory.entries.filter fun old => old.1 != way⟩

/-! ### Paths -/

/-- A place that a path leads to: below the directory by a way down, or one of the directories
around it. -/
inductive Place
  | below (way : List String)
  | outside
deriving DecidableEq, Repr

/-- What stands at a place. -/
def entryAt? (directory : Directory) : Place → Option Entry
  | .below way => directory.find? way
  | .outside => some .directory

/-- The most octets that a name may have. -/
def nameLimit : Nat := 255

/-- The octets with which a path is too long as a whole. -/
def pathLimit : Nat := 4096

/-- Why one cannot go on from a place: it has to be a directory. -/
def stop? (directory : Directory) (place : Place) : Option Errno :=
  match directory.entryAt? place with
  | none => some Errno.noEntry
  | some (.file _) => some Errno.notDirectory
  | some .directory => none

/-- The place that a name leads to from a directory. -/
def goTo (place : Place) (name : String) : Except Errno Place :=
  if name = "" ∨ name = "." then .ok place
  else if name = ".." then
    match place with
    | .below way => .ok (if way = [] then .outside else .below way.dropLast)
    | .outside => .ok .outside
  else if nameLimit < name.utf8ByteSize then .error Errno.nameTooLong
  else
    match place with
    | .below way => .ok (.below (way ++ [name]))
    | .outside => .error Errno.noEntry

/-- Follows one name from where one stands. -/
def step (directory : Directory) (place : Place) (name : String) : Except Errno Place :=
  match directory.stop? place with
  | some code => .error code
  | none => goTo place name

/-- Follows names from where one stands. All names but the last have to be directories. -/
def walk (directory : Directory) (place : Place) (names : List String) : Except Errno Place :=
  names.foldlM directory.step place

/-- A path in parts. -/
structure Path where
  /-- Where it begins. -/
  start : Place
  names : List String
  /-- Whether it ends in a slash and so has to lead to a directory. -/
  slash : Bool
deriving DecidableEq, Repr

/-- The parts of a path. There is no empty path, and none that is too long. -/
def splitPath (path : String) : Except Errno Path :=
  if path.utf8ByteSize ≥ pathLimit then .error Errno.nameTooLong
  else
    let chars := path.toList
    let stem := (chars.reverse.dropWhile (· == '/')).reverse
    let names := (Text.splitAt '/' stem).map String.ofList
    match chars with
    | [] => .error Errno.noEntry
    | '/' :: _ => .ok ⟨.outside, names, stem.length < chars.length⟩
    | _ => .ok ⟨.below [], names, stem.length < chars.length⟩

/-- Where a path leads, and whether it ends in a slash. -/
def resolve (directory : Directory) (path : String) : Except Errno (Place × Bool) :=
  match splitPath path with
  | .error code => .error code
  | .ok parts => (directory.walk parts.start parts.names).map fun place => (place, parts.slash)

/-! ### Files -/

/-- The octets of a file. -/
def read (directory : Directory) (path : String) : Except Errno Bytes :=
  match directory.resolve path with
  | .error code => .error code
  | .ok (place, slash) =>
    match directory.entryAt? place with
    | none => .error Errno.noEntry
    | some .directory => .error Errno.isDirectory
    | some (.file content) => if slash then .error Errno.notDirectory else .ok content

/-- Writes a file at a place, over what it held before. -/
def writeAt (directory : Directory) (content : Bytes) : Place → Except Errno Directory
  | .outside => .error Errno.isDirectory
  | .below way =>
    if directory.find? way = some .directory then .error Errno.isDirectory
    else .ok (directory.put way (.file content))

/-- Writes a file, over what it held before. A path with a slash at its end is refused where the
last name is to be looked up. -/
def write (directory : Directory) (path : String) (content : Bytes) : Except Errno Directory :=
  match splitPath path with
  | .error code => .error code
  | .ok parts =>
    if parts.slash then
      match directory.walk parts.start parts.names.dropLast with
      | .error code => .error code
      | .ok place => .error ((directory.stop? place).getD Errno.isDirectory)
    else
      match directory.walk parts.start parts.names with
      | .error code => .error code
      | .ok place => directory.writeAt content place

/-- Makes a directory, unless a file is there. -/
def makeDirectory (directory : Directory) (path : String) : Except Errno Directory :=
  match directory.resolve path with
  | .error code => .error code
  | .ok (.outside, _) => .ok directory
  | .ok (.below way, _) =>
    match directory.find? way with
    | some .directory => .ok directory
    | some (.file _) => .error Errno.alreadyExists
    | none => .ok (directory.put way .directory)

theorem find_put_self {directory : Directory} {way : List String} {entry : Entry} (h : way ≠ []) :
    (directory.put way entry).find? way = some entry := by
  simp [find?, put, h]

@[simp] theorem walk_nil (directory : Directory) (place : Place) :
    directory.walk place [] = .ok place := rfl

/-- Names are followed one after the other. -/
theorem walk_append (directory : Directory) (place : Place) (first second : List String) :
    directory.walk place (first ++ second) =
      (directory.walk place first >>= fun next => directory.walk next second) := by
  simp [walk]

/-- In a directory just the names above the limit are too long. -/
theorem step_eq_nameTooLong {directory : Directory} {place : Place} {name : String}
    (h : directory.stop? place = none) :
    directory.step place name = .error Errno.nameTooLong ↔
      nameLimit < name.utf8ByteSize := by
  have dots : ∀ dot ∈ ["", ".", ".."], ¬ nameLimit < dot.utf8ByteSize := by decide
  simp only [step, h, goTo]
  split
  · next hname => rcases hname with rfl | rfl <;> simp [dots]
  · split
    · next hname =>
      subst hname
      cases place <;> simp [dots]
    · split
      · next hlong => simp [hlong]
      · next hshort => cases place <;> simp [hshort, Errno.noEntry, Errno.nameTooLong]

end Directory

end Tunnel
