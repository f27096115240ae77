import BulkDelivery.Bytes

/-!
# A folder of files

Files are kept under paths.  A path is followed from the folder down: a single point stays,
two points go back up, and every name on the way must be a folder.  A path that ends in a
slash must lead to a folder.  A path that is too long, has a name that is too long, starts
with a slash or holds the null character leads nowhere.

Two points also lead out of the folder.  Around it there are only the folders it lies in.

## Main definitions

* `Folder` — files and folders by their place.
* `Folder.read?`, `Folder.write?`, `Folder.holds` — read, write and look for a file.
-/

namespace BulkDelivery

/-- Where something is: the names on the way to it. -/
abbrev Place := List String

/-- Files and folders by their place; the outermost folder is always there. -/
structure Folder where
  /-- The folders inside. -/
  folders : List Place := []
  /-- The files and what they hold. -/
  files : List (Place × Bytes) := []

namespace Folder

/-- The greatest length of a name, in octets. -/
def maxNameLength : Nat := 255

/-- The greatest length of a path, in octets. -/
def maxPathLength : Nat := 4095

/-- Whether a place is the outermost folder or one that it lies in. -/
def isAround (place : Place) : Bool :=
  place.all (· == "..")

/-- Whether there is a folder at a place. -/
def isFolder (f : Folder) (place : Place) : Bool :=
  isAround place || f.folders.contains place

/-- The place one step up. -/
def above (place : Place) : Place :=
  if isAround place then place ++ [".."] else place.dropLast

/-- The place that names lead to, starting at a place.  A name behind something that is not a
folder leads nowhere. -/
def follow? (f : Folder) : Place → List String → Option Place
  | place, [] => some place
  | place, name :: names =>
    if !f.isFolder place then none
    else if name = "" ∨ name = "." then f.follow? place names
    else if name = ".." then f.follow? (above place) names
    else if maxNameLength < name.utf8ByteSize then none
    else f.follow? (place ++ [name]) names

/-- Whether a path can lead anywhere. -/
def isPath (path : String) : Bool :=
  path != "" && path.utf8ByteSize ≤ maxPathLength && !path.startsWith "/" && !path.contains '\x00'

/-- The place a path leads to, and whether only a folder may be there. -/
def place? (f : Folder) (path : String) : Option (Place × Bool) :=
  let names := path.splitOn "/"
  if isPath path then
    (f.follow? [] names).map fun place => (place, names.getLast? == some "")
  else none

/-- What the file at a path holds. -/
def read? (f : Folder) (path : String) : Option Bytes :=
  match f.place? path with
  | some (place, false) => if f.isFolder place then none else f.files.lookup place
  | _ => none

/-- Whether a path leads to a file or folder. -/
def holds (f : Folder) (path : String) : Bool :=
  match f.place? path with
  | some (place, false) => f.isFolder place || (f.files.lookup place).isSome
  | some (place, true) => f.isFolder place
  | none => false

/-- The folder with a file at a path, in place of the one that may be there. -/
def write? (f : Folder) (path : String) (content : Bytes) : Option Folder :=
  match f.place? path with
  | some (place, false) =>
    if f.isFolder place then none
    else some { f with files := (place, content) :: f.files.filter (·.1 != place) }
  | _ => none

end Folder

end BulkDelivery
