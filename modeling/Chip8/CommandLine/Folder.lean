import Chip8.IoError

/-!
# Files and folders

A `Folder` stands for the directory in which the program is started.  It holds
files and no other folders.  Of the folders above it, and of the root, it is
known that they are there, and they are taken to hold nothing else; files can
be created in them too.

A path is followed part by part (`Folder.follow`).  All of its parts but the
last have to lead to folders.  The last may be free, and what becomes of it
depends on whether the path is read or created.
-/

namespace Chip8.CommandLine

/-- A folder that is known to be there. -/
inductive Site where
  /-- So many levels above the folder in which the program is started. -/
  | above (levels : Nat)
  /-- The root, which everything lies below. -/
  | root
  deriving DecidableEq, Repr

/-- The folder above a folder.  The root is above itself. -/
def Site.parent : Site → Site
  | above levels => above (levels + 1)
  | root => root

/-- A place for a file. -/
structure Location where
  /-- The folder. -/
  site : Site := .above 0
  /-- The name in it. -/
  name : String
  deriving DecidableEq, Repr

/-- Files by their locations. -/
structure Folder where
  /-- Each location with the contents of the file. -/
  files : List (Location × List UInt8) := []
  deriving DecidableEq, Repr

namespace Folder

/-! ## Failures -/

/-- There is no such file, or no such folder on the way to it. -/
def noSuchFile : IoError :=
  ⟨.notFound, "No such file or directory (os error 2)"⟩

/-- A file was used as a folder. -/
def notFolder : IoError :=
  ⟨.other, "Not a directory (os error 20)"⟩

/-- A folder was used as a file. -/
def isFolder : IoError :=
  ⟨.other, "Is a directory (os error 21)"⟩

/-- A name or a path is longer than names and paths can be. -/
def tooLong : IoError :=
  ⟨.other, "File name too long (os error 36)"⟩

/-- How many bytes a name may have. -/
def maxName : Nat := 255

/-- How many bytes a path may have. -/
def maxPath : Nat := 4095

/-! ## Paths -/

/-- What a path leads to. -/
inductive Target where
  /-- A folder. -/
  | folder
  /-- A place for a file, whether there is one or not.  The path may ask for a
  folder in its place, by a slash at its end. -/
  | entry (location : Location) (asksFolder : Bool)
  /-- Nothing, because the way to it is broken off. -/
  | nowhere (e : IoError)
  deriving DecidableEq, Repr

/-- What there is at a location: the contents of a file, or the failure to find
one. -/
def find (f : Folder) (location : Location) : Except IoError (List UInt8) :=
  if maxName < location.name.utf8ByteSize then .error tooLong
  else
    match f.files.lookup location with
    | some contents => .ok contents
    | none => .error noSuchFile

/-- Follows the parts of a path from a folder.  Empty parts and single dots stay
where they are, and double dots go up. -/
def walk (f : Folder) (site : Site) : List String → Target
  | [] => .folder
  | part :: rest =>
    if part = "" ∨ part = "." then f.walk site rest
    else if part = ".." then f.walk site.parent rest
    else if rest.all (· = "") then .entry ⟨site, part⟩ !rest.isEmpty
    else
      match f.find ⟨site, part⟩ with
      | .ok _ => .nowhere notFolder
      | .error e => .nowhere e

/-- Follows a path.  One that starts with a slash starts at the root. -/
def follow (f : Folder) (path : String) : Target :=
  if maxPath < path.utf8ByteSize then .nowhere tooLong
  else
    match path.splitOn "/" with
    | [""] => .nowhere noSuchFile
    | "" :: parts => f.walk .root parts
    | parts => f.walk (.above 0) parts

/-! ## Reading and creating -/

/-- Opens a file to read it.  A folder can be opened, but not read. -/
def read (f : Folder) (path : String) :
    Except IoError (Except IoError (List UInt8)) :=
  match f.follow path with
  | .folder => .ok (.error isFolder)
  | .entry location asksFolder =>
    match f.find location with
    | .ok contents =>
      if asksFolder then .error notFolder else .ok (.ok contents)
    | .error e => .error e
  | .nowhere e => .error e

/-- The folder with an empty file at a location. -/
def emptied (f : Folder) (location : Location) : Folder :=
  { f with
    files := (location, []) :: f.files.filter fun p => p.1 ≠ location }

/-- Creates a file, or empties it.  Answers its location.  No file is created
where the path asks for a folder, whatever is there. -/
def create (f : Folder) (path : String) :
    Except IoError (Location × Folder) :=
  match f.follow path with
  | .folder => .error isFolder
  | .entry location asksFolder =>
    if asksFolder then .error isFolder
    else if maxName < location.name.utf8ByteSize then .error tooLong
    else .ok (location, f.emptied location)
  | .nowhere e => .error e

end Folder

end Chip8.CommandLine
