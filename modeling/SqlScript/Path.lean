import SqlScript.Text.Utf8

/-!
# Paths and files

A path is a text whose names are separated by slashes. It is shown in a tidy form, without
repeated slashes, without names that are a single dot and without a slash at its end; two dots
stay, since what they lead to depends on the disk. What a path names is asked of a disk, which
answers with a file, a directory or nothing, or that the path is too long. A tree of files is a disk
of its own: its paths start at its root, and what lies above the root are directories about which
nothing else is known. It takes paths up to a length, and names up to a length where it comes to
look them up, so that a long name behind a missing one is missing.
-/

namespace SqlScript

open SqlScript.Text

/-- What a path names. -/
inductive Entry where
  /-- Nothing. -/
  | missing
  /-- A directory. -/
  | directory
  /-- A file and its bytes. -/
  | file (content : Utf8.Bytes)
  /-- Nothing that the disk could have, as the path or a name on it is too long. -/
  | tooLong
  deriving DecidableEq, Repr

/-- A disk answers what each path names. -/
abbrev Disk := Text → Entry

namespace Path

/-- The slashes that a path begins with in its tidy form: exactly two stay two, and more are one. -/
def root (path : Text) : Text :=
  match (path.takeWhile (· = '/')).length with
  | 0 => []
  | 2 => ['/', '/']
  | _ => ['/']

/-- The names of a path but those that are empty or a single dot. -/
def names (path : Text) : List Text :=
  (path.splitOn '/').filter fun name => !name.isEmpty && name != ['.']

/-- The tidy form of a path. -/
def tidy (path : Text) : Text :=
  let shown := root path ++ ['/'].intercalate (names path)
  if shown.isEmpty then ['.'] else shown

/-- The most bytes that a name on a path can have. -/
def nameLimit : Nat := 255

/-- The most bytes that a path can have. -/
def limit : Nat := 4095

/-- The number of bytes of a path or a name. -/
def size (path : Text) : Nat := (Utf8.encode path).length

end Path

/-! ### Trees of files -/

/-- The files of a tree by their names from the root on, and its directories without a content. -/
abbrev FileTree := List (List Text × Option Utf8.Bytes)

namespace FileTree

/-- What the names from the root on lead to: the root and whatever other names go on from are
directories. -/
def find (tree : FileTree) (names : List Text) : Entry :=
  match tree.lookup names with
  | some (some content) => .file content
  | some none => .directory
  | none =>
    if names.isEmpty || tree.any (names.isPrefixOf ·.1) then .directory else .missing

/-- A place in a tree: the names from the root on, or somewhere above the root. -/
inductive Place where
  /-- Below the root. -/
  | inside (names : List Text)
  /-- Above the root. -/
  | above

/-- What is at a place. -/
def Place.entryIn (tree : FileTree) : Place → Entry
  | inside names => tree.find names
  | above => .directory

/-- Where a single name leads from a directory. -/
def Place.enter (name : Text) : Place → Option Place
  | inside names =>
    if name.isEmpty || name = ['.'] then some (inside names)
    else if name = ['.', '.'] then some (if names.isEmpty then above else inside names.dropLast)
    else some (inside (names ++ [name]))
  | above => if name.isEmpty || name = ['.'] || name = ['.', '.'] then some above else none

/-- What the names lead to from a place. Only directories are gone on from, so a slash behind the
name of a file leads nowhere, and only there can a name be too long. -/
def walk (tree : FileTree) : Place → List Text → Entry
  | place, [] => place.entryIn tree
  | place, name :: rest =>
    match place.entryIn tree with
    | .directory =>
      if Path.nameLimit < Path.size name then .tooLong
      else
        match place.enter name with
        | some next => walk tree next rest
        | none => .missing
    | _ => .missing

/-- The disk of a tree. A path that is empty or holds the character NUL names nothing, however long
it is. -/
def disk (tree : FileTree) : Disk := fun path =>
  if path.isEmpty || path.contains '\x00' then .missing
  else if Path.limit < Path.size path then .tooLong
  else if path.head? = some '/' then walk tree .above (path.splitOn '/')
  else walk tree (.inside []) (path.splitOn '/')

end FileTree

end SqlScript
