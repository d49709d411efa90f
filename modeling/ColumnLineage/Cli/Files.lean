/-
ColumnLineage/Cli/Files.lean

The files the command line reads. The command line is written against a
small class of file operations: what a path names, the bytes of a file,
the names in a directory, and the working directory. A `Volume` answers
them from files held in memory; the program answers them from the host.

A path is a string, relative to the working directory unless it starts
with `/`. It is resolved a component at a time, as the host does: empty
and `.` components stay where they are, `..` steps up, and every
component before the last, like a path that ends with `/`, must name a
directory.

Failures carry the host's wording, which the command line prints:
`No such file or directory (os error 2)`, `Is a directory (os error 21)`,
`Not a directory (os error 20)`.
-/

namespace ColumnLineage.Cli

/-- What a path names. -/
inductive EntryKind where
  | file
  | directory
  deriving DecidableEq, Repr, Inhabited

/-- File operations, as the command line needs them. -/
class MonadFiles (m : Type → Type) where
  /-- What the path names, if anything. -/
  entry : String → m (Option EntryKind)
  /-- The bytes of the file the path names, or the host's message. -/
  readBytes : String → m (Except String ByteArray)
  /-- The names in the directory the path names. -/
  children : String → m (List String)
  /-- The absolute path of the working directory. -/
  workingDir : m String

/-- The message of a missing path. -/
def notFoundMessage : String := "No such file or directory (os error 2)"

/-- The message of reading a directory as a file. -/
def isDirectoryMessage : String := "Is a directory (os error 21)"

/-- The message of using a file as a directory. -/
def notDirectoryMessage : String := "Not a directory (os error 20)"

/-- Files held in memory: each file by the components of its path from the
working directory, and the directories that were made empty. -/
structure Volume where
  workingDir : String
  files : List (List String × ByteArray) := []
  directories : List (List String) := []
  deriving Inhabited

namespace Volume

/-- What the components name: the working directory itself, a file, or a
directory that holds something or was made. -/
def kindOf (v : Volume) (parts : List String) : Option EntryKind :=
  if parts.isEmpty then some .directory
  else if v.files.any (·.1 == parts) then some .file
  else if v.directories.contains parts ||
      v.files.any (fun (p, _) => parts.isPrefixOf p && p.length > parts.length) ||
      v.directories.any (fun p => parts.isPrefixOf p && p.length > parts.length) then
    some .directory
  else none

/-- A path relative to the working directory: an absolute path inside it
loses the working directory's own path; an absolute path elsewhere has
none. -/
def relativeText (v : Volume) (path : String) : Option String :=
  if path == v.workingDir then some ""
  else if path.startsWith (v.workingDir ++ "/") then
    some (path.drop (v.workingDir.length + 1)).toString
  else if path.startsWith "/" then none
  else some path

/-- Resolves a path one component at a time: the components of what it
names and its kind, or the host's message when it names nothing. -/
def resolve (v : Volume) (path : String) : Except String (List String × EntryKind) :=
  match v.relativeText path with
  | none => .error notFoundMessage
  | some rel =>
    if path.isEmpty then .error notFoundMessage
    else
      let comps := (rel.splitOn "/")
      let step := fun (acc : Except String (List String × EntryKind)) (c : String) =>
        match acc with
        | .error e => .error e
        | .ok (cur, kind) =>
          if kind != .directory then .error notDirectoryMessage
          else if c.isEmpty || c == "." then .ok (cur, kind)
          else if c == ".." then
            if cur.isEmpty then .error notFoundMessage else .ok (cur.dropLast, .directory)
          else match v.kindOf (cur ++ [c]) with
            | some k => .ok (cur ++ [c], k)
            | none => .error notFoundMessage
      comps.foldl step (.ok ([], .directory))

/-- What a path names. -/
def entry (v : Volume) (path : String) : Option EntryKind :=
  match v.resolve path with
  | .ok (_, k) => some k
  | .error _ => none

/-- The bytes of a file. -/
def readBytes (v : Volume) (path : String) : Except String ByteArray :=
  match v.resolve path with
  | .error e => .error e
  | .ok (_, .directory) => .error isDirectoryMessage
  | .ok (parts, .file) =>
    match v.files.find? (·.1 == parts) with
    | some (_, bytes) => .ok bytes
    | none => .error notFoundMessage

/-- The names in a directory, each once, in order. -/
def children (v : Volume) (path : String) : List String :=
  match v.resolve path with
  | .ok (parts, .directory) =>
    let below := fun (p : List String) =>
      if parts.isPrefixOf p && p.length > parts.length then p.drop parts.length |>.head? else none
    let names := v.files.filterMap (fun (p, _) => below p) ++ v.directories.filterMap below
    (names.foldl (fun acc n => if acc.contains n then acc else acc ++ [n]) []).mergeSort
      (fun a b => decide (a ≤ b))
  | _ => []

end Volume

instance : MonadFiles (ReaderM Volume) where
  entry path := return (← read).entry path
  readBytes path := return (← read).readBytes path
  children path := return (← read).children path
  workingDir := return (← read).workingDir

/-- Joins a name to a path, with a separator unless the path is empty or
already ends with one. -/
def joinPath (path name : String) : String :=
  if path.isEmpty || path.endsWith "/" then path ++ name else path ++ "/" ++ name

/-- The extension of a file name: what follows its last dot, unless the dot
starts the name. -/
def extension? (name : String) : Option String :=
  if name == ".." then none
  else
    let parts := name.splitOn "."
    match parts with
    | [] | [_] => none
    | _ =>
      let before := String.intercalate "." parts.dropLast
      if before.isEmpty then none else parts.getLast?

/-- The last component of a path. -/
def fileName (path : String) : String :=
  ((path.splitOn "/").filter (fun c => !c.isEmpty)).getLastD ""

/-- Whether one list of path components sorts before another: component by
component, a prefix first. -/
def componentsLe : List String → List String → Bool
  | [], _ => true
  | _ :: _, [] => false
  | a :: as, b :: bs => if a == b then componentsLe as bs else decide (a < b)

end ColumnLineage.Cli
