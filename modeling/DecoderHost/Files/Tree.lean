import DecoderHost.Files
import DecoderHost.Path

/-!
A small file system: a tree of directories and files without links, and a working directory.

A path is followed name by name. A single dot stays, two dots go up, and every other name must lead to a
directory unless it is the last. A path that ends in a slash or a dot must name a directory.
-/

namespace DecoderHost

/-- What is found at a place in the tree. -/
inductive FileEntry where
  | file (contents : List UInt8)
  | directory
  deriving DecidableEq, Repr

/-- A file system: what is at each place, given by the names from the root on, and the place where relative
paths start. The root itself is always a directory. -/
structure FileTree where
  entries : List (List String × FileEntry) := []
  working : List String := []
  deriving DecidableEq, Repr

namespace FileTree

/-- The longest name and the longest path that can be followed, in bytes. -/
def longestName : Nat := 255

/-- The length from which on a path is too long, in bytes. -/
def pathLimit : Nat := 4096

/-- What is at a place. -/
def at? (tree : FileTree) (place : List String) : Option FileEntry :=
  if place.isEmpty then some .directory else tree.entries.lookup place

/-- The names of a path, and whether it can only mean a directory. -/
def namesOf (path : String) : List String × Bool :=
  let names := Path.components path
  (names, path.endsWith "/" || names.getLast? == some ".")

/-- The place that one name leads to from a directory; it need not be taken. -/
def step (tree : FileTree) (place : List String) (name : String) : Except FileFault (List String) :=
  match tree.at? place with
  | none => .error .notFound
  | some (.file _) => .error .notDirectory
  | some .directory =>
    if name = "." then .ok place
    else if name = ".." then .ok place.dropLast
    else if name.utf8ByteSize > longestName then .error .nameTooLong
    else .ok (place ++ [name])

/-- Follow names from a place. -/
def follow (tree : FileTree) : List String → List String → Except FileFault (List String)
  | place, [] => .ok place
  | place, name :: rest =>
    match tree.step place name with
    | .ok place => follow tree place rest
    | .error fault => .error fault

/-- Where the names of a path start. -/
def origin (tree : FileTree) (path : String) : List String :=
  if Path.isAbsolute path then [] else tree.working

/-- A path that no walk could follow. -/
def refused? (path : String) : Option FileFault :=
  if path.toList.contains '\x00' then some .invalidPath
  else if path.isEmpty then some .notFound
  else if path.utf8ByteSize ≥ pathLimit then some .nameTooLong
  else none

/-- The place of what a path names, and what it is. -/
def locate (tree : FileTree) (path : String) : Except FileFault (List String × FileEntry) :=
  match refused? path with
  | some fault => .error fault
  | none =>
    let (names, mustBeDirectory) := namesOf path
    match tree.follow (tree.origin path) names with
    | .error fault => .error fault
    | .ok place =>
      match tree.at? place with
      | none => .error .notFound
      | some (.file contents) =>
        if mustBeDirectory then .error .notDirectory else .ok (place, .file contents)
      | some .directory => .ok (place, .directory)

/-- The contents of the file at a path. -/
def read (tree : FileTree) (path : String) : Except FileFault (List UInt8) :=
  match tree.locate path with
  | .error fault => .error fault
  | .ok (_, .directory) => .error .isDirectory
  | .ok (_, .file contents) => .ok contents

/-- The path without dots of what a path names. -/
def canonical (tree : FileTree) (path : String) : Except FileFault String :=
  (tree.locate path).map fun (place, _) => "/" ++ "/".intercalate place

/-- Is there a directory at a place that names lead to? -/
def leadsToDirectory (tree : FileTree) (start names : List String) : Bool :=
  match tree.follow start names with
  | .ok place => tree.at? place == some .directory
  | .error _ => false

/-- Make the directory that names lead to; all but the last must be there. -/
def makeDirectory (tree : FileTree) (start names : List String) : Except FileFault FileTree :=
  match names.getLast? with
  | none => .error .exists
  | some last =>
    match tree.follow start names.dropLast with
    | .error fault => .error fault
    | .ok parent =>
      match tree.step parent last with
      | .error fault => .error fault
      | .ok place =>
        if last = "." ∨ last = ".." ∨ (tree.at? place).isSome then .error .exists
        else .ok { tree with entries := (place, .directory) :: tree.entries }

/-- Make the directory that names lead to; it may be there already. -/
def ensureDirectory (tree : FileTree) (start names : List String) : Except FileFault FileTree :=
  match tree.makeDirectory start names with
  | .error .exists => if tree.leadsToDirectory start names then .ok tree else .error .exists
  | outcome => outcome

/-- The names of the directory that holds what names lead to; single dots do not count. -/
def parentNames (names : List String) : List String :=
  (names.filter (· ≠ ".")).dropLast

theorem length_parentNames_lt {names : List String} (h : names ≠ []) :
    (parentNames names).length < names.length := by
  have hle : (names.filter (· ≠ ".")).length ≤ names.length := List.length_filter_le ..
  have hpos : 0 < names.length := List.length_pos_iff.2 h
  simp only [parentNames, List.length_dropLast]
  omega

/-- Make the directory that names lead to, and those above it that are missing; what was made before a
failure stays. -/
def createAll (tree : FileTree) (start names : List String) : Except FileFault Unit × FileTree :=
  if _h : names = [] then (.ok (), tree)
  else
    match tree.ensureDirectory start names with
    | .ok made => (.ok (), made)
    | .error .notFound =>
      match createAll tree start (parentNames names) with
      | (.error fault, made) => (.error fault, made)
      | (.ok (), made) =>
        match made.ensureDirectory start names with
        | .ok all => (.ok (), all)
        | .error fault => (.error fault, made)
    | .error fault => (.error fault, tree)
termination_by names.length
decreasing_by exact length_parentNames_lt ‹_›

/-- Make the directory at a path, and those above it that are missing. -/
def createDirectories (path : String) (tree : FileTree) : Except FileFault Unit × FileTree :=
  match refused? path with
  | some fault => (.error fault, tree)
  | none => tree.createAll (tree.origin path) (Path.components path)

/-- Write a file; its directory must be there. -/
def write (path : String) (contents : List UInt8) (tree : FileTree) :
    Except FileFault Unit × FileTree :=
  match refused? path with
  | some fault => (.error fault, tree)
  | none =>
    let (names, mustBeDirectory) := namesOf path
    match tree.follow (tree.origin path) names with
    | .error fault => (.error fault, tree)
    | .ok place =>
      match tree.at? place with
      | some .directory => (.error .isDirectory, tree)
      | _ =>
        if mustBeDirectory then (.error .isDirectory, tree)
        else if tree.at? place.dropLast = some .directory then
          (.ok (), { tree with entries := (place, .file contents) :: tree.entries })
        else (.error .notFound, tree)

end FileTree

end DecoderHost
