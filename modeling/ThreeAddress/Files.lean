import ThreeAddress.Input

set_option autoImplicit false

/- What a path leads to, and a tree of files in memory whose paths are looked up as a file system does.
A path is kept as it is spelled: what stays where it is counts in its text, though not in where it
leads. -/
namespace ThreeAddress

/-- What a path leads to. -/
inductive Lookup where
  | missing
  /-- The path cannot be followed to anything. -/
  | refused (reason : String)
  | directory
  /-- A regular file and what comes of opening it. -/
  | file (opened : Except String Input)
  /-- A device, a pipe or anything else that can be opened and is no regular file. -/
  | other (opened : Except String Input)
  deriving Repr

namespace Lookup

def noSuchFile : String := "No such file or directory (os error 2)"

def notDirectory : String := "Not a directory (os error 20)"

def isDirectory : String := "Is a directory (os error 21)"

/-- Why a path with too long a part cannot be followed. -/
def nameTooLong : String := "File name too long (os error 36)"

/-- Why a path that holds the character zero names nothing. -/
def zeroInName : String := "file name contained an unexpected NUL byte"

/-- What comes of opening what is there. A directory can be opened and not read. -/
def input : Lookup → Except String Input
  | .missing => .error noSuchFile
  | .refused reason => .error reason
  | .directory => .ok (.unreadable isDirectory)
  | .file opened | .other opened => opened

/-- The whole text of what is there, or why it cannot be read. -/
def text (found : Lookup) : Except String String :=
  match found.input with
  | .error reason | .ok (.unreadable reason) => .error reason
  | .ok (.bytes content) =>
    match Utf8.toString? content with
    | some text => .ok text
    | none => .error "stream did not contain valid UTF-8"

/-- Whether there is anything, be it readable or not. -/
def isThere : Lookup → Bool
  | .missing | .refused _ => false
  | .directory | .file _ | .other _ => true

end Lookup

/-- A tree of files: the parts of a path and a content for each file, and directories that may be
empty. The directories on the way to a file or directory are there too. -/
structure FileTree where
  files : List (List String × Bytes) := []
  directories : List (List String) := []
  deriving DecidableEq, Repr

namespace FileTree

def parts (path : String) : List String :=
  path.splitOn "/"

/-- Whether a part of a path stays where it is. -/
def isHere (part : String) : Bool :=
  part == "" || part == "."

/-- The place that a path leads to through directories. -/
def place (path : String) : List String :=
  (parts path).foldl
    (fun place part =>
      if isHere part then place else if part == ".." then place.dropLast else place ++ [part])
    []

def isDirectory (tree : FileTree) (place : List String) : Bool :=
  place.isEmpty || tree.directories.any (place.isPrefixOf ·)
    || tree.files.any fun file => place.isPrefixOf file.1 && place != file.1

def at? (tree : FileTree) (place : List String) : Lookup :=
  if tree.isDirectory place then .directory
  else
    match tree.files.lookup place with
    | some content => .file (.ok (.bytes content))
    | none => .missing

/-- The number of bytes that the name of a file may have. -/
def nameLimit : Nat := 255

def pathLimit : Nat := 4095

/-- Follows the parts of a path from a directory; `none` is a directory above the tree, where nothing
else is known. -/
def follow (tree : FileTree) : Option (List String) → List String → Lookup
  | _, [] => .directory
  | place, part :: rest =>
    if isHere part then follow tree place rest
    else if part = ".." then
      match place with
      | some (first :: others) => follow tree (some (first :: others).dropLast) rest
      | _ => follow tree none rest
    else if nameLimit < part.utf8ByteSize then .refused Lookup.nameTooLong
    else
      match place with
      | none => .missing
      | some place =>
        match tree.at? (place ++ [part]) with
        | .directory => follow tree (some (place ++ [part])) rest
        | .file opened => if rest.isEmpty then .file opened else .refused Lookup.notDirectory
        | found => found

/-- What is found from the root of every file system: an empty file and some directories. -/
def system : FileTree where
  files := [(["dev", "null"], [])]
  directories := [["bin"], ["etc"], ["home"], ["lib"], ["proc"], ["root"], ["sys"], ["tmp"], ["usr"], ["var"]]

def look (tree : FileTree) (directory : String) (path : String) : Lookup :=
  if path.contains '\x00' then .refused Lookup.zeroInName
  else if pathLimit < path.utf8ByteSize then .refused Lookup.nameTooLong
  else if path.startsWith "/" then system.follow (some []) (parts path)
  else tree.follow (some (place directory)) (parts path)

def join (directory path : String) : String :=
  if directory == "" || directory.endsWith "/" then directory ++ path else directory ++ "/" ++ path

/-- What is left of the parts of a path, the last part first, when one step after the other is taken off
its end together with the parts before it that stay where they are. -/
def above : List String → List (List String)
  | [] => []
  | part :: rest => if isHere part then above rest else rest.dropWhile isHere :: above rest

/-- A directory and those above it, nearest first. What is left of a path keeps its spelling. -/
def ancestors (directory : String) : List String :=
  let root := if directory.startsWith "/" then "/" else ""
  directory :: (above (parts directory).reverse).map fun rest =>
    if rest.isEmpty then root else String.intercalate "/" rest.reverse

/-- A path without the parts at its front that stay where they are. -/
def direct (path : String) : String :=
  String.intercalate "/" ((parts path).dropWhile isHere)

/-- What a name leads to in a directory and those above it, nearest first. -/
def search (tree : FileTree) (directory name : String) : List (String × Lookup) :=
  (ancestors directory).map fun place =>
    let path := join place name
    (path, tree.look "" path)

end FileTree

end ThreeAddress
