import Switchboard.Text.Pieces
import Switchboard.Text.Utf8

/-!
# File trees

The files that a service can read: a tree with files and directories, and paths that are walked in
it piece by piece, from the top or from the working directory. Above the top is the top itself.
-/

namespace Switchboard

inductive FileEntry where
  | file (content : Bytes)
  | directory
  /-- What can be read but is no file, such as a pipe. -/
  | special (content : Bytes)
  /-- What is there but cannot be read; a file, if it is `regular`. -/
  | unreadable (regular : Bool) (detail : String)
deriving DecidableEq, Repr

namespace FileEntry

def isFile : FileEntry → Bool
  | file _ => true
  | unreadable regular _ => regular
  | directory | special _ => false

def read : FileEntry → Except String Bytes
  | file content | special content => .ok content
  | directory => .error "Is a directory"
  | unreadable _ detail => .error detail

end FileEntry

/-- Files and directories by the names on the way to them; the directories on the way exist too. -/
structure FileTree where
  entries : List (List String × FileEntry) := []
  /-- The names on the way to the working directory. -/
  workdir : List String := []
deriving DecidableEq, Repr

namespace FileTree

def entry? (t : FileTree) (names : List String) : Option FileEntry :=
  match t.entries.lookup names with
  | some e => some e
  | none =>
    if (t.workdir :: t.entries.map Prod.fst).any names.isPrefixOf then some .directory else none

def isAbsolute (path : String) : Bool := path.toList.head? == some '/'

def hasFinalSlash (path : String) : Bool := path.toList.getLast? == some '/'

def pieces (path : String) : List String := (Text.pieces '/' path.toList).map String.ofList

def origin (t : FileTree) (path : String) : List String := if isAbsolute path then [] else t.workdir

/-- Follows the pieces of a path from a directory; only a directory can be gone on from. -/
def walk? (t : FileTree) : List String → List String → Option (List String)
  | here, [] => some here
  | here, p :: ps =>
    match t.entry? here with
    | some .directory =>
      if p = "" ∨ p = "." then walk? t here ps
      else if p = ".." then walk? t here.dropLast ps
      else walk? t (here ++ [p]) ps
    | _ => none

/-- What a path leads to; the empty path leads nowhere. -/
def find? (t : FileTree) (path : String) : Option FileEntry :=
  if path = "" then none
  else (t.walk? (t.origin path) (pieces path)).bind t.entry?

/-- Puts a file or, for a path that ends in a slash, a directory into the tree. -/
def insert (t : FileTree) (path : String) (content : Bytes) : FileTree :=
  let names := t.origin path ++ (pieces path).filter fun p => p != "" && p != "."
  let entry := if hasFinalSlash path then .directory else .file content
  { t with entries := t.entries.filter (·.1 != names) ++ [(names, entry)] }

/-- A path below another one; an absolute path takes its place. -/
def join (base path : String) : String :=
  if isAbsolute path then path
  else if base = "" ∨ hasFinalSlash base then base ++ path
  else base ++ "/" ++ path

/-- The extension of the last name of a path: what stands after its last dot, unless that is the
first character. -/
def extension (path : String) : String :=
  match ((pieces path).filter fun p => p != "" && p != ".").getLast? with
  | none => ""
  | some name =>
    if name = ".." then ""
    else
      let cs := name.toList
      let tail := (cs.reverse.takeWhile (· != '.')).reverse
      if tail.length + 1 < cs.length then String.ofList tail else ""

end FileTree

end Switchboard
