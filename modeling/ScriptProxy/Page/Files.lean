import ScriptProxy.Failure

/-!
# Files

A directory tree as a value, and the operations on paths that pages need: the directory of a file,
and a path seen from a directory.
-/

namespace ScriptProxy.Page

/-- The files below a directory, each with its path from there in parts. -/
structure Files where
  /-- The path of the directory itself. -/
  root : String
  files : List (List String × Bytes)

/-- The parts of a path between slashes, without empty ones. -/
def pathParts (path : String) : List String :=
  let step (c : Char) (parts : List (List Char)) : List (List Char) :=
    if c = '/' then [] :: parts
    else match parts with
      | [] => [[c]]
      | p :: rest => (c :: p) :: rest
  ((path.toList.foldr step [[]]).map String.ofList).filter (· ≠ "")

/-- A path as seen from a directory. A path that starts with a slash stands for itself. -/
def joined (directory path : String) : String :=
  if path.toList.head? = some '/' then path
  else if directory = "" ∨ directory.toList.getLast? = some '/' then directory ++ path
  else directory ++ "/" ++ path

/-- A path without the empty parts and the single dots at its end. The path is in reverse. -/
def withoutIdleEnd : List Char → List Char
  | '/' :: cs => withoutIdleEnd cs
  | '.' :: '/' :: cs => withoutIdleEnd cs
  | ['.'] => []
  | cs => cs

/-- Splits a path behind the slash, or the single dot, that it begins with. -/
def splitLead : List Char → List Char × List Char
  | '/' :: cs => (['/'], cs)
  | ['.'] => (['.'], [])
  | '.' :: '/' :: cs => (['.'], '/' :: cs)
  | cs => ([], cs)

/-- The directory that a path lies in: the path without its last part. It ends in no idle part, and
all before its end is kept as it stands. -/
def parent (path : String) : String :=
  let (lead, body) := splitLead path.toList
  let up := (withoutIdleEnd body.reverse).dropWhile (· != '/')
  String.ofList (lead ++ (withoutIdleEnd up).reverse)

namespace Files

def none : Files := ⟨"", []⟩

/-- Where a path can lead: to a place in the tree, which may be empty, to a place outside that is
known by its parts, or to a directory of which nothing is known but that it has others above it. -/
inductive Location where
  | inside (parts : List String)
  | outside (parts : List String)
  | unknown
  deriving DecidableEq, Repr

/-- Whether the parts lead to one of the directories that every system has. -/
def isSystemDirectory (parts : List String) : Bool :=
  match parts with
  | [] => true
  | [p] => ["bin", "boot", "dev", "etc", "home", "lib", "mnt", "opt", "proc", "root", "run", "sbin",
      "srv", "sys", "tmp", "usr", "var"].contains p
  | _ => false

/-- The file outside the tree that is always empty. -/
def emptyFile : List String := ["dev", "null"]

/-- Whether the parts lead to a directory. -/
def isDirectory (f : Files) (parts : List String) : Bool :=
  parts.isEmpty || f.files.any fun (p, _) => parts.isPrefixOf p && parts ≠ p

def content? (f : Files) (parts : List String) : Option Bytes :=
  (f.files.find? fun (p, _) => p == parts).map (·.2)

/-- The bytes that a part of a path can have at most. -/
def longestPart : Nat := 255

/-- The bytes that a path can have at most. -/
def longestPath : Nat := 4095

/-- Follows the parts of a path. -/
def follow (f : Files) : Location → List String → Except FileFault Location
  | here, [] => .ok here
  | .unknown, p :: rest =>
    if p = "." ∨ p = ".." then follow f .unknown rest
    else .error (if longestPart < p.utf8ByteSize then .longName else .notFound)
  | .outside here, p :: rest =>
    if !isSystemDirectory here then
      .error (if here = emptyFile then .notDirectory else .notFound)
    else if p = "." then follow f (.outside here) rest
    else if p = ".." then follow f (.outside here.dropLast) rest
    else if longestPart < p.utf8ByteSize then .error .longName
    else follow f (.outside (here ++ [p])) rest
  | .inside here, p :: rest =>
    if !f.isDirectory here then
      .error (if (f.content? here).isSome then .notDirectory else .notFound)
    else if p = "." then follow f (.inside here) rest
    else if p = ".." then follow f (if here = [] then .unknown else .inside here.dropLast) rest
    else if longestPart < p.utf8ByteSize then .error .longName
    else follow f (.inside (here ++ [p])) rest

/-- The place from which the parts of a path are followed, and those parts: the root if the path
begins with it. -/
def beginning (f : Files) (path : String) : Location × List String :=
  let root := pathParts f.root
  let parts := pathParts path
  if root.isPrefixOf parts then (.inside [], parts.drop root.length)
  else (if path.toList.head? = some '/' then .outside [] else .unknown, parts)

/-- The bytes of the file at a path. -/
def readBytes (f : Files) (path : String) : Except FileFault Bytes := do
  if path.toList.contains '\x00' then throw .zeroInName
  else if path = "" then throw .notFound
  else if longestPath < path.utf8ByteSize then throw .longName
  else
    let (start, parts) := f.beginning path
    match ← f.follow start parts with
    | .unknown => throw .isDirectory
    | .outside here =>
      if isSystemDirectory here then throw .isDirectory
      else fileAt (if here = emptyFile then some [] else .none)
    | .inside here =>
      if f.isDirectory here then throw .isDirectory else fileAt (f.content? here)
where
  /-- The bytes of a file, if there is one and the path does not go on behind it. -/
  fileAt : Option Bytes → Except FileFault Bytes
    | some bs => if path.toList.getLast? = some '/' then throw .notDirectory else return bs
    | .none => throw .notFound

/-- The text of the file at a path. -/
def readText (f : Files) (path : String) : Except Failure String :=
  match f.readBytes path with
  | .error fault => .error (.file fault)
  | .ok bs =>
    match String.fromUTF8? ⟨bs.toArray⟩ with
    | some s => .ok s
    | .none => .error (.file .notText)

end Files

end ScriptProxy.Page
