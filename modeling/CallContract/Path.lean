/-!
# Paths and files

A path is a root, if any, and the names along the way; empty names and single dots say nothing
and are left out, double dots stay. A file tree holds the folders and the files with their bytes.
Names and paths have a greatest length, and a file cannot be where a folder is.
-/

namespace CallContract

/-- A path. -/
structure Path where
  root : String
  names : List String
  deriving DecidableEq, Repr, Inhabited

namespace Path

/-- The root at the start of a path: exactly two slashes are kept, any other number of them
counts as one. -/
def rootOf : List Char → String
  | '/' :: '/' :: '/' :: _ => "/"
  | '/' :: '/' :: _ => "//"
  | '/' :: _ => "/"
  | _ => ""

/-- The path that a text names. -/
def ofText (s : String) : Path :=
  ⟨rootOf s.toList, (s.splitOn "/").filter fun n => n ≠ "" && n ≠ "."⟩

/-- The text of a path. -/
def text (p : Path) : String :=
  let body := p.root ++ String.intercalate "/" p.names
  if body = "" then "." else body

end Path

/-- The folders and files below the working folder, by the names that lead to them. -/
structure FileTree where
  folders : List (List String)
  files : List (List String × List UInt8)
  deriving Inhabited

/-- Why a path cannot be used. -/
inductive PathDefect where
  | zero
  | tooLong
  | exists
  | notFolder
  | isFolder
  deriving DecidableEq, Repr, Inhabited

/-- The most bytes of a name. -/
def nameLimit : Nat := 255

/-- The most bytes of a path. -/
def pathLimit : Nat := 4095

/-- What is found at a path. -/
inductive FileNode where
  | folder
  | file (content : List UInt8)
  deriving Repr

namespace FileTree

/-- The tree with only the working folder. -/
def empty : FileTree := ⟨[], []⟩

/-- What is found under names without dots. -/
def at? (t : FileTree) (names : List String) : Option FileNode :=
  if names.isEmpty || t.folders.contains names then some .folder
  else (t.files.lookup names).map .file

/-- Follow names from a folder; `here` holds the names so far, the last one first. Only a folder
can be passed through. What lies above the working folder is a folder with nothing known in
it. -/
def follow (t : FileTree) : List String → List String → Except PathDefect (Option FileNode)
  | here, [] => .ok (t.at? here.reverse)
  | here, n :: rest =>
    match t.at? here.reverse with
    | some .folder =>
      if n = ".." then
        match here with
        | [] => .ok (if rest.isEmpty then some .folder else none)
        | _ :: up => t.follow up rest
      else if nameLimit < n.utf8ByteSize then .error .tooLong
      else t.follow (n :: here) rest
    | _ => .ok none

/-- The folders that are known to lie at the root. -/
def rootFolders : List String :=
  ["bin", "dev", "etc", "home", "lib", "opt", "proc", "root", "run", "sys", "tmp", "usr", "var"]

/-- What is known to be found below the root. -/
def below? (names : List String) : Option FileNode :=
  match names with
  | [] => some .folder
  | [n] => if rootFolders.contains n then some .folder else none
  | names => if names = ["dev", "null"] then some (.file []) else none

/-- What is found at a path. A path with the character zero in it leads nowhere. -/
def find? (t : FileTree) (p : Path) : Except PathDefect (Option FileNode) :=
  if p.text.toList.contains '\x00' then .ok none
  else if pathLimit < p.text.utf8ByteSize then .error .tooLong
  else if p.root ≠ "" then .ok (below? p.names)
  else t.follow [] p.names

/-- The names of a path with double dots resolved. -/
def resolve : List String → List String → List String
  | here, [] => here.reverse
  | here, n :: rest => if n = ".." then resolve (here.drop 1) rest else resolve (n :: here) rest

/-- All beginnings of a list of names but the empty one, the whole list included. -/
def beginnings (names : List String) : List (List String) :=
  (List.range names.length).map fun n => names.take (n + 1)

/-- The tree with one folder more, which lies in a folder that is there. -/
def makeFolder (t : FileTree) (names : List String) (last : Bool) : Except PathDefect FileTree :=
  match t.at? names with
  | some .folder => .ok t
  | some (.file _) => .error (if last then .exists else .notFolder)
  | none =>
    if nameLimit < (names.getLast?.getD "").utf8ByteSize then .error .tooLong
    else .ok { t with folders := t.folders ++ [names] }

/-- The tree with a folder and all folders on the way to it. -/
def addFolder (t : FileTree) (p : Path) : Except PathDefect FileTree :=
  let names := resolve [] p.names
  if p.text.toList.contains '\x00' then .error .zero
  else if pathLimit < p.text.utf8ByteSize then .error .tooLong
  else (beginnings names).foldlM (fun t ns => t.makeFolder ns (ns.length = names.length)) t

/-- The tree with a file, which replaces an older one, and all folders on the way to it. -/
def addFile (t : FileTree) (p : Path) (content : List UInt8) : Except PathDefect FileTree := do
  let names := resolve [] p.names
  let t ← t.addFolder ⟨p.root, names.dropLast⟩
  match t.at? names with
  | some .folder => .error .isFolder
  | _ =>
    if p.text.toList.contains '\x00' then .error .zero
    else if nameLimit < (names.getLast?.getD "").utf8ByteSize ∨
        pathLimit < p.text.utf8ByteSize then .error .tooLong
    else return { t with files := (names, content) :: t.files.filter (·.1 ≠ names) }

end FileTree

end CallContract
