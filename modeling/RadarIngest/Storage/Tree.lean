/-!
**A directory tree of text files.**

The simulator reads its configuration from a file and appends a summary line to another; both
are named by paths relative to a working directory.  This module models that directory as a
finite tree, so that reading and appending are functions and their failures are values.

A path is walked from the root part by part, as the operating system walks it: empty parts and
`.` stay where they are, `..` goes up, and every part but the last must lead to a directory.  So
`file/x` fails with `IoError.notDirectory`, and `missing/../x` with `IoError.notFound` whether
or not `x` exists.  A path that ends with `/` must name a directory, and cannot be created as a
file.  Finding the directory part of a path is a matter of text alone: `.` is dropped and `..`
kept (`RadarIngest.Storage.parent?`).

Main definitions:

* `RadarIngest.Storage.IoError` with its texts;
* `RadarIngest.Storage.Tree.locate` — where a path leads;
* `RadarIngest.Storage.Tree.read`, `RadarIngest.Storage.Tree.createDirAll`,
  `RadarIngest.Storage.Tree.append`, `RadarIngest.Storage.Tree.write`.
-/

set_option autoImplicit false

namespace RadarIngest

namespace Storage

/-- Why a file operation failed. -/
inductive IoError where
  | notFound
  | alreadyExists
  | notDirectory
  | isDirectory
  /-- Any other failure, by the system's error number. -/
  | other (code : Nat)
  deriving DecidableEq, Repr

/-- The failure with a system error number. -/
def IoError.ofCode : Nat → IoError
  | 2 => .notFound
  | 17 => .alreadyExists
  | 20 => .notDirectory
  | 21 => .isDirectory
  | code => .other code

/-- The system's description of an error number. -/
def describeCode : Nat → String
  | 1 => "Operation not permitted"
  | 2 => "No such file or directory"
  | 5 => "Input/output error"
  | 13 => "Permission denied"
  | 17 => "File exists"
  | 20 => "Not a directory"
  | 21 => "Is a directory"
  | 24 => "Too many open files"
  | 28 => "No space left on device"
  | 30 => "Read-only file system"
  | 36 => "File name too long"
  | 40 => "Too many levels of symbolic links"
  | _ => "Unknown error"

/-- The text of a failure, with the system's error number. -/
def IoError.message (e : IoError) : String :=
  let code := match e with
    | .notFound => 2
    | .alreadyExists => 17
    | .notDirectory => 20
    | .isDirectory => 21
    | .other code => code
  describeCode code ++ " (os error " ++ toString code ++ ")"

/-- What a path names. -/
inductive Entry where
  | file (text : String)
  | directory
  deriving DecidableEq, Repr

/-- The parts of a path between slashes, empty parts dropped. -/
def parts (path : String) : List String := (path.splitOn "/").filter (· != "")

/-- The components of a path as a path library counts them: empty parts and `.` dropped, except
a `.` that starts the path; `..` kept. -/
def pathComponents (path : String) : List String :=
  match path.splitOn "/" with
  | "." :: rest => "." :: rest.filter fun p => p != "" && p != "."
  | ps => ps.filter fun p => p != "" && p != "."

/-- The directory part of a path: every component but the last; none when there is none. -/
def parent? (path : String) : Option String :=
  match pathComponents path with
  | [] => none
  | cs => some ("/".intercalate cs.dropLast)

/-- Where the walk of a path ends. -/
inductive Target where
  /-- A directory reached through `.`, `..` or no part at all, by its components. -/
  | directory (cs : List String)
  /-- The entry called `name` in the directory `dir`, which need not exist. -/
  | named (dir : List String) (name : String)
  deriving DecidableEq, Repr

/-- A tree of directories and text files, each entry under its full list of components; the
root is a directory and is not listed. -/
structure Tree where
  entries : List (List String × Entry) := []
  deriving Repr

namespace Tree

/-- What the components name, if anything; the empty list names the root. -/
def entry? (t : Tree) : List String → Option Entry
  | [] => some .directory
  | cs => t.entries.lookup cs

/-- Whether the components name a directory. -/
def isDir (t : Tree) (cs : List String) : Bool := t.entry? cs == some .directory

/-- Sets the entry under the components, replacing what was there. -/
def put (t : Tree) (cs : List String) (e : Entry) : Tree :=
  { entries := (cs, e) :: t.entries.filter (·.1 != cs) }

/-- One step of a walk from the directory `cur` through a part that must lead to a directory:
`.` stays, `..` goes up (the root is its own parent), and a name must be a directory in `cur`. -/
def enter (t : Tree) (cur : List String) (part : String) : Except IoError (List String) :=
  if part == "." then .ok cur
  else if part == ".." then .ok cur.dropLast
  else
    let cs := cur ++ [part]
    match t.entry? cs with
    | some .directory => .ok cs
    | some (.file _) => .error .notDirectory
    | none => .error .notFound

/-- Walks a path from the root: every part but the last must lead to a directory; a last part
that is `.` or `..` does too, and any other last part is only named. -/
def locate (t : Tree) (path : String) : Except IoError Target :=
  let ps := parts path
  match ps.getLast? with
  | none => .ok (.directory [])
  | some last => do
    let dir ← ps.dropLast.foldlM t.enter []
    if last == "." || last == ".." then pure (.directory (← t.enter dir last))
    else pure (.named dir last)

/-- The text of the file at a path.  A directory cannot be read, and a path ending with `/` must
name a directory. -/
def read (t : Tree) (path : String) : Except IoError String := do
  if path.isEmpty then throw .notFound
  match ← t.locate path with
  | .directory _ => throw .isDirectory
  | .named dir name =>
    match t.entry? (dir ++ [name]) with
    | some (.file text) => if path.endsWith "/" then throw .notDirectory else pure text
    | some .directory => throw .isDirectory
    | none => throw .notFound

/-- Makes one directory in a directory that exists; anything already at the path is in the way. -/
def mkdir (t : Tree) (path : String) : Except IoError Tree := do
  if path.isEmpty then throw .notFound
  match ← t.locate path with
  | .directory _ => throw .alreadyExists
  | .named dir name =>
    match t.entry? (dir ++ [name]) with
    | some _ => throw .alreadyExists
    | none => pure (t.put (dir ++ [name]) .directory)

/-- Whether a path leads to a directory. -/
def isDirectory (t : Tree) (path : String) : Bool :=
  if path.isEmpty then false
  else match t.locate path with
    | .ok (.directory _) => true
    | .ok (.named dir name) => t.isDir (dir ++ [name])
    | .error _ => false

/-- Makes a directory and its missing parents, with a step for each component: the directory
itself first; when its parent is missing, the parents, and then the directory again.  A
directory that exists already is fine, anything else in the way is not. -/
def createDirAllSteps (t : Tree) : Nat → String → Except IoError Tree
  | 0, _ => .error .notFound
  | fuel + 1, path =>
    if pathComponents path == [] then .ok t
    else
      match t.mkdir path with
      | .ok t => .ok t
      | .error .notFound =>
        match parent? path with
        | none => .error .notFound
        | some p =>
          match t.createDirAllSteps fuel p with
          | .error e => .error e
          | .ok t =>
            match t.mkdir path with
            | .ok t => .ok t
            | .error e => if t.isDirectory path then .ok t else .error e
      | .error e => if t.isDirectory path then .ok t else .error e

/-- Makes the directory at a path and its missing parents; the empty path needs nothing. -/
def createDirAll (t : Tree) (path : String) : Except IoError Tree :=
  t.createDirAllSteps ((pathComponents path).length + 1) path

/-- Appends text to the file at a path, creating the file when it is missing.  A path that
ends with `/`, or leads to a directory, cannot be opened for writing. -/
def append (t : Tree) (path : String) (text : String) : Except IoError Tree := do
  if path.isEmpty then throw .notFound
  match ← t.locate path with
  | .directory _ => throw .isDirectory
  | .named dir name =>
    if path.endsWith "/" then throw .isDirectory
    let cs := dir ++ [name]
    match t.entry? cs with
    | some (.file old) => pure (t.put cs (.file (old ++ text)))
    | some .directory => throw .isDirectory
    | none => pure (t.put cs (.file text))

/-- Writes a file at a path without `..`, making its directories on the way; `.` stays where it
is, and what was at the path is replaced. -/
def write (t : Tree) (path : String) (text : String) : Except IoError Tree := do
  let ps := parts path
  let (t, dir) ← ps.dropLast.foldlM (fun ((t, cur) : Tree × List String) part =>
    if part == "." then pure (t, cur)
    else
      let cs := cur ++ [part]
      match t.entry? cs with
      | some .directory => pure (t, cs)
      | some (.file _) => throw .notDirectory
      | none => pure (t.put cs .directory, cs)) (t, [])
  match ps.getLast? with
  | none => throw .isDirectory
  | some last =>
    if last == "." then throw .isDirectory
    let cs := dir ++ [last]
    match t.entry? cs with
    | some .directory => throw .isDirectory
    | _ => pure (t.put cs (.file text))

/-- The text of a file, none when the path does not name a readable file. -/
def contents? (t : Tree) (path : String) : Option String :=
  match t.read path with
  | .ok text => some text
  | .error _ => none

end Tree

end Storage

end RadarIngest
