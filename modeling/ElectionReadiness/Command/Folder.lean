import ElectionReadiness.Text.Split

/-!
# Folders

The folder where the command runs, within the tree of all folders and files, and what
paths mean there.  A path leads step by step from the root of the tree if it begins with
a slash, and from the working folder if not; every step but the last must come to a
folder.  A step may go back to the folder around, and at the root it stays there.
-/

set_option autoImplicit false

namespace ElectionReadiness.Command

/-- The content of a file. -/
inductive Content where
  | text (value : String)
  /-- Bytes that are no text. -/
  | bytes (raw : List UInt8)
  deriving DecidableEq

/-- The content of these bytes. -/
def Content.ofBytes (raw : List UInt8) : Content :=
  match String.fromUTF8? ⟨raw.toArray⟩ with
  | some value => .text value
  | none => .bytes raw

/-- The content as text. -/
def Content.text? : Content → Option String
  | text value => some value
  | bytes _ => none

/-- The folder where the command runs.  It and all that is in the tree around it is named by
the steps that lead there from the root. -/
structure Folder where
  /-- The working folder itself. -/
  here : List String := []
  /-- The folders of the tree, besides those on the way to the working folder. -/
  folders : List (List String) := []
  /-- The files of the tree. -/
  files : List (List String × Content) := []
  deriving DecidableEq

/-- Where a path leads. -/
inductive Place where
  | folder (steps : List String)
  | file (steps : List String)
  /-- Nothing is there, but a file could be. -/
  | vacant (steps : List String)
  | nowhere
  deriving DecidableEq, Repr

/-! ## Paths -/

/-- The longest name of a file, in bytes. -/
def longestName : Nat := 255

/-- The longest path, in bytes. -/
def longestPath : Nat := 4095

/-- A text that can name a file. -/
def isFileName (name : String) : Bool :=
  name.utf8ByteSize ≤ longestName && name.toList.all (·.toNat != 0)

namespace Folder

/-- The content of a file. -/
def content? (folder : Folder) (steps : List String) : Option Content :=
  folder.files.lookup steps

/-- A folder is at the end of steps.  The working folder is there, and all that it is in. -/
def isFolder (folder : Folder) (steps : List String) : Bool :=
  steps.isPrefixOf folder.here || folder.folders.contains steps

/-- What is at the end of steps. -/
def placeOf (folder : Folder) (steps : List String) : Place :=
  if folder.isFolder steps then .folder steps
  else if (folder.content? steps).isSome then .file steps
  else .vacant steps

/-- Takes one step of a path. -/
def step (folder : Folder) (place : Place) (name : String) : Place :=
  match place with
  | .folder steps =>
    if name == "" || name == "." then .folder steps
    else if name == ".." then .folder steps.dropLast
    else if isFileName name then folder.placeOf (steps ++ [name])
    else .nowhere
  | _ => .nowhere

/-- Where a path starts.  The empty path and those that are too long start nowhere. -/
def start (folder : Folder) (path : String) : Place :=
  if longestPath < path.utf8ByteSize then .nowhere
  else
    match path.toList with
    | [] => .nowhere
    | '/' :: _ => .folder []
    | _ => .folder folder.here

/-- Where a path leads. -/
def locate (folder : Folder) (path : String) : Place :=
  ((Text.split '/' path.toList).map String.ofList).foldl folder.step (folder.start path)

/-! ## Files -/

/-- A path leads to something. -/
def isPresent (folder : Folder) (path : String) : Bool :=
  match folder.locate path with
  | .folder _ | .file _ => true
  | _ => false

/-- The text of the file at a path. -/
def readText? (folder : Folder) (path : String) : Option String :=
  match folder.locate path with
  | .file steps => (folder.content? steps).bind Content.text?
  | _ => none

/-- Replaces the content of a file, or adds the file at the end. -/
def putFile (steps : List String) (content : Content) :
    List (List String × Content) → List (List String × Content)
  | [] => [(steps, content)]
  | (other, present) :: rest =>
    if other = steps then (steps, content) :: rest
    else (other, present) :: putFile steps content rest

/-- The folder with another content of the file at a path, if a file can be there. -/
def write? (folder : Folder) (path : String) (content : Content) : Option Folder :=
  match folder.locate path with
  | .file steps | .vacant steps =>
    some { folder with files := putFile steps content folder.files }
  | _ => none

/-- The tree with folders along a path in the working folder. -/
def withFolder (folder : Folder) (path : String) : Folder :=
  let steps := ((Text.split '/' path.toList).map String.ofList).filter fun name =>
    name != "" && name != "."
  let along := (List.range steps.length).map fun count => folder.here ++ steps.take (count + 1)
  { folder with folders := folder.folders ++ along }

/-- The files that are in the working folder itself, by name. -/
def ownFiles (folder : Folder) : List (String × Content) :=
  folder.files.filterMap fun (steps, content) =>
    if steps.dropLast = folder.here then steps.getLast?.map fun name => (name, content) else none

end Folder

end ElectionReadiness.Command
