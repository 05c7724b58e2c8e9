import ChartScript.Fault

/-!
# Files

A file tree is what a run finds in its working directory and leaves there.  A path goes
step by step from that directory, or from the root.  Of what lies outside, only the
directories on the way up are known.  An operation fails for the reason that the first
unsuitable step of its path gives.
-/

namespace ChartScript

/-- What stands at a place: the bytes of a file, or a directory. -/
inductive FileNode where
  | file (bytes : List UInt8)
  | directory
  deriving DecidableEq, Repr

/-- What a tree holds, by the names on the way there. -/
structure FileTree where
  nodes : List (List Text × FileNode)
  deriving DecidableEq, Repr

namespace FileTree

def maxName : Nat := 255

/-- The longest path, in bytes. -/
def maxPath : Nat := 4095

def here : Text := ['.']

def above : Text := ['.', '.']

/-- The place of the root; no name holds a slash. -/
def root : List Text := [['/']]

/-- The place above a place.  Over the working directory the way up is kept as it is. -/
def parent (place : List Text) : List Text :=
  if place = root then root
  else if place.all (· = above) then place ++ [above]
  else place.dropLast

def stepsOf (path : Text) : List Text := (path.splitOnP (· == '/')).filter (!·.isEmpty)

/-- The place of a path within the working directory that only goes down. -/
def placeOf (path : Text) : List Text := (stepsOf path).filter (· ≠ here)

/-- The place where the steps of a path begin. -/
def origin (path : Text) : List Text := if path.head? == some '/' then root else []

def endsInSlash (path : Text) : Bool := path.getLast? == some '/'

/-- The reason why a path will not do in any tree. -/
def pathFault? (path : Text) : Option FileError :=
  if path.contains '\x00' then some .nulInPath
  else if path.isEmpty then some .notFound
  else if path.byteLength > maxPath then some .nameTooLong
  else none

/-- What stands at a place.  The places on the way to a node are directories. -/
def node? (tree : FileTree) (place : List Text) : Option FileNode :=
  match tree.nodes.lookup place with
  | some node => some node
  | none =>
    if place = root || place.all (· = above)
        || tree.nodes.any (fun (names, _) => place.isPrefixOf names) then
      some .directory
    else none

/-- Goes one step from a place, at which a directory has to stand. -/
def step (tree : FileTree) (place : List Text) (name : Text) : Except FileError (List Text) :=
  match tree.node? place with
  | none => .error .notFound
  | some (.file _) => .error .notADirectory
  | some .directory =>
    if name = here then .ok place
    else if name = above then .ok (parent place)
    else if name.byteLength > maxName then .error .nameTooLong
    else .ok (place ++ [name])

/-- Goes steps from a place, and gives the place they lead to, which may be empty. -/
def walk (tree : FileTree) (place : List Text) : List Text → Except FileError (List Text)
  | [] => .ok place
  | name :: names =>
    match tree.step place name with
    | .error error => .error error
    | .ok place => walk tree place names

def read (tree : FileTree) (path : Text) : Except FileError (List UInt8) :=
  match pathFault? path with
  | some error => .error error
  | none =>
    match tree.walk (origin path) (stepsOf path) with
    | .error error => .error error
    | .ok place =>
      match tree.node? place with
      | none => .error .notFound
      | some .directory => .error .isADirectory
      | some (.file bytes) => if endsInSlash path then .error .notADirectory else .ok bytes

/-- Creates a file, or replaces its contents.  A path with a slash at its end asks for a
directory, whatever its last name is. -/
def write (tree : FileTree) (path : Text) (bytes : List UInt8) : Except FileError FileTree :=
  match pathFault? path with
  | some error => .error error
  | none =>
    if endsInSlash path then
      match tree.walk (origin path) ((stepsOf path).dropLast ++ [here]) with
      | .error error => .error error
      | .ok _ => .error .isADirectory
    else
      match tree.walk (origin path) (stepsOf path) with
      | .error error => .error error
      | .ok place =>
        match tree.node? place with
        | some .directory => .error .isADirectory
        | some (.file _) => .ok ⟨(place, .file bytes) :: tree.nodes.filter (·.1 ≠ place)⟩
        | none => .ok ⟨(place, .file bytes) :: tree.nodes⟩

end FileTree

end ChartScript
