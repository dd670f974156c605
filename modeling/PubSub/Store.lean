import PubSub.Error

/-!
# The file store

Files under paths, as far as journals need them: regular files, directories, and the two devices that swallow what is
written to them. A file that has been opened is known by its number and outlives the removal of its name.

* `Store.locate`: where a path leads.
* `Store.openRead`, `Store.openWrite`: the number of the file under a path; the second creates it.
* `Node.read`, `Node.write`: what a file holds and how it changes.
-/

namespace PubSub

/-- What a path can lead to. -/
inductive Node
  /-- A regular file. -/
  | file (content : ByteArray)
  | directory
  /-- A device that takes everything and keeps nothing. -/
  | null
  /-- A device that has no room for a single byte. -/
  | full

namespace Node

/-- What reading yields. -/
def read : Node → Except OsError ByteArray
  | file content => .ok content
  | directory => .error .isDirectory
  | null => .ok .empty
  | full => .ok .empty

/-- The length that is told without reading. -/
def size : Node → Nat
  | file content => content.size
  | directory => 4096
  | null => 0
  | full => 0

/-- `bytes` put into `content` at `offset`; a gap is filled with zeros. -/
def splice (content bytes : ByteArray) (offset : Nat) : ByteArray :=
  let head :=
    if content.size < offset then
      (offset - content.size).fold (fun _ _ (acc : ByteArray) => acc.push 0) content
    else content.extract 0 offset
  head ++ bytes ++ content.extract (offset + bytes.size) content.size

/-- Writes `bytes` at `offset`, or at the end where no offset is given. -/
def write (node : Node) (offset : Option Nat) (bytes : ByteArray) : Except OsError Node :=
  match node with
  | file content =>
    match offset with
    | none => .ok (.file (content ++ bytes))
    | some o => if o = content.size then .ok (.file (content ++ bytes)) else .ok (.file (splice content bytes o))
  | directory => .error .isDirectory
  | null => .ok .null
  | full => if bytes.size = 0 then .ok .full else .error .noSpace

/-- The file without its content. -/
def truncate : Node → Node
  | file _ => .file .empty
  | other => other

end Node

/-- A step of a path. -/
abbrev PathName := List UInt8

/-- The names from the root to a file. -/
abbrev Place := List PathName

/-- Files and the places where they are found. -/
structure Store where
  /-- All files that have been, by their numbers. -/
  nodes : Array Node
  /-- The places that are taken. -/
  entries : List (Place × Nat)
  /-- Where relative paths start. -/
  base : Place

namespace Store

/-- The longest name of a file. -/
def maxNameLength : Nat := 255

/-- The length from which on a path is too long. -/
def pathLimit : Nat := 4096

/-- The character between the names of a path. -/
def slash : UInt8 := 0x2F

/-- The number of the file at a place. -/
def entry? (s : Store) (place : Place) : Option Nat :=
  (s.entries.find? fun e => e.1 == place).map Prod.snd

/-- The file of a number. -/
def node (s : Store) (id : Nat) : Node := s.nodes.getD id .directory

/-- Puts another content in the place of a file. -/
def setNode (s : Store) (id : Nat) (node : Node) : Store := { s with nodes := s.nodes.setIfInBounds id node }

/-- Adds a file. -/
def add (s : Store) (place : Place) (node : Node) : Store × Nat :=
  ({ s with nodes := s.nodes.push node, entries := (place, s.nodes.size) :: s.entries }, s.nodes.size)

/-- The store at the start: the devices, and an empty directory for relative paths with one empty directory in it. -/
def start (base : Place) (below : PathName) : Store :=
  let name (t : String) : PathName := t.toUTF8.data.toList
  { nodes := #[.directory, .null, .full]
    entries :=
      [([], 0), ([name "dev"], 0), ([name "dev", name "null"], 1), ([name "dev", name "full"], 2), ([name "tmp"], 0),
        (base, 0), (base ++ [below], 0)]
    base }

/-! ## Paths -/

/-- The names of a path. -/
def names (path : ByteArray) : List PathName :=
  let step (acc : List PathName × PathName) (b : UInt8) : List PathName × PathName :=
    if b = slash then (acc.2.reverse :: acc.1, []) else (acc.1, b :: acc.2)
  let r := path.foldl step ([], [])
  ((r.2.reverse :: r.1).filter fun n => !n.isEmpty).reverse

/-- Whether a path starts at the root. -/
def isAbsolute (path : ByteArray) : Bool := path.data[0]? == some slash

/-- Whether a path ends as paths of directories do. -/
def endsInSlash (path : ByteArray) : Bool := path.data.back? == some slash

/-- Where a path leads. -/
inductive Spot
  /-- To a file that is there. -/
  | taken (place : Place) (id : Nat)
  /-- To a place that is free in a directory that is there. -/
  | free (place : Place)

/-- Follows names from a place that is a directory. -/
def follow (s : Store) (place : Place) : List PathName → Except OsError Spot
  | [] =>
    match s.entry? place with
    | some id => .ok (.taken place id)
    | none => .error .noEntry
  | name :: rest =>
    if name = ['.'.toUInt8] then follow s place rest
    else if name = ['.'.toUInt8, '.'.toUInt8] then follow s place.dropLast rest
    else if maxNameLength < name.length then .error .nameTooLong
    else
      let below := place ++ [name]
      match s.entry? below, rest with
      | none, [] => .ok (.free below)
      | none, _ :: _ => .error .noEntry
      | some id, [] => .ok (.taken below id)
      | some id, _ :: _ =>
        match s.node id with
        | .directory => follow s below rest
        | _ => .error .notDirectory

/-- Where a path leads. -/
def locate (s : Store) (path : ByteArray) : Except OsError Spot :=
  if path.data.contains 0 then .error .zeroInName
  else if path.size = 0 then .error .noEntry
  else if pathLimit ≤ path.size then .error .nameTooLong
  else follow s (if isAbsolute path then [] else s.base) (names path)

/-- Whether there is a file under a path. -/
def present (s : Store) (path : ByteArray) : Bool :=
  match s.locate path with
  | .ok (.taken _ id) =>
    match s.node id with
    | .directory => true
    | _ => !endsInSlash path
  | _ => false

/-- The file under a path, for reading. -/
def openRead (s : Store) (path : ByteArray) : Except OsError Nat :=
  match s.locate path with
  | .error e => .error e
  | .ok (.free _) => .error .noEntry
  | .ok (.taken _ id) =>
    match s.node id with
    | .directory => .ok id
    | _ => if endsInSlash path then .error .notDirectory else .ok id

/-- The file under a path, for writing; it is created where there is none. -/
def openWrite (s : Store) (path : ByteArray) : Except OsError (Store × Nat) :=
  match s.locate path with
  | .error e => .error e
  | .ok (.free place) => if endsInSlash path then .error .isDirectory else .ok (s.add place (.file .empty))
  | .ok (.taken _ id) =>
    match s.node id with
    | .directory => .error .isDirectory
    | _ => if endsInSlash path then .error .isDirectory else .ok (s, id)

/-- Opens a file for writing and takes its content away. -/
def openEmpty (s : Store) (path : ByteArray) : Except OsError (Store × Nat) :=
  (s.openWrite path).map fun r => (r.1.setNode r.2 (r.1.node r.2).truncate, r.2)

/-- Writes to the file of a number. -/
def write (s : Store) (id : Nat) (offset : Option Nat) (bytes : ByteArray) : Except OsError Store :=
  ((s.node id).write offset bytes).map (s.setNode id)

/-! ## Whole files -/

/-- Everything in the file under a path. -/
def readFile (s : Store) (path : ByteArray) : Except OsError ByteArray :=
  match s.openRead path with
  | .error e => .error e
  | .ok id => (s.node id).read

/-- Puts a content in the place of the one under a path. -/
def putFile (s : Store) (path bytes : ByteArray) : Except OsError Unit × Store :=
  match s.openEmpty path with
  | .error e => (.error e, s)
  | .ok (s, id) =>
    match s.write id none bytes with
    | .error e => (.error e, s)
    | .ok s => (.ok (), s)

/-- Adds to the end of the file under a path. -/
def appendFile (s : Store) (path bytes : ByteArray) : Except OsError Unit × Store :=
  match s.openWrite path with
  | .error e => (.error e, s)
  | .ok (s, id) =>
    match s.write id none bytes with
    | .error e => (.error e, s)
    | .ok s => (.ok (), s)

/-- Takes away the name of a file. -/
def removeFile (s : Store) (path : ByteArray) : Except OsError Unit × Store :=
  match s.locate path with
  | .error e => (.error e, s)
  | .ok (.free _) => (.error .noEntry, s)
  | .ok (.taken place id) =>
    match s.node id with
    | .directory => (.error .isDirectory, s)
    | _ =>
      if endsInSlash path then (.error .notDirectory, s)
      else (.ok (), { s with entries := s.entries.filter fun e => e.1 != place })

end Store
end PubSub
