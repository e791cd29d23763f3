import ClientFacade.Path
import ClientFacade.Text.Quoted
import ClientFacade.Text.Utf8

/-!
# The store

The store holds files and directories in one tree, with a working directory somewhere in it. A path
is walked name by name, from the root or from the working directory, and two dots go up. A walk
fails at the first name that is missing or too long, or where a file stands in place of a
directory.
-/

namespace ClientFacade

open Utf8 (Bytes)

inductive Entry
  | file (bytes : Bytes)
  | directory
  deriving DecidableEq, Repr

/-- The names from the root down to an entry. -/
abbrev Place := List Text

structure Store where
  base : Place
  entries : List (Place × Entry)

namespace Store

inductive Cause
  | missing
  | notDirectory
  | isDirectory
  | exists
  | tooLong
  deriving DecidableEq, Repr

def Cause.message : Cause → Text
  | .missing => "[Errno 2] No such file or directory"
  | .notDirectory => "[Errno 20] Not a directory"
  | .isDirectory => "[Errno 21] Is a directory"
  | .exists => "[Errno 17] File exists"
  | .tooLong => "[Errno 36] File name too long"

inductive Fault
  | failed (cause : Cause) (path : Path)
  | nullByte
  deriving DecidableEq, Repr

def Fault.message : Fault → Text
  | .failed cause path => cause.message ++ ": " ++ path.text.quoted
  | .nullByte => "embedded null byte"

/-- The entry at a place. The root and the directories above the working directory are always
there. -/
def entry? (store : Store) (place : Place) : Option Entry :=
  if place.isPrefixOf store.base then some .directory else store.entries.lookup place

def put (place : Place) (entry : Entry) : List (Place × Entry) → List (Place × Entry)
  | [] => [(place, entry)]
  | (other, old) :: rest =>
    if other = place then (place, entry) :: rest else (other, old) :: put place entry rest

def set (store : Store) (place : Place) (entry : Entry) : Store :=
  { store with entries := put place entry store.entries }

def nameLimit : Nat := 255

/-- A path with this many bytes is too long. -/
def pathLimit : Nat := 4096

def step (store : Store) (place : Place) (name : Text) : Except Cause Place :=
  match store.entry? place with
  | none => .error .missing
  | some (.file _) => .error .notDirectory
  | some .directory =>
    if name = ['.', '.'] then .ok place.dropLast
    else if nameLimit < (Utf8.encode name).length then .error .tooLong
    else .ok (place ++ [name])

def walk (store : Store) : Place → List Text → Except Cause Place
  | place, [] => .ok place
  | place, name :: rest => do store.walk (← store.step place name) rest

def start (store : Store) (path : Path) : Place := if path.isAbsolute then [] else store.base

/-- The place of a path. The last name need not exist. -/
def locate (store : Store) (path : Path) : Except Fault Place :=
  if path.text.elem '\x00' then .error .nullByte
  else if pathLimit ≤ (Utf8.encode path.text).length then .error (.failed .tooLong path)
  else (store.walk (store.start path) path.names).mapError fun cause => .failed cause path

def find (store : Store) (path : Path) : Except Fault Entry := do
  match store.entry? (← store.locate path) with
  | some entry => .ok entry
  | none => .error (.failed .missing path)

def read (store : Store) (path : Path) : Except Fault Bytes := do
  match ← store.find path with
  | .file bytes => .ok bytes
  | .directory => .error (.failed .isDirectory path)

/-- Whether there is an entry. A path that cannot be followed leads nowhere, unless it is too
long. -/
def holds (store : Store) (path : Path) : Except Fault Bool :=
  match store.find path with
  | .ok _ => .ok true
  | .error (.failed .tooLong path) => .error (.failed .tooLong path)
  | .error _ => .ok false

/-- Walks along the parts of a written path. Between slashes an empty part or a dot stays where it
is, which must be a directory. -/
def follow (store : Store) : Place → List Text → Except Cause Place
  | place, [] => .ok place
  | place, part :: rest =>
    if Path.isName part then do store.follow (← store.step place part) rest
    else do
      let _ ← store.step place ['.', '.']
      store.follow place rest

/-- The entry that a path leads to as it is written, if it leads to one. Unlike the path read from
it, `file/` and the empty text lead nowhere. -/
def entryAt? (store : Store) (written : Text) : Option Entry :=
  if written = [] || pathLimit ≤ (Utf8.encode written).length then none
  else
    match store.follow (store.start (Path.ofText written)) (written.pieces '/') with
    | .ok place => store.entry? place
    | .error _ => none

/-- Writes a file, new or over an old one. Its directory must be there. -/
def write (store : Store) (path : Path) (bytes : Bytes) : Except Fault Store := do
  let place ← store.locate path
  match store.entry? place with
  | some .directory => .error (.failed .isDirectory path)
  | _ => .ok (store.set place (.file bytes))

def makeDirectory (store : Store) (path : Path) : Except Fault Store := do
  let place ← store.locate path
  match store.entry? place with
  | some _ => .error (.failed .exists path)
  | none => .ok (store.set place .directory)

def hasDirectory (store : Store) (path : Path) : Bool :=
  match store.find path with
  | .ok .directory => true
  | _ => false

/-- The store after an attempt to change it, and the fault that ended the attempt, if one did. -/
structure Attempt where
  store : Store
  fault : Option Fault

def ensureDirectory (store : Store) (path : Path) : Attempt :=
  match store.makeDirectory path with
  | .ok made => ⟨made, none⟩
  | .error fault => ⟨store, if store.hasDirectory path then none else some fault⟩

/-- Makes a directory with all that are missing above it. `names` are the names of the path from
the last one back. -/
def makeDirectories (store : Store) (root : Root) : List Text → Attempt
  | [] => store.ensureDirectory ⟨root, []⟩
  | name :: above =>
    let path : Path := ⟨root, (name :: above).reverse⟩
    match store.makeDirectory path with
    | .error (.failed .missing _) =>
      let attempt := store.makeDirectories root above
      match attempt.fault with
      | some _ => attempt
      | none => attempt.store.ensureDirectory path
    | _ => store.ensureDirectory path

def makeParents (store : Store) (path : Path) : Attempt :=
  store.makeDirectories path.parent.root path.parent.names.reverse

def save (store : Store) (path : Path) (bytes : Bytes) : Attempt :=
  let attempt := store.makeParents path
  match attempt.fault with
  | some _ => attempt
  | none =>
    match attempt.store.write path bytes with
    | .ok written => ⟨written, none⟩
    | .error fault => ⟨attempt.store, some fault⟩

/-- A store whose working directory is empty. No path names that directory from above. -/
def empty : Store := ⟨[[]], []⟩

/-- Adds an entry below the working directory, with the directories above it. -/
def add (store : Store) (names : List Text) (entry : Entry) : Store :=
  let above := (List.range names.length).filterMap fun n =>
    if 0 < n then some (names.take n) else none
  let store := above.foldl
    (fun store names =>
      match store.entry? (store.base ++ names) with
      | some _ => store
      | none => store.set (store.base ++ names) .directory) store
  store.set (store.base ++ names) entry

end Store

end ClientFacade
