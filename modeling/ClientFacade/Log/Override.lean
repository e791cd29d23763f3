import ClientFacade.Log.Fault
import ClientFacade.Log.LevelName
import ClientFacade.Value.Heap

/-!
# Overriding levels

A level that is asked for replaces the levels of all loggers in a configuration. The handlers filter
below their own level, and so that level is only ever lowered. The levels are set one after another
in the cells of the configuration, where all that shares a cell sees them, and a level that was set
before a fault stays set. A name that is no level changes nothing.
-/

namespace ClientFacade.Log

/-- A change of a heap: what it leaves, and the fault that has ended it. -/
abbrev Edit := Heap → Heap × Option Fault

namespace Edit

def andThen (first second : Edit) : Edit := fun heap =>
  match first heap with
  | (next, none) => second next
  | (left, some fault) => (left, some fault)

/-- Goes over the last `left` entries of a map. What stands there is looked up when its turn comes,
and the map must not have grown when the next turn comes. -/
def alongLast (step : Ref → Edit) (id size : Nat) : Nat → Edit
  | 0, heap => (heap, none)
  | left + 1, heap =>
    match (heap.values id)[size - (left + 1)]? with
    | none => (heap, none)
    | some target =>
      match step target heap with
      | (next, some fault) => (next, some fault)
      | (next, none) =>
        if (next.values id).length = size then alongLast step id size left next
        else (next, some .grown)

def along (step : Ref → Edit) (id : Nat) : Edit := fun heap =>
  let size := (heap.values id).length
  alongLast step id size size heap

def part (key : Text) (config : Ref) (step : Ref → Edit) : Edit := fun heap =>
  match heap.get? key config with
  | none => (heap, none)
  | some value => step value heap

end Edit

def setLevel (name : Text) (target : Ref) : Edit := fun heap =>
  match target with
  | .atom value => (heap, some (.unassignable value.typeName))
  | .cell id =>
    match heap.cell id with
    | .map entries =>
      (heap.set id (.map (Entries.insert (.ofText "level") (.ofText name) entries)), none)
    | .list _ | .pairs _ => (heap, some (.listKey "str"))
    | .set _ => (heap, some (.unassignable "set"))

/-- The item of a list at an index, which counts from the end if it is negative. -/
def item? (items : List Ref) (index : Int) : Option Ref :=
  if index < 0 then
    if -index ≤ items.length then items[(items.length + index).toNat]? else none
  else items[index.toNat]?

/-- Takes the items of a list for the names of loggers. -/
def setLevelsByItem (name : Text) (items : List Ref) : List Ref → Edit
  | [], heap => (heap, none)
  | item :: rest, heap =>
    match item.int? with
    | none => (heap, some (.listKey (heap.typeName item)))
    | some index =>
      match item? items index with
      | none => (heap, some .indexPastEnd)
      | some target => (setLevel name target).andThen (setLevelsByItem name items rest) heap

def byteFault? : Utf8.Bytes → Option Fault
  | [] => none
  | code :: rest => some (if code.toNat ≤ rest.length then .unassignable "int" else .bytePastEnd)

def setLevels (name : Text) (loggers : Ref) : Edit := fun heap =>
  match loggers with
  | .atom (.scalar (.text text)) => (heap, if text = [] then none else some .textKey)
  | .atom (.bytes codes) => (heap, byteFault? codes)
  | .atom value => (heap, some (.notIterable value.typeName))
  | .cell id =>
    match heap.cell id with
    | .map _ => Edit.along (setLevel name) id heap
    | .list items => setLevelsByItem name items items heap
    | .pairs items => (heap, if items = [] then none else some (.listKey "tuple"))
    | .set members => (heap, if members = [] then none else some (.noKeys "set"))

def levelIn (heap : Heap) (handler : Ref) : Except Fault (Option Level) :=
  match heap.get? "level" handler with
  | none => .ok none
  | some old =>
    match old.text? with
    | none => .error (.levelNotText (heap.typeName old))
    | some name =>
      match Level.registered name with
      | .other type => .error (.incomparable type)
      | .level level => .ok (some level)

/-- Lowers the level of a handler to `level`, if it has one above that. -/
def lowerLevel (name : Text) (level : Level) (handler : Ref) : Edit := fun heap =>
  match levelIn heap handler with
  | .error fault => (heap, some fault)
  | .ok none => (heap, none)
  | .ok (some old) =>
    if level.severity < old.severity then setLevel name handler heap else (heap, none)

def lowerLevels (name : Text) (level : Level) (handlers : Ref) : Edit := fun heap =>
  match handlers with
  | .atom value => (heap, some (.noEntries value.typeName))
  | .cell id =>
    match heap.cell id with
    | .map _ => Edit.along (lowerLevel name level) id heap
    | _ => (heap, some (.noEntries (heap.typeName handlers)))

def overrideAll (name : Text) (level : Level) (config : Ref) : Edit :=
  (Edit.part "loggers" config (setLevels name)).andThen
    ((Edit.part "root" config (setLevel name)).andThen
      (Edit.part "handlers" config (lowerLevels name level)))

def override (asked : Text) (config : Graph) : Graph × Option Fault :=
  match Level.ofName? (Level.capitals asked) with
  | none => (config, some (.invalidLevel asked))
  | some level =>
    let change := overrideAll (Level.capitals asked) level config.root config.heap
    ({ config with heap := change.1 }, change.2)

end ClientFacade.Log
