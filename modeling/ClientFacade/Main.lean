import ClientFacade.Command.Run

/-!
# The program

The files that a run looks at are copied into a store, the run is computed, and what it changed in
the store is written back.
-/

namespace ClientFacade.Program

attribute [local instance] Runtime.shared

/-- The paths from the start of a path down to itself. -/
def steps (path : Path) : List Path :=
  (List.range (path.names.length + 1)).map fun n => ⟨path.root, path.names.take n⟩

def copyEntry (store : Store) (path : Path) : IO Store := do
  match store.locate path with
  | .error _ => return store
  | .ok place =>
    let file := (← IO.currentDir) / String.ofList path.text
    if ← file.isDir then return store.set place .directory
    else if ← file.pathExists then
      return store.set place (.file (← IO.FS.readBinFile file).toList)
    else return store

def copyPath (store : Store) (path : Path) : IO Store := (steps path).foldlM copyEntry store

def copyPaths (store : Store) (paths : List Path) : IO Store := paths.foldlM copyPath store

/-- Writes back an entry that differs from what was there before. -/
def writeEntry (before : Store) (place : Place) (entry : Entry) : IO Unit := do
  if before.entries.lookup place ≠ some entry then
    let file := String.ofList ('/' :: Text.join ['/'] place)
    match entry with
    | .directory => IO.FS.createDirAll file
    | .file bytes => IO.FS.writeBinFile file (ByteArray.mk bytes.toArray)

def writeChanges (before after : Store) : IO Unit :=
  after.entries.forM fun (place, entry) => writeEntry before place entry

def environment : IO Environment := do
  match ← IO.getEnv (String.ofList Command.environmentName) with
  | some value => return [(Command.environmentName, value.toList)]
  | none => return []

def noticeText : Command.Notice → Text
  | .text text => text
  | .panel panel => panel.drawn

def escapeText : Command.Escape → Text
  | .variables fault => fault.message
  | .logging (.fallback fault) => fault.message
  | .logging (.uncovered fault) => fault.message
  | .markup fault => fault.message

def run (arguments : List Text) : IO UInt32 := do
  let start : Store := ⟨(Path.ofText (← IO.currentDir).toString.toList).names, []⟩
  let store ← copyPaths start (Command.writtenPaths arguments)
  let store ← copyPaths store (Command.settingsPaths store arguments)
  match Command.run (← environment) store arguments with
  | .error escape =>
    IO.eprintln (String.ofList (escapeText escape))
    return 1
  | .ok outcome =>
    writeChanges store outcome.store
    IO.print (String.ofList outcome.output)
    outcome.notices.forM fun notice => IO.eprint (String.ofList (noticeText notice))
    return outcome.code.toUInt32

end ClientFacade.Program

def main (arguments : List String) : IO UInt32 :=
  ClientFacade.Program.run (arguments.map String.toList)
