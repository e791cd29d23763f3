import ClientFacade.Encoding
import ClientFacade.Log.Logged
import ClientFacade.Source.Extraction
import ClientFacade.Store.Basic

/-!
# Loading sources

Sources are read from the store in order, and the first one that cannot be read or decoded ends it.
Line ends are unified. The size that is reported is that of the text as it is then.
-/

namespace ClientFacade.Source

inductive LoadFault
  | unreadable (path : Path) (fault : Store.Fault)
  | undecodable (path : Path) (fault : DecodeFault)
  /-- The path asks for no file at all. -/
  | nullByte
  deriving DecidableEq, Repr

def LoadFault.message : LoadFault → Text
  | .unreadable path fault =>
    "Failed to read source file " ++ path.text ++ ": " ++ fault.message
  | .undecodable path fault =>
    "Failed to decode source file " ++ path.text ++ ": " ++ fault.message
  | .nullByte => Store.Fault.nullByte.message

/-- The text of a file, with unified line ends. -/
def readText (store : Store) (encoding : Encoding) (path : Path) : Except LoadFault Text :=
  match store.read path with
  | .error .nullByte => .error .nullByte
  | .error fault => .error (.unreadable path fault)
  | .ok bytes =>
    match encoding.decode bytes with
    | .error fault => .error (.undecodable path fault)
    | .ok text => .ok text.unifyLineEnds

def loadReport (encoding : Encoding) (path : Path) (text : Text) : Record :=
  .of .sources .debug ("Loaded " ++ path.text ++ " (" ++ Text.ofNat (encoding.size text) ++
    " bytes)")

def load (store : Store) (encoding : Encoding) (path : Path) : Logged LoadFault Source := do
  let text ← Logged.ofExcept (readText store encoding path)
  Logged.write [loadReport encoding path text]
  return ⟨path.text, text⟩

def loadAll (store : Store) (encoding : Encoding) : List Path → Logged LoadFault (List Source)
  | [] => return []
  | path :: rest => do
    let source ← load store encoding path
    return source :: (← loadAll store encoding rest)

end ClientFacade.Source
