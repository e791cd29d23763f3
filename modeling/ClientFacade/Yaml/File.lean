import ClientFacade.Encoding
import ClientFacade.Store.Basic
import ClientFacade.Yaml.Read

/-!
# YAML files

A YAML file is UTF-8 text. It is read to its end before it is decoded to its end, so that the
position of a cut character counts from that character.
-/

namespace ClientFacade.Yaml

inductive FileFault
  | store (fault : Store.Fault)
  | decoding (fault : DecodeFault)
  | content (fault : Fault)
  deriving DecidableEq, Repr

/-- Decodes a text that is read piece by piece. -/
def decodePieces (bytes : Utf8.Bytes) : Except DecodeFault Text :=
  match Utf8.decode bytes with
  | .ok text => .ok text
  | .error fault =>
    let cut := (bytes.drop fault.position).take fault.size
    let position := if fault.reason = .ending then 0 else fault.position
    .error ⟨"utf-8", position, cut, Encoding.utf8Reason fault.reason⟩

def readWith {α : Type} (reader : Text → Except Fault α) (store : Store) (path : Path) :
    Except FileFault α := do
  let bytes ← (store.read path).mapError .store
  let text ← (decodePieces bytes).mapError .decoding
  (reader text.unifyLineEnds).mapError .content

def readFile (store : Store) (path : Path) : Except FileFault Value := readWith read store path

def loadFile (store : Store) (path : Path) : Except FileFault Graph := readWith load store path

end ClientFacade.Yaml
