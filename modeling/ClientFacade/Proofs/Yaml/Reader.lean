import ClientFacade.Proofs.Outcome
import ClientFacade.Proofs.Text.Utf8
import ClientFacade.Yaml.File

/-!
# Readers of YAML

Files are read with a reader of YAML. Whatever else a reader does, it may complain about the
encoding of bytes only if they are not what is written for a text. It need not do so for all such
bytes, since it may meet a fault of the document before. The reader of this library decodes all
bytes first and then reads the text.
-/

namespace ClientFacade.Yaml

/-- Why bytes give no value. -/
inductive ReadFault
  | decoding (fault : DecodeFault)
  | content (fault : Fault)

def ReadFault.inFile : ReadFault → FileFault
  | .decoding fault => .decoding fault
  | .content fault => .content fault

abbrev Reader := Utf8.Bytes → Except ReadFault Value

namespace Reader

/-- The reader complains about an encoding only where it is not UTF-8. -/
def Decodes (reader : Reader) : Prop :=
  ∀ bytes fault, reader bytes = .error (.decoding fault) → ¬ ∃ text, bytes = Utf8.encode text

def readFile (reader : Reader) (store : Store) (path : Path) : Except FileFault Value := do
  let bytes ← (store.read path).mapError .store
  (reader bytes).mapError ReadFault.inFile

variable (reader : Reader) {store : Store} {path : Path}

theorem readFile_of_store_fault {fault : Store.Fault} (h : store.read path = .error fault) :
    reader.readFile store path = .error (.store fault) := by
  rw [readFile, h]
  rfl

theorem readFile_of_bytes {bytes : Utf8.Bytes} (h : store.read path = .ok bytes) :
    reader.readFile store path = (reader bytes).mapError ReadFault.inFile := by
  rw [readFile, h]
  rfl

end Reader

def reader : Reader := fun bytes => do
  let text ← (decodePieces bytes).mapError .decoding
  (read text.unifyLineEnds).mapError .content

theorem decodePieces_encode (text : Text) : decodePieces (Utf8.encode text) = .ok text := by
  rw [decodePieces, Utf8.decode_encode]

theorem reader_encode (text : Text) :
    reader (Utf8.encode text) = (read text.unifyLineEnds).mapError .content := by
  rw [reader, decodePieces_encode]
  rfl

/-- The reader of this library complains about the encoding of all bytes that are not UTF-8. -/
theorem exists_reader_decoding_iff {bytes : Utf8.Bytes} :
    (∃ fault, reader bytes = .error (.decoding fault)) ↔ ¬ ∃ text, bytes = Utf8.encode text := by
  constructor
  · rintro ⟨fault, h⟩ ⟨text, rfl⟩
    rw [reader_encode] at h
    obtain ⟨inner, -, hinner⟩ := except_mapError_eq_error_iff.mp h
    cases hinner
  · intro h
    obtain ⟨fault, hfault⟩ := Utf8.exists_decode_error h
    have hpieces : ∃ told, decodePieces bytes = .error told := by
      rw [decodePieces, hfault]
      exact ⟨_, rfl⟩
    obtain ⟨told, htold⟩ := hpieces
    refine ⟨told, ?_⟩
    rw [reader, htold]
    rfl

theorem decodes_reader : reader.Decodes :=
  fun _ fault h => exists_reader_decoding_iff.mp ⟨fault, h⟩

theorem readFile_reader (store : Store) (path : Path) :
    reader.readFile store path = readFile store path := by
  cases hread : store.read path with
  | error fault =>
    rw [Reader.readFile_of_store_fault _ hread, readFile, readWith, hread]
    rfl
  | ok bytes =>
    have hfile : readFile store path = ((decodePieces bytes).mapError .decoding >>= fun text =>
        (read text.unifyLineEnds).mapError .content) := by
      rw [readFile, readWith, hread]
      rfl
    rw [Reader.readFile_of_bytes _ hread, hfile, reader]
    cases decodePieces bytes with
    | error fault => rfl
    | ok text =>
      change ((read text.unifyLineEnds).mapError .content).mapError ReadFault.inFile =
        (read text.unifyLineEnds).mapError .content
      cases read text.unifyLineEnds <;> rfl

end ClientFacade.Yaml
