import ClientFacade.Command.Run
import ClientFacade.Proofs.Yaml.Reader

/-!
# Settings files that cannot be read

A settings file may be missing, hold bytes that are no text, or hold no document. A fault of the
store or of the document is told as one of the settings file, and a command that loads the settings
fails under its own name. Other faults are overlooked by both and leave as they are: those of bytes
that are no text, although they are told where a source is loaded, those of a scalar that stands for
no value, and that of a path with a NUL.
-/

namespace ClientFacade

open Yaml (Reader)

namespace Store

variable {store : Store} {path : Path}

theorem locate_eq_nullByte_iff :
    store.locate path = .error .nullByte ↔ '\x00' ∈ path.text := by
  have helem : path.text.elem '\x00' = true ↔ '\x00' ∈ path.text := List.elem_iff
  rw [← helem]
  unfold locate
  split_ifs with hnull hlong
  · exact iff_of_true rfl hnull
  · exact iff_of_false (by simp) hnull
  · refine iff_of_false ?_ hnull
    rw [except_mapError_eq_error_iff]
    rintro ⟨cause, -, hcause⟩
    cases hcause

theorem find_eq_nullByte_iff : store.find path = .error .nullByte ↔ '\x00' ∈ path.text := by
  rw [← @locate_eq_nullByte_iff store path, find]
  cases store.locate path with
  | error fault => simp [bind, Except.bind]
  | ok place => cases hentry : store.entry? place <;> simp [bind, Except.bind, hentry]

theorem read_eq_nullByte_iff : store.read path = .error .nullByte ↔ '\x00' ∈ path.text := by
  rw [← @find_eq_nullByte_iff store path, read]
  cases store.find path with
  | error fault => simp [bind, Except.bind]
  | ok entry => cases entry <;> simp [bind, Except.bind]

end Store

namespace Source

def LoadFault.IsOfSource : LoadFault → Prop
  | .unreadable _ _ | .undecodable _ _ => True
  | .nullByte => False

variable {store : Store} {path : Path}

theorem load_outcome_eq_error {encoding : Encoding} {fault : LoadFault}
    (h : readText store encoding path = .error fault) :
    (load store encoding path).outcome = .error fault := by
  unfold load
  rw [h]
  rfl

theorem exists_undecodable {bytes : Utf8.Bytes} (hread : store.read path = .ok bytes)
    (h : ¬ ∃ text, bytes = Utf8.encode text) :
    ∃ fault, (load store .utf8 path).outcome = .error (.undecodable path fault) := by
  obtain ⟨fault, hfault⟩ := Utf8.exists_decode_error h
  have hdecode : ∃ told, Encoding.utf8.decode bytes = .error told :=
    ⟨_, except_mapError_eq_error_iff.mpr ⟨fault, hfault, rfl⟩⟩
  obtain ⟨told, htold⟩ := hdecode
  refine ⟨told, load_outcome_eq_error ?_⟩
  rw [readText, hread]
  dsimp only
  rw [htold]

/-- A source that is no file with a text fails to load, and only a NUL is not told as its fault. -/
theorem exists_load_error (h : ¬ ∃ text, store.read path = .ok (Utf8.encode text)) :
    ∃ fault, (load store .utf8 path).outcome = .error fault ∧
      (fault.IsOfSource ↔ '\x00' ∉ path.text) := by
  rw [← @Store.read_eq_nullByte_iff store path]
  cases hread : store.read path with
  | error fault =>
    cases fault with
    | failed cause place =>
      refine ⟨.unreadable path (.failed cause place), load_outcome_eq_error ?_,
        by simp [LoadFault.IsOfSource]⟩
      rw [readText, hread]
    | nullByte =>
      refine ⟨.nullByte, load_outcome_eq_error ?_, by simp [LoadFault.IsOfSource]⟩
      rw [readText, hread]
  | ok bytes =>
    have hbytes : ¬ ∃ text, bytes = Utf8.encode text :=
      fun ⟨text, htext⟩ => h ⟨text, by rw [hread, htext]⟩
    obtain ⟨fault, hfault⟩ := exists_undecodable hread hbytes
    exact ⟨_, hfault, by simp [LoadFault.IsOfSource]⟩

end Source

/-! ## The settings in a file, read by any reader -/

namespace Settings

variable {reader : Reader} {store : Store} {path : Path}

def readFileBy [Runtime] (reader : Reader) (store : Store) (path : Path) :
    Except FileFault Settings :=
  match reader.readFile store path with
  | .error fault => .error (.ofYaml path fault)
  | .ok value => ofFileValue path value

def loadBy [Runtime] (reader : Reader) (store : Store) (path : Path) :
    Logged FileFault Settings := do
  Logged.log .config .debug ("Loading configuration from: " ++ path.text)
  Logged.ofExcept (readFileBy reader store path)

theorem readFileBy_reader [Runtime] (store : Store) (path : Path) :
    readFileBy Yaml.reader store path = readFile store path := by
  cases hread : Yaml.readFile store path with
  | error fault => simp only [readFileBy, readFile, Yaml.readFile_reader, hread]
  | ok value => simp only [readFileBy, readFile, Yaml.readFile_reader, hread]

theorem loadBy_reader [Runtime] (store : Store) (path : Path) :
    loadBy Yaml.reader store path = load store path := by
  rw [loadBy, load, readFileBy_reader]

theorem loadBy_outcome [Runtime] (reader : Reader) (store : Store) (path : Path) :
    (loadBy reader store path).outcome = readFileBy reader store path := rfl

/-- Why a settings file is not read and its fault is not told as one of the file. -/
inductive Overlooked (reader : Reader) (store : Store) (path : Path) : Prop
  | nullByte (hnull : '\x00' ∈ path.text)
  | bytes {bytes : Utf8.Bytes} {fault : DecodeFault} (hread : store.read path = .ok bytes)
      (hfault : reader bytes = .error (.decoding fault))
  | scalar {bytes : Utf8.Bytes} {kind : Yaml.FaultKind} {reason : Text}
      (hread : store.read path = .ok bytes)
      (hfault : reader bytes = .error (.content (.impossible kind reason)))

theorem overlooked_iff_of_store_fault {fault : Store.Fault} (h : store.read path = .error fault) :
    Overlooked reader store path ↔ fault = .nullByte := by
  have hnull : fault = .nullByte ↔ '\x00' ∈ path.text := by
    rw [← @Store.read_eq_nullByte_iff store path, h, Except.error.injEq]
  rw [hnull]
  constructor
  · rintro (hmem | ⟨hread, -⟩ | ⟨hread, -⟩)
    · exact hmem
    · cases h.symm.trans hread
    · cases h.symm.trans hread
  · exact Overlooked.nullByte

theorem overlooked_iff_of_read_fault {bytes : Utf8.Bytes} {fault : Yaml.ReadFault}
    (hread : store.read path = .ok bytes) (h : reader bytes = .error fault) :
    Overlooked reader store path ↔ fault ≠ .content .malformed := by
  constructor
  · rintro (hmem | ⟨hread', hfault⟩ | ⟨hread', hfault⟩) rfl
    · cases hread.symm.trans (Store.read_eq_nullByte_iff.mpr hmem)
    · obtain rfl := Except.ok.inj (hread.symm.trans hread')
      cases h.symm.trans hfault
    · obtain rfl := Except.ok.inj (hread.symm.trans hread')
      cases h.symm.trans hfault
  · intro hother
    rcases fault with fault | (- | ⟨kind, reason⟩)
    · exact .bytes hread h
    · exact absurd rfl hother
    · exact .scalar hread h

/-- What the reader of this library overlooks: a NUL in the path, bytes that are not UTF-8, and a
scalar without a value. -/
theorem overlooked_reader_iff : Overlooked Yaml.reader store path ↔
    '\x00' ∈ path.text ∨
    (∃ bytes, store.read path = .ok bytes ∧ ¬ ∃ text, bytes = Utf8.encode text) ∨
    ∃ text kind reason, store.read path = .ok (Utf8.encode text) ∧
      Yaml.read text.unifyLineEnds = .error (.impossible kind reason) := by
  constructor
  · rintro (hnull | ⟨hread, hfault⟩ | @⟨bytes, kind, reason, hread, hfault⟩)
    · exact Or.inl hnull
    · exact Or.inr (Or.inl ⟨_, hread, Yaml.decodes_reader _ _ hfault⟩)
    · by_cases htext : ∃ text, bytes = Utf8.encode text
      · obtain ⟨text, rfl⟩ := htext
        refine Or.inr (Or.inr ⟨text, kind, reason, hread, ?_⟩)
        rw [Yaml.reader_encode] at hfault
        obtain ⟨fault, hvalue, hsame⟩ := except_mapError_eq_error_iff.mp hfault
        rw [hvalue, Yaml.ReadFault.content.inj hsame]
      · exact Or.inr (Or.inl ⟨bytes, hread, htext⟩)
  · rintro (hnull | ⟨bytes, hread, hbytes⟩ | ⟨text, kind, reason, hread, hfault⟩)
    · exact .nullByte hnull
    · obtain ⟨fault, hfault⟩ := Yaml.exists_reader_decoding_iff.mpr hbytes
      exact .bytes hread hfault
    · have hreader : Yaml.reader (Utf8.encode text) =
          .error (.content (.impossible kind reason)) := by
        rw [Yaml.reader_encode, hfault]
        rfl
      exact .scalar hread hreader

/-- A file that is not read gives a fault, which is told as one of the file unless it is
overlooked. -/
theorem exists_readFileBy_error [Runtime] (h : ¬ ∃ value, reader.readFile store path = .ok value) :
    ∃ fault, readFileBy reader store path = .error fault ∧
      (fault.isOfFile = true ↔ ¬ Overlooked reader store path) := by
  cases hread : store.read path with
  | error fault =>
    have hfile : readFileBy reader store path = .error (.ofYaml path (.store fault)) := by
      rw [readFileBy, Reader.readFile_of_store_fault _ hread]
    refine ⟨_, hfile, ?_⟩
    rw [overlooked_iff_of_store_fault hread]
    cases fault <;> simp [FileFault.ofYaml, FileFault.isOfFile]
  | ok bytes =>
    have hbytes := Reader.readFile_of_bytes reader hread
    cases hreader : reader bytes with
    | ok value =>
      rw [hreader] at hbytes
      exact absurd ⟨value, hbytes⟩ h
    | error fault =>
      rw [hreader] at hbytes
      have hfile : readFileBy reader store path = .error (.ofYaml path fault.inFile) := by
        rw [readFileBy, hbytes]
        rfl
      refine ⟨_, hfile, ?_⟩
      rw [overlooked_iff_of_read_fault hread hreader]
      rcases fault with fault | (- | ⟨kind, reason⟩) <;>
        simp [Yaml.ReadFault.inFile, FileFault.ofYaml, FileFault.isOfFile]

end Settings

namespace Command

open Settings (Overlooked)

def loadSettingsBy [Runtime] (reader : Reader) (store : Store) (command : Text) (path : Option Path)
    (files : List Path) (strict : Option Bool) : Logged (Stop Cause) Settings := do
  let settings ←
    match path with
    | none => pure Settings.defaults
    | some path => (Settings.loadBy reader store path).mapError (stopOfSettings command)
  return settings.override files strict

theorem loadSettingsBy_reader [Runtime] (store : Store) (command : Text) (path : Option Path)
    (files : List Path) (strict : Option Bool) :
    loadSettingsBy Yaml.reader store command path files strict =
      loadSettings store command path files strict := by
  cases path with
  | none => rfl
  | some path =>
    rw [loadSettingsBy, loadSettings]
    dsimp only
    rw [Settings.loadBy_reader]

theorem loadSettingsBy_outcome_eq_error [Runtime] {reader : Reader} {store : Store} {path : Path}
    {fault : Settings.FileFault} (h : Settings.readFileBy reader store path = .error fault)
    (command : Text) (files : List Path) (strict : Option Bool) :
    (loadSettingsBy reader store command (some path) files strict).outcome =
      .error (stopOfSettings command fault) := by
  have hload : ((Settings.loadBy reader store path).mapError (stopOfSettings command)).outcome =
      .error (stopOfSettings command fault) := by
    rw [Logged.mapError, Settings.loadBy_outcome, h]
    rfl
  simp only [loadSettingsBy, Logged.bind_def, Logged.andThen, hload]

/-- A settings file that is not read ends in a fault of the file, and a command that loads it fails
under its own name with this fault, unless the fault is an overlooked one, which leaves both as it
is. Where a source is not read or decoded, all faults but that of a NUL are told as those of the
source, also the bytes that are overlooked in a settings file. -/
theorem unread_settings_are_told_unless_overlooked [Runtime] (reader : Reader)
    (hdecodes : reader.Decodes)
    (store : Store) (path : Path) (h : ¬ ∃ value, reader.readFile store path = .ok value)
    (command : Text) (files : List Path) (strict : Option Bool) :
    (¬ Overlooked reader store path → ∃ fault,
      (Settings.loadBy reader store path).outcome = .error fault ∧ fault.isOfFile = true ∧
      (loadSettingsBy reader store command (some path) files strict).outcome =
        .error (.failed ⟨fault.message, some command, some (.settings fault)⟩)) ∧
    (Overlooked reader store path → ∃ fault,
      (Settings.loadBy reader store path).outcome = .error fault ∧ fault.isOfFile = false ∧
      (loadSettingsBy reader store command (some path) files strict).outcome =
        .error (.fault fault.message (.settings fault))) ∧
    ((¬ ∃ text, store.read path = .ok (Utf8.encode text)) → ∃ fault,
      (Source.load store .utf8 path).outcome = .error fault ∧
        (fault.IsOfSource ↔ '\x00' ∉ path.text)) ∧
    (∀ bytes fault, store.read path = .ok bytes → reader bytes = .error (.decoding fault) →
      ∃ told, (Source.load store .utf8 path).outcome = .error (.undecodable path told)) := by
  obtain ⟨fault, hfault, htold⟩ := Settings.exists_readFileBy_error h
  have hstop := loadSettingsBy_outcome_eq_error hfault command files strict
  refine ⟨fun hother => ⟨fault, hfault, htold.mpr hother, ?_⟩, fun hoverlooked => ?_,
    Source.exists_load_error, ?_⟩
  · rw [hstop, stopOfSettings, if_pos (htold.mpr hother)]
  · have hother : ¬ fault.isOfFile = true := fun hof => htold.mp hof hoverlooked
    refine ⟨fault, hfault, Bool.eq_false_iff.mpr hother, ?_⟩
    rw [hstop, stopOfSettings, if_neg hother]
    rfl
  · intro bytes inner hread hreader
    exact Source.exists_undecodable hread (hdecodes bytes inner hreader)

/-- A store with a file of one byte that begins no character. -/
def byteStore : Store := Store.empty.add ["client.yaml"] (.file [0xFF])

def bytePath : Path := Path.ofText "client.yaml"

theorem read_byteStore : byteStore.read bytePath = .ok [0xFF] := by decide +kernel

theorem reader_byte :
    Yaml.reader [0xFF] = .error (.decoding ⟨"utf-8", 0, [0xFF], "invalid start byte"⟩) := by
  have hdecode : Utf8.decode [0xFF] = .error ⟨0, 1, .start⟩ := by
    rw [Utf8.decode, Utf8.decodeFrom]
    rfl
  rw [Yaml.reader, Yaml.decodePieces, hdecode]
  rfl

theorem readFile_byteStore : Yaml.reader.readFile byteStore bytePath =
    .error (.decoding ⟨"utf-8", 0, [0xFF], "invalid start byte"⟩) := by
  rw [Reader.readFile_of_bytes _ read_byteStore, reader_byte]
  rfl

theorem overlooked_byteStore : Overlooked Yaml.reader byteStore bytePath :=
  .bytes read_byteStore reader_byte

section Examples

attribute [local instance] Runtime.shared

theorem unread_settings_are_told_unless_overlooked_of_byteStore :
    (∃ fault, (Settings.load byteStore bytePath).outcome = .error fault ∧
      fault.isOfFile = false ∧
      (loadSettings byteStore "generate" (some bytePath) [] none).outcome =
        .error (.fault fault.message (.settings fault))) ∧
    (∃ told, (Source.load byteStore .utf8 bytePath).outcome = .error (.undecodable bytePath told)) ∧
    ∃ fault, (Settings.load .empty bytePath).outcome = .error fault ∧ fault.isOfFile = true ∧
      (loadSettings .empty "generate" (some bytePath) [] none).outcome =
        .error (.failed ⟨fault.message, some "generate", some (.settings fault)⟩) := by
  have hunread : ¬ ∃ value, Yaml.reader.readFile byteStore bytePath = .ok value := by
    rintro ⟨value, hvalue⟩
    rw [readFile_byteStore] at hvalue
    cases hvalue
  have hmissing : Store.empty.read bytePath = .error (.failed .missing bytePath) := by
    decide +kernel
  have habsent : ¬ ∃ value, Yaml.reader.readFile .empty bytePath = .ok value := by
    rintro ⟨value, hvalue⟩
    rw [Reader.readFile_of_store_fault _ hmissing] at hvalue
    cases hvalue
  have hplain : ¬ Overlooked Yaml.reader .empty bytePath := by
    rw [Settings.overlooked_iff_of_store_fault hmissing]
    exact Store.Fault.noConfusion
  obtain ⟨-, hleaves, -, hsource⟩ := unread_settings_are_told_unless_overlooked Yaml.reader
    Yaml.decodes_reader byteStore bytePath hunread "generate" [] none
  obtain ⟨htold, -⟩ := unread_settings_are_told_unless_overlooked Yaml.reader
    Yaml.decodes_reader .empty bytePath habsent "generate" [] none
  simp only [loadSettingsBy_reader, Settings.loadBy_reader] at hleaves htold
  exact ⟨hleaves overlooked_byteStore, hsource _ _ read_byteStore reader_byte, htold hplain⟩

/-- Bytes that are no text are a fault of no settings file. -/
theorem not_forall_unread_settings_are_told :
    ¬ ∀ (store : Store) (path : Path), (¬ ∃ value, Yaml.readFile store path = .ok value) →
      ∃ fault, (Settings.load store path).outcome = .error fault ∧ fault.isOfFile = true := by
  intro h
  have hunread : ¬ ∃ value, Yaml.readFile byteStore bytePath = .ok value := by
    rintro ⟨value, hvalue⟩
    rw [← Yaml.readFile_reader, readFile_byteStore] at hvalue
    cases hvalue
  have hload : (Settings.load byteStore bytePath).outcome =
      .error (.undecodable ⟨"utf-8", 0, [0xFF], "invalid start byte"⟩) := by
    rw [← Settings.loadBy_reader, Settings.loadBy_outcome, Settings.readFileBy, readFile_byteStore]
    rfl
  obtain ⟨fault, hfault, htold⟩ := h byteStore bytePath hunread
  rw [hload, Except.error.injEq] at hfault
  rw [← hfault] at htold
  cases htold

end Examples

end Command

end ClientFacade
