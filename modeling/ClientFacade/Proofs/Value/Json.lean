import ClientFacade.Proofs.Text.Clean
import ClientFacade.Value.Json
import ClientFacade.Yaml.Token.Scalar
import Mathlib.Data.List.Basic

/-!
# Reading JSON

A document of texts, lists and maps is read character by character. The reader keeps the lists and
maps that are still open, and a value that is complete goes into the innermost of them. What is
written for a value is read back as this value, at any depth, because the line ends between its
parts are blank to the reader.
-/

namespace ClientFacade.Json

/-- A list or a map that is still open. A map has a key while the value of it is read. -/
inductive Frame
  | list (items : List Value)
  | map (entries : List (Scalar × Value)) (key : Option Text)

/-- Where a document has been read up to, inside the open frames, innermost first. -/
inductive Reader
  /-- Before a value or a key. -/
  | start (frames : List Frame)
  | text (frames : List Frame) (read : Text)
  /-- Behind a backslash. -/
  | escape (frames : List Frame) (read : Text)
  | code (frames : List Frame) (read digits : Text)
  /-- Behind a key. -/
  | colon (frames : List Frame)
  /-- Behind an item or an entry. -/
  | behind (frames : List Frame)
  | finished (value : Value)

def isSpace (c : Char) : Bool := c = ' ' || c = '\n' || c = '\r' || c = '\t'

/-- The character that a letter behind a backslash stands for. -/
def escaped? (letter : Char) : Option Char :=
  ((('/', '/') :: escapeLetters).find? (·.2 = letter)).map (·.1)

/-- The character that four hexadecimal digits stand for. -/
def coded? (digits : Text) : Option Char :=
  (Yaml.hexNumber? 0 4 digits).bind fun code =>
    if code.isValidChar then some (Char.ofNat code) else none

namespace Reader

/-- A complete value goes into the innermost frame, or it is the document. -/
def complete (value : Value) : List Frame → Option Reader
  | [] => some (finished value)
  | .list items :: frames => some (behind (.list (items ++ [value]) :: frames))
  | .map entries (some key) :: frames =>
    some (behind (.map (entries ++ [(.text key, value)]) none :: frames))
  | .map entries none :: frames =>
    value.text?.map fun key => colon (.map entries (some key) :: frames)

def step (reader : Reader) (c : Char) : Option Reader :=
  match reader with
  | start frames =>
    if isSpace c then some (start frames)
    else
      match c, frames with
      | '"', frames => some (text frames [])
      | '[', frames => some (start (.list [] :: frames))
      | '\x7b', frames => some (start (.map [] none :: frames))
      | ']', .list [] :: frames => complete (.list []) frames
      | '\x7d', .map [] none :: frames => complete (.map []) frames
      | _, _ => none
  | text frames read =>
    if c = '"' then complete (.ofText read) frames
    else if c = '\\' then some (escape frames read)
    else if c < ' ' then none
    else some (text frames (read ++ [c]))
  | escape frames read =>
    if c = 'u' then some (code frames read [])
    else (escaped? c).map fun meant => text frames (read ++ [meant])
  | code frames read digits =>
    if digits.length < 3 then some (code frames read (digits ++ [c]))
    else (coded? (digits ++ [c])).map fun meant => text frames (read ++ [meant])
  | colon frames =>
    if isSpace c then some (colon frames) else if c = ':' then some (start frames) else none
  | behind frames =>
    if isSpace c then some (behind frames)
    else
      match c, frames with
      | ',', frames => some (start frames)
      | ']', .list items :: frames => complete (.list items) frames
      | '\x7d', .map entries none :: frames => complete (.map entries) frames
      | _, _ => none
  | finished value => if isSpace c then some (finished value) else none

def run (reader : Reader) (text : Text) : Option Reader := text.foldlM step reader

end Reader

def read? (document : Text) : Option Value :=
  match (Reader.start []).run document with
  | some (.finished value) => some value
  | _ => none

/-- Values of texts, lists and maps with texts for keys. -/
inductive Plain : Value → Prop
  | text (text : Text) : Plain (.ofText text)
  | list {items : List Value} (h : ∀ item ∈ items, Plain item) : Plain (.list items)
  | map {entries : List (Scalar × Value)} (hkeys : ∀ entry ∈ entries, ∃ key, entry.1 = .text key)
      (h : ∀ entry ∈ entries, Plain entry.2) : Plain (.map entries)

theorem Plain.texts (texts : List Text) : Plain (.ofTexts texts) := by
  apply Plain.list
  intro item hitem
  obtain ⟨text, -, rfl⟩ := List.mem_map.mp hitem
  exact .text text

/-! ## Reading what is written -/

theorem escaped?_escapeLetters :
    ∀ entry ∈ escapeLetters, entry.2 ≠ 'u' ∧ escaped? entry.2 = some entry.1 := by decide

theorem coded?_hex {n : Nat} (h : n < 32) :
    (Text.hex 4 n).length = 4 ∧ coded? (Text.hex 4 n) = some (Char.ofNat n) := by
  revert n
  decide

namespace Reader

variable {reader next : Reader} {frames : List Frame}

@[simp] theorem run_nil : reader.run [] = some reader := rfl

theorem run_cons (reader : Reader) (c : Char) (rest : Text) :
    reader.run (c :: rest) = (reader.step c).bind fun next => next.run rest := rfl

theorem run_cons_of_step {c : Char} (h : reader.step c = some next) (rest : Text) :
    reader.run (c :: rest) = next.run rest := by
  rw [run_cons, h, Option.bind_some]

theorem run_append (reader : Reader) (first second : Text) :
    reader.run (first ++ second) = (reader.run first).bind fun next => next.run second := by
  rw [run, List.foldlM_append]
  rfl

theorem run_append_of_run {first : Text} (h : reader.run first = some next) (second : Text) :
    reader.run (first ++ second) = next.run second := by
  rw [run_append, h, Option.bind_some]

/-- A reader that blanks do not change. -/
def Waits (reader : Reader) : Prop := ∀ c, isSpace c = true → reader.step c = some reader

theorem waits_start (frames : List Frame) : (start frames).Waits := fun c hc => by
  simp only [step, hc, if_true]

theorem waits_behind (frames : List Frame) : (behind frames).Waits := fun c hc => by
  simp only [step, hc, if_true]

theorem Waits.run (h : reader.Waits) {blanks : Text} (hblanks : ∀ c ∈ blanks, isSpace c = true) :
    reader.run blanks = some reader := by
  induction blanks with
  | nil => rfl
  | cons c rest ih =>
    obtain ⟨hc, hrest⟩ := List.forall_mem_cons.mp hblanks
    rw [run_cons_of_step (h c hc), ih hrest]

theorem isSpace_newLine (depth : Nat) : ∀ c ∈ newLine depth, isSpace c = true := by
  intro c hc
  rcases List.mem_cons.mp hc with rfl | hc
  · decide
  · rw [List.eq_of_mem_replicate hc]
    decide

theorem Waits.run_newLine (h : reader.Waits) (depth : Nat) :
    reader.run (newLine depth) = some reader := h.run (isSpace_newLine depth)

/-! ### Texts -/

theorem run_code {digits : Text} {meant : Char} (hlength : digits.length = 4)
    (hcoded : coded? digits = some meant) (frames : List Frame) (read : Text) :
    (code frames read []).run digits = some (text frames (read ++ [meant])) := by
  match digits, hlength with
  | [a, b, c, d], _ =>
    rw [run_cons_of_step rfl, run_cons_of_step rfl, run_cons_of_step rfl]
    simp [run_cons, step, hcoded]

theorem run_writeChar (frames : List Frame) (read : Text) (c : Char) :
    (text frames read).run (writeChar c) = some (text frames (read ++ [c])) := by
  unfold writeChar
  cases hlookup : escapeLetters.lookup c with
  | some letter =>
    obtain ⟨hletter, hmeant⟩ := Text.forall_of_lookup escaped?_escapeLetters hlookup
    dsimp only at hletter hmeant ⊢
    rw [run_cons_of_step rfl]
    simp [run_cons, step, hletter, hmeant]
  | none =>
    have hquote : c ≠ '"' := by
      rintro rfl
      exact absurd hlookup (by decide)
    have hbackslash : c ≠ '\\' := by
      rintro rfl
      exact absurd hlookup (by decide)
    dsimp only
    by_cases hcontrol : c < ' '
    · have hsmall : c.toNat < 32 := hcontrol
      obtain ⟨hlength, hcoded⟩ := coded?_hex hsmall
      rw [Char.ofNat_toNat] at hcoded
      rw [if_pos hcontrol]
      have hstart : (text frames read).run "\\u" = some (code frames read []) := rfl
      rw [run_append_of_run hstart, run_code hlength hcoded]
    · rw [if_neg hcontrol]
      simp [run_cons, step, hquote, hbackslash, hcontrol]

theorem run_chars (frames : List Frame) (read written : Text) :
    (text frames read).run (written.flatMap writeChar) = some (text frames (read ++ written)) := by
  induction written generalizing read with
  | nil => simp
  | cons c rest ih =>
    rw [List.flatMap_cons, run_append_of_run (run_writeChar frames read c), ih,
      List.append_assoc, List.singleton_append]

theorem run_writeText (frames : List Frame) (written : Text) :
    (start frames).run (writeText written) = complete (.ofText written) frames := by
  have hopen : (start frames).step '"' = some (text frames []) := by cases frames <;> rfl
  unfold writeText
  rw [List.cons_append, run_cons_of_step hopen, run_append_of_run (run_chars frames [] written)]
  simp [run_cons, step]

/-! ### Lists and maps -/

/-- What is written for a value at any depth is read as this value inside any frames. -/
def Reads (value : Value) : Prop :=
  ∀ depth frames, (start frames).run (write depth value) = complete value frames

variable {depth : Nat}

theorem run_writeItems {items : List Value} (h : ∀ item ∈ items, Reads item) (before : List Value) :
    (behind (.list before :: frames)).run (writeItems depth items) =
      some (behind (.list (before ++ items) :: frames)) := by
  induction items generalizing before with
  | nil => simp [writeItems]
  | cons item rest ih =>
    obtain ⟨hitem, hrest⟩ := List.forall_mem_cons.mp h
    have hcomma : (behind (.list before :: frames)).step ',' =
        some (start (.list before :: frames)) := rfl
    have hblanks : (start (.list before :: frames)).run (newLine depth) =
        some (start (.list before :: frames)) := (waits_start _).run_newLine depth
    have hread : (start (.list before :: frames)).run (write depth item) =
        some (behind (.list (before ++ [item]) :: frames)) := hitem depth _
    rw [writeItems, List.cons_append, List.cons_append, run_cons_of_step hcomma, List.append_assoc,
      run_append_of_run hblanks, run_append_of_run hread, ih hrest, List.append_assoc,
      List.singleton_append]

theorem run_entry {value : Value} (h : Reads value) (before : List (Scalar × Value)) (key : Text) :
    (start (.map before none :: frames)).run (writeKey (.text key) ++ ": " ++ write depth value) =
      some (behind (.map (before ++ [(.text key, value)]) none :: frames)) := by
  have hkey : (start (.map before none :: frames)).run (writeKey (.text key)) =
      some (colon (.map before (some key) :: frames)) := run_writeText _ key
  have hcolon : (colon (.map before (some key) :: frames)).run ": " =
      some (start (.map before (some key) :: frames)) := rfl
  rw [List.append_assoc, run_append_of_run hkey, run_append_of_run hcolon]
  exact h depth _

theorem run_writeEntries {entries : List (Scalar × Value)}
    (hkeys : ∀ entry ∈ entries, ∃ key, entry.1 = .text key)
    (h : ∀ entry ∈ entries, Reads entry.2) (before : List (Scalar × Value)) :
    (behind (.map before none :: frames)).run (writeEntries depth entries) =
      some (behind (.map (before ++ entries) none :: frames)) := by
  induction entries generalizing before with
  | nil => simp [writeEntries]
  | cons entry rest ih =>
    obtain ⟨hentry, hrest⟩ := List.forall_mem_cons.mp h
    obtain ⟨⟨key, hkey⟩, hothers⟩ := List.forall_mem_cons.mp hkeys
    obtain ⟨name, value⟩ := entry
    obtain rfl : name = .text key := hkey
    have hcomma : (behind (.map before none :: frames)).step ',' =
        some (start (.map before none :: frames)) := rfl
    have hblanks : (start (.map before none :: frames)).run (newLine depth) =
        some (start (.map before none :: frames)) := (waits_start _).run_newLine depth
    have hsplit : writeEntries depth ((.text key, value) :: rest) =
        ',' :: (newLine depth ++ ((writeKey (.text key) ++ ": " ++ write depth value) ++
          writeEntries depth rest)) := by
      simp [writeEntries]
    rw [hsplit, run_cons_of_step hcomma, run_append_of_run hblanks,
      run_append_of_run (run_entry hentry before key), ih hothers hrest, List.append_assoc,
      List.singleton_append]

theorem reads_list {items : List Value} (h : ∀ item ∈ items, Reads item) :
    Reads (.list items) := by
  intro depth frames
  have hopen : (start frames).step '[' = some (start (.list [] :: frames)) := by
    cases frames <;> rfl
  cases items with
  | nil =>
    have hempty : (start frames).run ['[', ']'] = complete (.list []) frames := by
      rw [run_cons_of_step hopen]
      simp [run_cons, step, isSpace]
    exact hempty
  | cons item rest =>
    obtain ⟨hitem, hrest⟩ := List.forall_mem_cons.mp h
    have hblanks : (start (.list [] :: frames)).run (newLine (depth + 1)) =
        some (start (.list [] :: frames)) := (waits_start _).run_newLine _
    have hread : (start (.list [] :: frames)).run (write (depth + 1) item) =
        some (behind (.list [item] :: frames)) := hitem _ _
    have hend : (behind (.list (item :: rest) :: frames)).run (newLine depth) =
        some (behind (.list (item :: rest) :: frames)) := (waits_behind _).run_newLine depth
    have hsplit : write depth (.list (item :: rest)) =
        '[' :: (newLine (depth + 1) ++ (write (depth + 1) item ++
          (writeItems (depth + 1) rest ++ (newLine depth ++ [']'])))) := by
      simp [write]
    rw [hsplit, run_cons_of_step hopen, run_append_of_run hblanks, run_append_of_run hread,
      run_append_of_run (run_writeItems hrest [item]), List.singleton_append,
      run_append_of_run hend]
    simp [run_cons, step, isSpace]

theorem reads_map {entries : List (Scalar × Value)}
    (hkeys : ∀ entry ∈ entries, ∃ key, entry.1 = .text key)
    (h : ∀ entry ∈ entries, Reads entry.2) : Reads (.map entries) := by
  intro depth frames
  have hopen : (start frames).step '\x7b' = some (start (.map [] none :: frames)) := by
    cases frames <;> rfl
  cases entries with
  | nil =>
    have hempty : (start frames).run ['\x7b', '\x7d'] = complete (.map []) frames := by
      rw [run_cons_of_step hopen]
      simp [run_cons, step, isSpace]
    exact hempty
  | cons entry rest =>
    obtain ⟨hentry, hrest⟩ := List.forall_mem_cons.mp h
    obtain ⟨⟨key, hkey⟩, hothers⟩ := List.forall_mem_cons.mp hkeys
    obtain ⟨name, value⟩ := entry
    obtain rfl : name = .text key := hkey
    have hblanks : (start (.map [] none :: frames)).run (newLine (depth + 1)) =
        some (start (.map [] none :: frames)) := (waits_start _).run_newLine _
    have hend : (behind (.map ((.text key, value) :: rest) none :: frames)).run (newLine depth) =
        some (behind (.map ((.text key, value) :: rest) none :: frames)) :=
      (waits_behind _).run_newLine depth
    have hsplit : write depth (.map ((.text key, value) :: rest)) =
        '\x7b' :: (newLine (depth + 1) ++ ((writeKey (.text key) ++ ": " ++
          write (depth + 1) value) ++ (writeEntries (depth + 1) rest ++
            (newLine depth ++ ['\x7d'])))) := by
      simp [write]
    rw [hsplit, run_cons_of_step hopen, run_append_of_run hblanks,
      run_append_of_run (run_entry hentry [] key), List.nil_append,
      run_append_of_run (run_writeEntries hothers hrest [(.text key, value)]),
      List.singleton_append, run_append_of_run hend]
    simp [run_cons, step, isSpace]

theorem reads_of_plain {value : Value} (h : Plain value) : Reads value := by
  induction h with
  | text written =>
    intro depth frames
    exact run_writeText frames written
  | list hitems ih => exact reads_list ih
  | map hkeys hentries ih => exact reads_map hkeys ih

end Reader

/-- A document is read back as the value that it was written for. -/
theorem read?_write {value : Value} (h : Plain value) :
    read? (write 0 value ++ ['\n']) = some value := by
  have hrun : (Reader.start []).run (write 0 value) = some (.finished value) :=
    Reader.reads_of_plain h 0 []
  unfold read?
  rw [Reader.run_append_of_run hrun]
  rfl

/-! ## Characters of what is written -/

open Text (Clean clean_append clean_cons clean_flatMap)

theorem clean_newLine (depth : Nat) : Clean (newLine depth) := by
  intro c hc
  rcases List.mem_cons.mp hc with rfl | hc
  · exact Or.inl rfl
  · rw [List.eq_of_mem_replicate hc]
    exact Or.inr (by decide)

theorem clean_writeChar (c : Char) : Clean (writeChar c) := by
  unfold writeChar
  cases hlookup : escapeLetters.lookup c with
  | some letter =>
    have hletters : ∀ entry ∈ escapeLetters, ' ' ≤ entry.2 := by decide
    have hletter : ' ' ≤ letter := Text.forall_of_lookup hletters hlookup
    have hbackslash : ' ' ≤ '\\' := by decide
    simp [hbackslash, hletter]
  | none =>
    dsimp only
    by_cases hcontrol : c < ' '
    · have hcodes : ∀ n < 32, Clean ("\\u" ++ Text.hex 4 n) := by decide +kernel
      rw [if_pos hcontrol]
      exact hcodes c.toNat hcontrol
    · rw [if_neg hcontrol]
      simpa using Or.inr (Char.not_lt.mp hcontrol)

theorem clean_writeText (written : Text) : Clean (writeText written) := by
  have hquote : ' ' ≤ '"' := by decide
  have hchars : Clean (written.flatMap writeChar) := clean_flatMap fun c _ => clean_writeChar c
  simp [writeText, hquote, hchars]

theorem clean_writeItems {items : List Value}
    (h : ∀ item ∈ items, ∀ depth, Clean (write depth item)) (depth : Nat) :
    Clean (writeItems depth items) := by
  have hcomma : ' ' ≤ ',' := by decide
  induction items with
  | nil => simp [writeItems]
  | cons item rest ih =>
    obtain ⟨hitem, hrest⟩ := List.forall_mem_cons.mp h
    simp [writeItems, hcomma, clean_newLine, hitem depth, ih hrest]

theorem clean_writeEntries {entries : List (Scalar × Value)}
    (hkeys : ∀ entry ∈ entries, ∃ key, entry.1 = .text key)
    (h : ∀ entry ∈ entries, ∀ depth, Clean (write depth entry.2)) (depth : Nat) :
    Clean (writeEntries depth entries) := by
  have hmarks : ' ' ≤ ',' ∧ ' ' ≤ ':' := by decide
  induction entries with
  | nil => simp [writeEntries]
  | cons entry rest ih =>
    obtain ⟨hentry, hrest⟩ := List.forall_mem_cons.mp h
    obtain ⟨⟨key, hkey⟩, hothers⟩ := List.forall_mem_cons.mp hkeys
    simp [writeEntries, hkey, writeKey, hmarks, clean_newLine, clean_writeText, hentry depth,
      ih hothers hrest]

theorem clean_write {value : Value} (h : Plain value) (depth : Nat) :
    Clean (write depth value) := by
  induction h generalizing depth with
  | text written => exact clean_writeText written
  | @list items hitems ih =>
    have hbrackets : ' ' ≤ '[' ∧ ' ' ≤ ']' := by decide
    cases items with
    | nil => simp [write, hbrackets]
    | cons item rest =>
      have hparts := clean_writeItems ih (depth + 1)
      simp only [writeItems, clean_append, clean_cons] at hparts
      simp [write, hbrackets, clean_newLine, hparts]
  | @map entries hkeys hentries ih =>
    have hbraces : ' ' ≤ '\x7b' ∧ ' ' ≤ '\x7d' := by decide
    cases entries with
    | nil => simp [write, hbraces]
    | cons entry rest =>
      have hparts := clean_writeEntries hkeys ih (depth + 1)
      simp only [writeEntries, clean_append, clean_cons] at hparts
      simp [write, hbraces, clean_newLine, hparts]

end ClientFacade.Json
