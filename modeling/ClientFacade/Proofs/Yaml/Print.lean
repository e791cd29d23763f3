import ClientFacade.Proofs.Text.Clean
import ClientFacade.Yaml.Print
import ClientFacade.Yaml.Read

/-!
# Printed YAML

Whatever the texts of a document hold, no control character but the line feed is printed: a text
with one is written between double quotes, where it is escaped. A document stands for a map, which
is what reading it should give back.
-/

namespace ClientFacade.Yaml.Print

open Text (Clean clean_append clean_cons clean_nil clean_flatMap)

theorem clean_of_isUnescaped {c : Char} (h : isUnescaped c = true) : c = '\n' ∨ ' ' ≤ c := by
  unfold isUnescaped at h
  rw [Bool.and_eq_true, decide_eq_true_eq] at h
  exact Or.inr h.1

theorem clean_margin : Clean margin := by decide

theorem clean_writeFolded {text : Text} (h : Clean text) (quoted : Bool) (before : Char)
    (column : Nat) : Clean (writeFolded quoted before column text) := by
  induction text generalizing before column with
  | nil => exact clean_nil
  | cons c rest ih =>
    obtain ⟨hc, hrest⟩ := clean_cons.mp h
    unfold writeFolded
    dsimp only
    split_ifs <;> simp [clean_margin, hc, ih hrest]

theorem clean_escape (c : Char) : Clean (escape c) := by
  have hbackslash : ' ' ≤ '\\' := by decide
  have hletters : ∀ entry ∈ escapeLetters, ' ' ≤ entry.2 := by decide
  have hmarks : Clean "\\x" ∧ Clean "\\u" ∧ Clean "\\U" := by decide
  unfold escape
  cases hlookup : escapeLetters.lookup c with
  | some letter =>
    have hletter : ' ' ≤ letter := Text.forall_of_lookup hletters hlookup
    simp [hbackslash, hletter]
  | none =>
    dsimp only
    split_ifs
    · exact clean_append.mpr ⟨hmarks.1, Text.clean_hexUpper 2 c.toNat⟩
    · exact clean_append.mpr ⟨hmarks.2.1, Text.clean_hexUpper 4 c.toNat⟩
    · exact clean_append.mpr ⟨hmarks.2.2, Text.clean_hexUpper 8 c.toNat⟩

theorem clean_fold (rest : Text) : Clean (fold rest) := by
  have hbackslash : ' ' ≤ '\\' := by decide
  unfold fold
  split_ifs <;> simp [hbackslash, clean_margin]

theorem clean_writeEscaped (isFirst escaped : Bool) (column : Nat) (text : Text) :
    Clean (writeEscaped isFirst escaped column text) := by
  induction text generalizing isFirst escaped column with
  | nil => exact clean_nil
  | cons c rest ih =>
    unfold writeEscaped
    dsimp only
    by_cases hescape : needsEscape c = true
    · rw [if_pos hescape]
      split_ifs <;> simp [clean_escape, clean_fold, ih]
    · have hshown : isUnescaped c = true := by
        unfold needsEscape at hescape
        simp at hescape
        exact hescape.2
      rw [if_neg hescape]
      split_ifs <;> simp [clean_of_isUnescaped hshown, clean_fold, ih]

theorem clean_of_canBePlain {text : Text} (h : canBePlain text = true) : Clean text := by
  simp only [canBePlain, Bool.and_eq_true, List.all_eq_true] at h
  obtain ⟨⟨⟨⟨⟨-, hshown⟩, -⟩, -⟩, -⟩, -⟩ := h
  exact fun c hc => clean_of_isUnescaped (hshown c hc)

theorem clean_of_canBeSingle {text : Text} (h : canBeSingle text = true) : Clean text := by
  unfold canBeSingle at h
  rw [Bool.and_eq_true, List.all_eq_true] at h
  intro c hc
  have hshown := h.1 c hc
  rw [Bool.or_eq_true, decide_eq_true_eq] at hshown
  exact hshown.elim Or.inl clean_of_isUnescaped

theorem clean_writeText (column : Nat) (text : Text) : Clean (writeText column text) := by
  have hquotes : ' ' ≤ '\'' ∧ ' ' ≤ '"' := by decide
  unfold writeText Style.ofText
  by_cases hplain : canBePlain text = true
  · rw [if_pos hplain]
    exact clean_writeFolded (clean_of_canBePlain hplain) false ' ' column
  · rw [if_neg hplain]
    by_cases hsingle : canBeSingle text = true
    · rw [if_pos hsingle]
      simp [hquotes, clean_writeFolded (clean_of_canBeSingle hsingle)]
    · rw [if_neg hsingle]
      simp [hquotes, clean_writeEscaped]

theorem clean_writeItem (text : Text) : Clean (writeItem text) := by
  have hmark : Clean "- " := by decide
  exact clean_append.mpr ⟨clean_append.mpr ⟨hmark, clean_writeText 2 text⟩, by simp⟩

theorem clean_writeEntry {key : Text} (h : Clean key) (content : Content) :
    Clean (writeEntry key content) := by
  have hcolon : Clean ": " ∧ Clean ": []\n" ∧ Clean ":\n" := by decide
  have hflag : ∀ value : Bool, Clean (if value then (": true\n" : Text) else ": false\n") := by
    decide
  cases content with
  | text text =>
    have hvalue := clean_append.mpr ⟨hcolon.1, clean_writeText (key.length + 2) text⟩
    simpa [writeEntry, h] using hvalue
  | texts texts =>
    cases texts with
    | nil => exact clean_append.mpr ⟨h, hcolon.2.1⟩
    | cons text rest =>
      have hitems := clean_flatMap fun item (_ : item ∈ text :: rest) => clean_writeItem item
      exact clean_append.mpr ⟨clean_append.mpr ⟨h, hcolon.2.2⟩, hitems⟩
  | flag value => exact clean_append.mpr ⟨h, hflag value⟩

/-- No document has control characters other than line feeds. -/
theorem clean_document {entries : List (Text × Content)} (h : ∀ entry ∈ entries, Clean entry.1) :
    Clean (document entries) :=
  clean_flatMap fun entry hentry => clean_writeEntry (h entry hentry) entry.2

/-! ## The value of a document -/

def Content.value : Content → Value
  | .text line => .ofText line
  | .texts items => .ofTexts items
  | .flag isSet => .ofBool isSet

def value (entries : List (Text × Content)) : Value :=
  .map (entries.map fun (key, content) => (.text key, content.value))

/-- The reader finds in the document what was printed. -/
def ReadsBack (entries : List (Text × Content)) : Prop :=
  read (document entries) = .ok (value entries)

instance (entries : List (Text × Content)) : Decidable (ReadsBack entries) :=
  inferInstanceAs (Decidable (_ = _))

end ClientFacade.Yaml.Print
