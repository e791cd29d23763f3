import ClientFacade.Proofs.Source.Header
import ClientFacade.Proofs.Source.History
import ClientFacade.Proofs.Text.Lines
import ClientFacade.Source.Extraction

/-!
# What an extraction holds

Every method of an extraction was defined by a single line, and so were its comment lines. The
submodule is a word: it is not empty and has no blank in it. The submodule of a text that opens
with a nesting of modules is the one that this nesting says.
-/

namespace ClientFacade

/-- The parts of a method that a text defines are lines of that text. -/
structure Method.Sound (method : Method) : Prop where
  docLines : ∀ line ∈ method.docLines, IsComment line ∧ '\n' ∉ line
  header : ("def " : Text) <+: method.signature
  trimmed : method.signature.Trimmed
  oneLine : '\n' ∉ method.signature

theorem DefinedAt.sound {lines : List Text} {place : Nat} {method : Method}
    (h : DefinedAt lines place method) (hplace : place ∈ headerPlaces lines)
    (hlines : ∀ line ∈ lines, '\n' ∉ line) : method.Sound := by
  obtain ⟨line, hline, hsignature⟩ := Option.map_eq_some_iff.mp h.signature
  have hmem : line ∈ lines := List.mem_of_getElem? hline
  have hheader : IsHeader line := by
    have hany := (List.mem_filter.mp hplace).2
    simpa [hline] using hany
  refine ⟨?_, ?_, ?_, ?_⟩
  · intro doc hdoc
    have htake : doc ∈ lines.take place := h.docLines.suffix.subset hdoc
    exact ⟨h.docLines.comments doc hdoc, hlines doc (List.take_subset _ _ htake)⟩
  · rw [← hsignature]
    exact hheader
  · rw [← hsignature]
    exact Text.trimmed_trim line
  · rw [← hsignature]
    exact fun hfeed => hlines line hmem ((Text.trim_infix line).subset hfeed)

theorem Source.sound_of_mem_methods {source : Source} {method : Method}
    (h : method ∈ source.methods) : method.Sound := by
  have hdescribes := Scanner.describes_feedAll Scanner.describes_empty source.text.lines
  obtain ⟨place, hplace, hat⟩ := hdescribes.exists_place h
  exact hat.sound hplace fun line hline => Text.not_mem_of_mem_lines (by simpa using hline)

namespace Method.Sound

variable {method : Method}

/-- Something other than a blank follows the keyword, since the header ends in no blank. -/
theorem exists_body (h : method.Sound) :
    ∃ body, method.signature = "def " ++ body ∧ body ≠ [] ∧ '\n' ∉ body ∧
      ∀ c ∈ body.getLast?, isBlank c = false := by
  obtain ⟨body, hbody⟩ := h.header
  have hne : body ≠ [] := by
    rintro rfl
    have hblank := h.trimmed.last ' ' (by rw [← hbody]; rfl)
    exact absurd hblank (by decide)
  refine ⟨body, hbody.symm, hne, ?_, ?_⟩
  · exact fun hfeed => h.oneLine (hbody ▸ List.mem_append_right _ hfeed)
  · intro c hc
    refine h.trimmed.last c ?_
    rw [← hbody, List.getLast?_append_of_ne_nil _ hne]
    exact hc

theorem exists_shape (h : method.Sound) :
    ∃ body, method.signature = "def " ++ body ∧ Header.Shape body method.header ∧ '\n' ∉ body ∧
      ∀ c ∈ body.getLast?, isBlank c = false := by
  obtain ⟨body, hsignature, -, hfeed, hlast⟩ := h.exists_body
  refine ⟨body, hsignature, ?_, hfeed, hlast⟩
  rw [Method.header, hsignature, Header.parse_def]
  exact Header.shape_ofBody body

theorem name_trimmed (h : method.Sound) : method.name.Trimmed := by
  obtain ⟨body, -, hshape, -, hlast⟩ := h.exists_shape
  exact hshape.name_trimmed hlast

theorem parameters_trimmed (h : method.Sound) : method.parameters.Trimmed := by
  obtain ⟨body, -, hshape, -, -⟩ := h.exists_shape
  exact hshape.parameters_trimmed

theorem feed_not_mem_name (h : method.Sound) : '\n' ∉ method.name := by
  obtain ⟨body, -, hshape, hfeed, -⟩ := h.exists_shape
  exact fun hm => hfeed (hshape.name_subset hm)

theorem feed_not_mem_parameters (h : method.Sound) : '\n' ∉ method.parameters := by
  obtain ⟨body, -, hshape, hfeed, -⟩ := h.exists_shape
  exact fun hm => hfeed (hshape.parameters_subset hm)

end Method.Sound

structure IsWord (text : Text) : Prop where
  ne_nil : text ≠ []
  noBlank : ∀ c ∈ text, isBlank c = false

namespace Submodule

theorem isWord_of_opened? {text name : Text} (h : opened? text = some name) : IsWord name := by
  obtain ⟨rest, -, hname⟩ := Option.bind_eq_some_iff.mp h
  dsimp only at hname
  split_ifs at hname with hempty
  obtain ⟨-, -, rfl⟩ := Option.map_eq_some_iff.mp hname
  exact ⟨hempty, fun c hc => by simpa using List.mem_takeWhile_imp hc⟩

theorem isWord_of_find? {nesting : List Text} {text name : Text}
    (h : find? nesting text = some name) : IsWord name := by
  have hhere : ∀ text, here? nesting text = some name → IsWord name := by
    intro text hfound
    obtain ⟨rest, -, hopened⟩ := Option.bind_eq_some_iff.mp hfound
    exact isWord_of_opened? hopened
  induction text with
  | nil => exact hhere [] h
  | cons c rest ih =>
    cases hfirst : here? nesting (c :: rest) with
    | none => exact ih (by simpa [find?, hfirst] using h)
    | some other => exact hhere (c :: rest) (by simpa [find?, hfirst] using h)

end Submodule

structure Extraction.Sound (extraction : Extraction) : Prop where
  submodule : IsWord extraction.submodule
  methods : ∀ method ∈ extraction.methods, method.Sound

theorem Source.sound_of_extraction? {nesting : List Text} {source : Source}
    {extraction : Extraction} (h : source.extraction? nesting = some extraction) :
    extraction.Sound := by
  obtain ⟨submodule, hsubmodule, rfl⟩ := Option.map_eq_some_iff.mp h
  exact ⟨Submodule.isWord_of_find? hsubmodule, fun method => sound_of_mem_methods⟩

end ClientFacade
