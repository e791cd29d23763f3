import ClientFacade.Proofs.Source.Extraction

/-!
# Sources without their comment lines

The methods of a source keep their headers if its comment lines are deleted. A scanner gives one
method for each header line, whatever it keeps, and no comment line is a header line. So a source
without its comment lines still defines the same methods, with no comment lines of their own.
-/

namespace ClientFacade

theorem isHeader_dropReturn {line : Text} : IsHeader line.dropReturn ↔ IsHeader line := by
  rw [IsHeader, Text.trim_dropReturn, IsHeader]

namespace Text

/-- The lines of a text that are no comment lines, each with what stands before its line feed. -/
def codeLines (text : Text) : List Text := (text.pieces '\n').filter fun line => ¬ IsComment line

def withoutComments (text : Text) : Text := join ['\n'] text.codeLines

def headers (text : Text) : List Text := (text.pieces '\n').filter fun line => IsHeader line

theorem pieces_withoutComments {text : Text} (h : text.codeLines ≠ []) :
    text.withoutComments.pieces '\n' = text.codeLines := by
  apply pieces_join h
  intro line hline
  exact not_mem_of_mem_pieces (List.mem_filter.mp hline).1

theorem filter_isHeader_codeLines (text : Text) :
    text.codeLines.filter (fun line => IsHeader line) = text.headers := by
  rw [codeLines, headers, List.filter_filter]
  apply List.filter_congr
  intro line _
  by_cases hheader : IsHeader line
  · have hcode : ¬ IsComment line := fun hcomment => not_isHeader_of_isComment hcomment hheader
    simp [hheader, hcode]
  · simp [hheader]

/-- If nothing but comment lines is there, then one empty line is left, which is no header. -/
theorem headers_withoutComments (text : Text) : text.withoutComments.headers = text.headers := by
  rw [← filter_isHeader_codeLines text]
  by_cases hcode : text.codeLines = []
  · rw [withoutComments, hcode]
    decide
  · rw [headers, pieces_withoutComments hcode]

end Text

namespace Scanner

/-- The headers of the methods are the header lines, whatever is kept at the start. -/
theorem signatures_feedAll (scanner : Scanner) (lines : List Text) :
    (scanner.feedAll lines).2.map (·.signature) =
      (lines.filter fun line => IsHeader line).map Text.trim := by
  induction lines generalizing scanner with
  | nil => rfl
  | cons line rest ih =>
    simp only [feedAll, List.map_append, ih]
    by_cases hheader : IsHeader line
    · rw [feed_header scanner hheader, List.filter_cons_of_pos (by simpa using hheader)]
      rfl
    · have hfound : (scanner.feed line).2 = none := by
        by_cases hcomment : IsComment line
        · rw [feed_comment scanner hcomment]
        · rw [feed_other scanner hcomment hheader]
      rw [hfound, List.filter_cons_of_neg (by simpa using hheader)]
      rfl

theorem signatures_methods (text : Text) :
    (methods text).map (·.signature) = text.headers.map Text.trim := by
  rw [methods, scan, signatures_feedAll, Text.lines, List.filter_map, List.map_map, Text.headers]
  have hheader : (fun line => decide (IsHeader line)) ∘ Text.dropReturn =
      fun line => decide (IsHeader line) := by
    funext line
    exact decide_eq_decide.mpr isHeader_dropReturn
  have htrim : Text.trim ∘ Text.dropReturn = Text.trim := funext Text.trim_dropReturn
  rw [hheader, htrim]

end Scanner

def Method.undocumented (method : Method) : Method := ⟨[], method.signature⟩

def Extraction.undocumented (extraction : Extraction) : Extraction :=
  { extraction with methods := extraction.methods.map Method.undocumented }

namespace Source

def withoutComments (source : Source) : Source :=
  { source with text := source.text.withoutComments }

theorem undocumented_methods (source : Source) :
    source.methods.map Method.undocumented =
      (source.text.headers.map Text.trim).map fun signature => ⟨[], signature⟩ := by
  rw [← Scanner.signatures_methods, List.map_map]
  rfl

theorem undocumented_withoutComments (source : Source) :
    source.withoutComments.methods.map Method.undocumented =
      source.methods.map Method.undocumented := by
  rw [undocumented_methods, undocumented_methods, withoutComments, Text.headers_withoutComments]

/-- The other source is this one, perhaps without its comment lines. -/
def Uncomments (source other : Source) : Prop := other = source ∨ other = source.withoutComments

theorem undocumented_extraction? {nesting : List Text} {source other : Source}
    (h : source.Uncomments other)
    (hsubmodule : other.submodule? nesting = source.submodule? nesting) :
    (other.extraction? nesting).map Extraction.undocumented =
      (source.extraction? nesting).map Extraction.undocumented := by
  rcases h with rfl | rfl
  · rfl
  · rw [extraction?, extraction?, hsubmodule, Option.map_map, Option.map_map]
    have hsame : (Extraction.undocumented ∘ fun submodule =>
        (⟨submodule, source.withoutComments.path, source.withoutComments.methods⟩ : Extraction)) =
        Extraction.undocumented ∘ fun submodule => ⟨submodule, source.path, source.methods⟩ := by
      funext submodule
      simp only [Function.comp_apply, Extraction.undocumented, undocumented_withoutComments]
      rfl
    rw [hsame]

end Source

end ClientFacade
