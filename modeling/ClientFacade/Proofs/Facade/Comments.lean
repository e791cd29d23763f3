import ClientFacade.Proofs.Facade.Readable
import ClientFacade.Proofs.Source.Comments

/-!
# Facades without comment lines

The comment lines of the extracted methods reach a facade as comment lines and in no other way:
each of them is one line of a delegate that still starts with a number sign behind its indentation.
So the text of a facade has the same lines of code as that of the facade whose methods have no
comment lines.
-/

namespace ClientFacade

namespace Line

/-- The lines of code that a generated line stands for. More than one if it holds line feeds. -/
def codeLines (line : Line) : List Text := (line.text defaultIndent).codeLines

theorem codeLines_render (lines : List Line) :
    (render defaultIndent lines).codeLines = lines.flatMap codeLines ++ [[]] := by
  have hlast : ([[]] : List Text).filter (fun line => ¬ IsComment line) = [[]] := by decide
  rw [Text.codeLines, render, Text.pieces_unlines, List.flatMap_map, List.filter_append,
    List.filter_flatMap, hlast]
  rfl

theorem isComment_text {line : Line} :
    IsComment (line.text defaultIndent) ↔ IsComment line.body := by
  cases line with
  | code depth text =>
    rw [IsComment, Line.text, Text.trim_append_blanks isBlank_of_mem_indentation]
    rfl
  | blank => rfl

theorem codeLines_of_comment {line : Line} (hline : line.OneLine) (h : IsComment line.body) :
    line.codeLines = [] := by
  rw [codeLines, Text.codeLines, Text.pieces_eq_singleton hline.feed_not_mem]
  simp [isComment_text.mpr h]

end Line

namespace Facade

open Line

theorem codeLines_delegateDocs {method : Method} (h : method.Sound) (depth : Nat) :
    (delegateDocs depth method).flatMap codeLines = [] := by
  apply List.flatMap_eq_nil_iff.mpr
  intro line hline
  apply codeLines_of_comment
  · obtain ⟨doc, hdoc, rfl⟩ := List.mem_map.mp hline
    exact fun hfeed => (h.docLines doc hdoc).2 ((Text.trimLeft_suffix doc).subset hfeed)
  · exact comment_delegateDocs h line hline

theorem codeLines_delegate {method : Method} (h : method.Sound) (depth : Nat) (receiver : Text) :
    (delegate depth receiver method).flatMap codeLines =
      (delegate depth receiver method.undocumented).flatMap codeLines := by
  rw [delegate_eq, delegate_eq, List.flatMap_append, codeLines_delegateDocs h]
  rfl

theorem codeLines_delegates {extraction : Extraction} (h : extraction.Sound) (depth : Nat) :
    (delegates depth extraction).flatMap codeLines =
      (delegates depth extraction.undocumented).flatMap codeLines := by
  have hdelegated : extraction.undocumented.methods.filter (!·.isConstructor) =
      (extraction.methods.filter (!·.isConstructor)).map Method.undocumented := by
    rw [Extraction.undocumented, List.filter_map]
    rfl
  rw [delegates, delegates, hdelegated, List.flatMap_assoc, List.flatMap_assoc, List.flatMap_map]
  apply List.flatMap_congr
  intro method hmethod
  exact codeLines_delegate (h.methods method (List.mem_of_mem_filter hmethod)) depth _

def undocumented (facade : Facade) : Facade :=
  { facade with extractions := facade.extractions.map Extraction.undocumented }

theorem submodules_undocumented (facade : Facade) :
    facade.undocumented.submodules = facade.submodules := by
  rw [submodules, undocumented, List.map_map]
  rfl

theorem constructions_undocumented [Runtime] (facade : Facade) (depth : Nat)
    (submodules : List Text) :
    facade.undocumented.constructions depth submodules = facade.constructions depth submodules := by
  induction submodules with
  | nil => rfl
  | cons submodule rest ih =>
    rw [constructions, constructions, ih]
    rfl

theorem constructor_undocumented [Runtime] (facade : Facade) (depth : Nat) :
    facade.undocumented.constructor depth = facade.constructor depth := by
  rw [constructor, constructor, submodules_undocumented, constructions_undocumented]

theorem render_eq_map [Runtime] (facade : Facade) (indent : Text) :
    facade.render indent = (facade.constructor (facade.classDepth + 1)).map fun body =>
      Line.render indent (facade.openingLines ++ body ++
        facade.delegateLines (facade.classDepth + 1) ++ closingLines facade.classDepth) := by
  unfold render lines
  cases facade.constructor (facade.classDepth + 1) with
  | error fault => rfl
  | ok body => rfl

/-- The two facades are rendered alike: with the same fault, or with the same lines of code. -/
theorem render_undocumented [Runtime] {facade : Facade}
    (h : ∀ extraction ∈ facade.extractions, extraction.Sound) :
    (facade.undocumented.render defaultIndent).map Text.withoutComments =
      (facade.render defaultIndent).map Text.withoutComments := by
  have hdelegates : ∀ depth, (facade.undocumented.delegateLines depth).flatMap codeLines =
      (facade.delegateLines depth).flatMap codeLines := by
    intro depth
    rw [delegateLines, delegateLines, undocumented, List.flatMap_map, List.flatMap_assoc,
      List.flatMap_assoc]
    apply List.flatMap_congr
    intro extraction hextraction
    exact (codeLines_delegates (h extraction hextraction) depth).symm
  rw [render_eq_map, render_eq_map, constructor_undocumented]
  cases hbody : facade.constructor (facade.classDepth + 1) with
  | error fault =>
    have hdepth : facade.undocumented.classDepth = facade.classDepth := rfl
    rw [hdepth, hbody]
    rfl
  | ok body =>
    have hdepth : facade.undocumented.classDepth = facade.classDepth := rfl
    have hopening : facade.undocumented.openingLines = facade.openingLines := rfl
    rw [hdepth, hopening, hbody]
    apply congrArg Except.ok
    rw [Text.withoutComments, Text.withoutComments, codeLines_render, codeLines_render]
    simp only [List.flatMap_append, hdelegates]

end Facade

end ClientFacade
