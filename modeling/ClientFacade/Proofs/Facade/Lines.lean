import ClientFacade.Facade.Render
import ClientFacade.Proofs.Source.History
import ClientFacade.Proofs.Text.Lines

/-!
# Generated lines, read back

A line of generated code that holds no line feed is read back as it was written, without a carriage
return at its end. What kind of line it is hangs on the text behind the indentation alone.
-/

namespace ClientFacade

namespace Line

def body : Line → Text
  | .code _ text => text
  | .blank => []

/-- The line as it is read back. -/
def read (line : Line) : Text := Text.dropReturn (line.text defaultIndent)

def OneLine (line : Line) : Prop := '\n' ∉ line.body

theorem mem_indentation {depth : Nat} {c : Char} (h : c ∈ indentation defaultIndent depth) :
    c = ' ' := by
  obtain ⟨indent, hindent, hc⟩ := List.mem_flatten.mp h
  rw [List.eq_of_mem_replicate hindent] at hc
  simpa [defaultIndent] using hc

theorem isBlank_of_mem_indentation {depth : Nat} :
    ∀ c ∈ indentation defaultIndent depth, isBlank c = true := by
  intro c hc
  rw [mem_indentation hc]
  decide

theorem read_code {text : Text} (h : text ≠ []) (depth : Nat) :
    (code depth text).read = indentation defaultIndent depth ++ Text.dropReturn text :=
  Text.dropReturn_append h _

theorem trim_read (line : Line) : line.read.trim = line.body.trim := by
  rw [read, Text.trim_dropReturn]
  cases line with
  | code depth text => exact Text.trim_append_blanks isBlank_of_mem_indentation text
  | blank => rfl

theorem isComment_read {line : Line} : IsComment line.read ↔ IsComment line.body := by
  rw [IsComment, trim_read, IsComment]

theorem isHeader_read {line : Line} : IsHeader line.read ↔ IsHeader line.body := by
  rw [IsHeader, trim_read, IsHeader]

theorem OneLine.feed_not_mem {line : Line} (h : line.OneLine) :
    '\n' ∉ line.text defaultIndent := by
  cases line with
  | code depth text =>
    intro hm
    rcases List.mem_append.mp hm with hindent | htext
    · exact absurd (mem_indentation hindent) (by decide)
    · exact h htext
  | blank => exact h

theorem render_cons (line : Line) (rest : List Line) :
    render defaultIndent (line :: rest) =
      line.text defaultIndent ++ '\n' :: render defaultIndent rest := by
  simp [render]

theorem lines_render (lines : List Line) :
    Text.lines (render defaultIndent lines) =
      lines.flatMap (fun line => Text.lines (line.text defaultIndent)) ++ [[]] := by
  rw [render, Text.lines_unlines, List.flatMap_map]

theorem pieces_render (lines : List Line) :
    Text.pieces '\n' (render defaultIndent lines) =
      lines.flatMap (fun line => Text.pieces '\n' (line.text defaultIndent)) ++ [[]] := by
  rw [render, Text.pieces_unlines, List.flatMap_map]

theorem OneLine.pieces_text {line : Line} (h : line.OneLine) :
    Text.pieces '\n' (line.text defaultIndent) = [line.text defaultIndent] :=
  Text.pieces_eq_singleton h.feed_not_mem

theorem flatMap_lines_eq_map_read {lines : List Line} (h : ∀ line ∈ lines, line.OneLine) :
    lines.flatMap (fun line => Text.lines (line.text defaultIndent)) = lines.map read := by
  rw [List.map_eq_flatMap]
  refine List.flatMap_congr fun line hline => ?_
  exact Text.lines_eq_singleton (h line hline).feed_not_mem

end Line

theorem isComment_cons (rest : Text) : IsComment ('#' :: rest) := by
  rw [IsComment, Text.trim_cons (by decide)]
  exact ⟨rest.trimRight, rfl⟩

theorem plain_of_head {c : Char} (hblank : isBlank c = false) (hcomment : c ≠ '#')
    (hheader : c ≠ 'd') (rest : Text) :
    ¬ IsComment (c :: rest) ∧ ¬ IsHeader (c :: rest) := by
  rw [IsComment, IsHeader, Text.trim_cons hblank]
  refine ⟨?_, ?_⟩
  · rintro ⟨after, hafter⟩
    simp at hafter
    exact hcomment hafter.1.symm
  · rintro ⟨after, hafter⟩
    simp at hafter
    exact hheader hafter.1.symm

namespace Line

def Plain (line : Line) : Prop := ¬ IsComment line.body ∧ ¬ IsHeader line.body

theorem oneLine_code_iff {depth : Nat} {text : Text} :
    (code depth text).OneLine ↔ '\n' ∉ text := Iff.rfl

theorem plain_code_iff {depth : Nat} {text : Text} :
    (code depth text).Plain ↔ ¬ IsComment text ∧ ¬ IsHeader text := Iff.rfl

theorem oneLine_closing (depth : Nat) : (code depth Facade.closing).OneLine :=
  oneLine_code_iff.mpr (by decide)

theorem plain_closing (depth : Nat) : (code depth Facade.closing).Plain :=
  plain_code_iff.mpr (by decide)

theorem oneLine_blank : blank.OneLine := List.not_mem_nil

theorem plain_blank : blank.Plain := ⟨by decide, by decide⟩

end Line

end ClientFacade
