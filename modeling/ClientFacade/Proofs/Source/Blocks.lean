import ClientFacade.Proofs.Source.History

/-!
# Blocks of lines

Where a text falls into blocks, each of which leaves no comment line behind, its methods are those
of the blocks, in order. Lines that are neither comments nor headers give nothing, and comment lines
with a header below them give one method.
-/

namespace ClientFacade.Scanner

/-- A scanner that keeps nothing gives `methods` for the lines and keeps nothing again. -/
def Yields (lines : List Text) (methods : List Method) : Prop :=
  empty.feedAll lines = (empty, methods)

theorem yields_nil : Yields [] [] := rfl

theorem Yields.append {first second : List Text} {found others : List Method}
    (hfirst : Yields first found) (hsecond : Yields second others) :
    Yields (first ++ second) (found ++ others) := by
  unfold Yields at hfirst hsecond ⊢
  rw [feedAll_append, hfirst]
  dsimp only
  rw [hsecond]

theorem yields_flatMap {α : Type} {items : List α} {block : α → List Text}
    {found : α → List Method} (h : ∀ item ∈ items, Yields (block item) (found item)) :
    Yields (items.flatMap block) (items.flatMap found) := by
  induction items with
  | nil => exact yields_nil
  | cons item rest ih =>
    have hrest := ih fun other hother => h other (List.mem_cons_of_mem _ hother)
    exact (h item List.mem_cons_self).append hrest

theorem yields_of_plain {lines : List Text}
    (h : ∀ line ∈ lines, ¬ IsComment line ∧ ¬ IsHeader line) : Yields lines [] := by
  induction lines with
  | nil => exact yields_nil
  | cons line rest ih =>
    obtain ⟨hc, hh⟩ := h line List.mem_cons_self
    have hrest : empty.feedAll rest = (empty, []) :=
      ih fun other hother => h other (List.mem_cons_of_mem _ hother)
    simp [Yields, feedAll, feed_other empty hc hh, hrest]

theorem feedAll_comments {lines : List Text} (h : ∀ line ∈ lines, IsComment line)
    (scanner : Scanner) : scanner.feedAll lines = (⟨scanner.pending ++ lines⟩, []) := by
  induction lines generalizing scanner with
  | nil => simp [feedAll]
  | cons line rest ih =>
    have hrest := ih fun other hother => h other (List.mem_cons_of_mem _ hother)
    simp [feedAll, feed_comment scanner (h line List.mem_cons_self), hrest]

theorem yields_method {comments : List Text} {header : Text}
    (hcomments : ∀ line ∈ comments, IsComment line) (hheader : IsHeader header) :
    Yields (comments ++ [header]) [⟨comments, header.trim⟩] := by
  unfold Yields
  rw [feedAll_append, feedAll_comments hcomments]
  simp [feedAll, feed_header _ hheader]

theorem Yields.methods_eq {text : Text} {methods : List Method}
    (h : Yields text.lines methods) : Scanner.methods text = methods := by
  have hscan : empty.scan text = (empty, methods) := h
  rw [Scanner.methods, hscan]

end ClientFacade.Scanner
