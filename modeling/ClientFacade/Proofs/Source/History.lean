import ClientFacade.Proofs.Text.Lines
import ClientFacade.Source.Scanner
import Mathlib.Data.List.Forall2

/-!
# What a scanner has seen

A scanner takes portions, single lines or whole texts, in any order. The comment lines that it
keeps and the methods that it has given are described here by the lines of all portions alone. The
lines of a text are what its line feeds separate, each without one carriage return at its end; this
is said here without the function that splits a text. The boundaries between the portions do not
matter: a comment line at the end of one portion belongs to the header at the start of the next.
-/

namespace ClientFacade

def IsComment (line : Text) : Prop := ("#" : Text) <+: line.trim

def IsHeader (line : Text) : Prop := ("def " : Text) <+: line.trim

instance (line : Text) : Decidable (IsComment line) := inferInstanceAs (Decidable (_ <+: _))

instance (line : Text) : Decidable (IsHeader line) := inferInstanceAs (Decidable (_ <+: _))

theorem not_isHeader_of_isComment {line : Text} (h : IsComment line) : ¬ IsHeader line := by
  rintro ⟨after, hafter⟩
  obtain ⟨rest, hrest⟩ := h
  rw [← hafter] at hrest
  simp at hrest

theorem LineKind.of_eq_comment_iff {line : Text} :
    LineKind.of line = .comment ↔ IsComment line := by
  unfold LineKind.of IsComment
  rw [← List.isPrefixOf_iff_prefix]
  split_ifs <;> simp_all

theorem LineKind.of_eq_header_iff {line : Text} :
    LineKind.of line = .header ↔ IsHeader line := by
  by_cases hc : IsComment line
  · have hkind : LineKind.of line = .comment := LineKind.of_eq_comment_iff.mpr hc
    simp [hkind, not_isHeader_of_isComment hc]
  · unfold LineKind.of IsHeader
    rw [IsComment, ← List.isPrefixOf_iff_prefix] at hc
    rw [if_neg hc, ← List.isPrefixOf_iff_prefix]
    split_ifs <;> simp_all

namespace Scanner

@[simp] theorem pending_empty : empty.pending = [] := rfl

theorem feed_comment (scanner : Scanner) {line : Text} (h : IsComment line) :
    scanner.feed line = (⟨scanner.pending ++ [line]⟩, none) := by
  rw [feed, LineKind.of_eq_comment_iff.mpr h]

theorem feed_header (scanner : Scanner) {line : Text} (h : IsHeader line) :
    scanner.feed line = (empty, some ⟨scanner.pending, line.trim⟩) := by
  rw [feed, LineKind.of_eq_header_iff.mpr h]

theorem feed_other (scanner : Scanner) {line : Text} (hc : ¬ IsComment line)
    (hh : ¬ IsHeader line) : scanner.feed line = (empty, none) := by
  unfold feed
  cases hkind : LineKind.of line with
  | comment => exact absurd (LineKind.of_eq_comment_iff.mp hkind) hc
  | header => exact absurd (LineKind.of_eq_header_iff.mp hkind) hh
  | other => rfl

end Scanner

/-- `run` is the longest run of comment lines at the end of `lines`. -/
structure EndRun (lines run : List Text) : Prop where
  suffix : run <:+ lines
  comments : ∀ line ∈ run, IsComment line
  longest : ∀ other, other <:+ lines → (∀ line ∈ other, IsComment line) → other <:+ run

theorem endRun_nil : EndRun [] [] where
  suffix := List.suffix_rfl
  comments := by simp
  longest _ h _ := h

theorem EndRun.append_comment {lines run : List Text} {line : Text} (h : EndRun lines run)
    (hc : IsComment line) : EndRun (lines ++ [line]) (run ++ [line]) where
  suffix := List.suffix_append_self_iff.mpr h.suffix
  comments := by
    intro other hother
    rcases List.mem_append.mp hother with hrun | hline
    · exact h.comments other hrun
    · rwa [List.mem_singleton.mp hline]
  longest := by
    intro other hsuffix hcomments
    rcases List.suffix_concat_iff.mp hsuffix with rfl | ⟨shorter, rfl, hshorter⟩
    · exact List.nil_suffix
    · have hrun : shorter <:+ run :=
        h.longest shorter hshorter fun line hline => hcomments line (List.mem_append_left _ hline)
      exact List.suffix_append_self_iff.mpr hrun

theorem endRun_of_not_comment {line : Text} (hc : ¬ IsComment line) (lines : List Text) :
    EndRun (lines ++ [line]) [] where
  suffix := List.nil_suffix
  comments := by simp
  longest := by
    intro other hsuffix hcomments
    rcases List.suffix_concat_iff.mp hsuffix with rfl | ⟨shorter, rfl, -⟩
    · exact List.suffix_rfl
    · exact absurd (hcomments line (by simp)) hc

def headerPlaces (lines : List Text) : List Nat :=
  (List.range lines.length).filter fun place => (lines[place]?).any fun line => IsHeader line

theorem headerPlaces_concat (lines : List Text) (line : Text) :
    headerPlaces (lines ++ [line]) =
      headerPlaces lines ++ if IsHeader line then [lines.length] else [] := by
  have hbefore : (List.range lines.length).filter
      (fun place => ((lines ++ [line])[place]?).any fun line => IsHeader line) =
      headerPlaces lines := by
    refine List.filter_congr fun place hplace => ?_
    rw [List.getElem?_append_left (List.mem_range.mp hplace)]
  rw [headerPlaces, List.length_append, List.length_singleton, List.range_succ,
    List.filter_append, hbefore]
  simp [List.filter_singleton]

/-- The header line at `place` defines `method`, with the comment lines right above it. -/
structure DefinedAt (lines : List Text) (place : Nat) (method : Method) : Prop where
  signature : (lines[place]?).map Text.trim = some method.signature
  docLines : EndRun (lines.take place) method.docLines

theorem DefinedAt.append {lines : List Text} {place : Nat} {method : Method}
    (h : DefinedAt lines place method) (more : List Text) :
    DefinedAt (lines ++ more) place method := by
  have hlt : place < lines.length := by
    by_contra hge
    have hnone : lines[place]? = none := List.getElem?_eq_none (Nat.le_of_not_lt hge)
    simpa [hnone] using h.signature
  refine ⟨?_, ?_⟩
  · rw [List.getElem?_append_left hlt]
    exact h.signature
  · rw [List.take_append_of_le_length (Nat.le_of_lt hlt)]
    exact h.docLines

theorem EndRun.definedAt {lines run : List Text} (h : EndRun lines run) (line : Text) :
    DefinedAt (lines ++ [line]) lines.length ⟨run, line.trim⟩ where
  signature := by simp
  docLines := by simpa using h

namespace Scanner

/-- The lines consumed so far determine what the scanner keeps and which methods it has given: one
for each header line, in order. -/
structure Describes (lines : List Text) (scanner : Scanner) (methods : List Method) : Prop where
  pending : EndRun lines scanner.pending
  methods : List.Forall₂ (DefinedAt lines) (headerPlaces lines) methods

theorem Describes.exists_place {lines : List Text} {scanner : Scanner} {methods : List Method}
    (h : Describes lines scanner methods) {method : Method} (hmem : method ∈ methods) :
    ∃ place ∈ headerPlaces lines, DefinedAt lines place method := by
  obtain ⟨-, hall⟩ := h
  generalize headerPlaces lines = places at hall ⊢
  induction hall with
  | nil => exact absurd hmem List.not_mem_nil
  | @cons place other _ _ hat _ ih =>
    rcases List.mem_cons.mp hmem with rfl | hmem
    · exact ⟨place, List.mem_cons_self, hat⟩
    · obtain ⟨later, hlater, hlaterAt⟩ := ih hmem
      exact ⟨later, List.mem_cons_of_mem _ hlater, hlaterAt⟩

theorem describes_empty : Describes [] empty [] where
  pending := endRun_nil
  methods := .nil

theorem describes_feed {lines : List Text} {scanner : Scanner} {methods : List Method}
    (h : Describes lines scanner methods) (line : Text) :
    Describes (lines ++ [line]) (scanner.feed line).1
      (methods ++ (scanner.feed line).2.toList) := by
  have hearlier : List.Forall₂ (DefinedAt (lines ++ [line])) (headerPlaces lines) methods :=
    h.methods.imp fun place method hat => hat.append [line]
  by_cases hc : IsComment line
  · have hh : ¬ IsHeader line := not_isHeader_of_isComment hc
    rw [feed_comment scanner hc]
    refine ⟨h.pending.append_comment hc, ?_⟩
    simpa [headerPlaces_concat, hh] using hearlier
  · by_cases hh : IsHeader line
    · rw [feed_header scanner hh]
      refine ⟨endRun_of_not_comment hc lines, ?_⟩
      have hnew := List.Forall₂.cons (h.pending.definedAt line) .nil
      simpa [headerPlaces_concat, hh] using List.rel_append hearlier hnew
    · rw [feed_other scanner hc hh]
      refine ⟨endRun_of_not_comment hc lines, ?_⟩
      simpa [headerPlaces_concat, hh] using hearlier

theorem describes_feedAll {lines : List Text} {scanner : Scanner} {methods : List Method}
    (h : Describes lines scanner methods) (more : List Text) :
    Describes (lines ++ more) (scanner.feedAll more).1 (methods ++ (scanner.feedAll more).2) := by
  induction more generalizing lines scanner methods with
  | nil => simpa [feedAll] using h
  | cons line rest ih =>
    have hrest := ih (describes_feed h line)
    simpa [feedAll] using hrest

/-- What a scanner is given at once. -/
inductive Portion
  | line (line : Text)
  | text (text : Text)
  deriving DecidableEq, Repr

/-- The lines of a portion. A single line counts as it is, whatever it holds. -/
inductive Portion.Holds : Portion → List Text → Prop
  | line (alone : Text) : Holds (.line alone) [alone]
  | text {whole : Text} {parts lines : List Text} (split : Text.SplitAtFeeds whole parts)
      (cut : List.Forall₂ Text.WithoutReturn parts lines) : Holds (.text whole) lines

def take (scanner : Scanner) : Portion → Scanner × List Method
  | .line line => ((scanner.feed line).1, (scanner.feed line).2.toList)
  | .text text => scanner.scan text

/-- Takes the portions in order and gives the methods of all of them. -/
def takeAll (scanner : Scanner) : List Portion → Scanner × List Method
  | [] => (scanner, [])
  | portion :: rest =>
    let (next, found) := scanner.take portion
    let (last, others) := next.takeAll rest
    (last, found ++ others)

theorem portion_holds_iff {whole : Text} {lines : List Text} :
    (Portion.text whole).Holds lines ↔ lines = whole.lines := by
  constructor
  · rintro (_ | ⟨hsplit, hcut⟩)
    rw [Text.splitAtFeeds_iff.mp hsplit] at hcut
    exact Text.forall₂_withoutReturn_iff.mp hcut
  · rintro rfl
    exact .text (Text.splitAtFeeds_iff.mpr rfl) (Text.forall₂_withoutReturn_iff.mpr rfl)

/-- A portion holds one list of lines, and the scanner takes a portion line by line. -/
theorem take_eq_feedAll (scanner : Scanner) (portion : Portion) :
    ∃ lines, portion.Holds lines ∧ (∀ other, portion.Holds other → other = lines) ∧
      scanner.take portion = scanner.feedAll lines := by
  cases portion with
  | line alone =>
    refine ⟨[alone], .line alone, ?_, by simp [take, feedAll]⟩
    rintro other ⟨⟩
    rfl
  | text whole =>
    exact ⟨whole.lines, portion_holds_iff.mpr rfl, fun other h => portion_holds_iff.mp h, rfl⟩

theorem takeAll_eq_feedAll (scanner : Scanner) (portions : List Portion) :
    ∃ consumed, List.Forall₂ Portion.Holds portions consumed ∧
      (∀ other, List.Forall₂ Portion.Holds portions other → other = consumed) ∧
      scanner.takeAll portions = scanner.feedAll consumed.flatten := by
  induction portions generalizing scanner with
  | nil =>
    refine ⟨[], .nil, ?_, rfl⟩
    rintro other ⟨⟩
    rfl
  | cons portion rest ih =>
    obtain ⟨lines, hlines, honly, htake⟩ := take_eq_feedAll scanner portion
    obtain ⟨others, hothers, hothersOnly, hrest⟩ := ih (scanner.feedAll lines).1
    refine ⟨lines :: others, .cons hlines hothers, ?_, ?_⟩
    · rintro (_ | ⟨first, behind⟩) (_ | ⟨hfirst, hbehind⟩)
      rw [honly first hfirst, hothersOnly behind hbehind]
    · rw [List.flatten_cons, feedAll_append, takeAll, htake]
      simp only [hrest]

/-- The lines that are consumed are determined by the portions. After any sequence of portions, and
so after every portion of a longer sequence, the scanner keeps the longest run of comment lines at
the end of what it has consumed, and has given exactly one method for each header line. -/
theorem takeAll_describes (portions : List Portion) :
    ∃ consumed, List.Forall₂ Portion.Holds portions consumed ∧
      (∀ other, List.Forall₂ Portion.Holds portions other → other = consumed) ∧
      Describes consumed.flatten (empty.takeAll portions).1 (empty.takeAll portions).2 := by
  obtain ⟨consumed, hconsumed, honly, htake⟩ := takeAll_eq_feedAll empty portions
  refine ⟨consumed, hconsumed, honly, ?_⟩
  rw [htake]
  exact describes_feedAll describes_empty consumed.flatten

end Scanner

end ClientFacade
