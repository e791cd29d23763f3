import ClientFacade.Proofs.Source.Nesting
import ClientFacade.Proofs.Source.Signature

/-!
# The spacing behind the keyword

Between `def` and the rest of its line there may be any run of blanks. Only a run that starts with a
space makes the line a header. Headers that differ in this run alone are read alike, since the
blanks are trimmed from the name in front of which they stand. The one thing that they can change
is whether there is a name at all: a parenthesis right behind one blank has none before it, and
behind several blanks it has one that is blank.
-/

namespace ClientFacade

open ClientFacade.Submodule (IsGap)

namespace Text

theorem trim_blanks {blanks : Text} (h : ∀ c ∈ blanks, isBlank c = true) : trim blanks = [] := by
  rw [← List.append_nil blanks, trim_append_blanks h]
  rfl

theorem firstLine_trimRight_subset (text : Text) : firstLine text.trimRight ⊆ firstLine text := by
  obtain ⟨blanks, htext, -⟩ := exists_blanks_of_trimRight text
  conv_rhs => rw [htext]
  unfold firstLine
  rw [List.takeWhile_append]
  split_ifs
  · exact fun c hc => List.mem_append_left _ ((List.takeWhile_prefix _).subset hc)
  · exact List.Subset.refl _

end Text

namespace Header

/-- Whether nothing but spacing stands where the name would be: the first blank belongs to the
keyword, and a parenthesis that its line closes follows the others. -/
def NamedByBlank (spacing rest : Text) : Prop :=
  1 < spacing.length ∧ ∃ tail, rest = '(' :: tail ∧ ')' ∈ Text.firstLine tail

theorem parameters?_eq_none_iff {tail : Text} :
    parameters? tail = none ↔ ')' ∉ Text.firstLine tail := Text.beforeLast?_eq_none_iff

variable {blanks rest tail : Text}

/-- The parameters end at a parenthesis, so that blanks at the end do not reach them. -/
theorem parameters?_trimRight (tail : Text) : parameters? tail.trimRight = parameters? tail := by
  cases h : parameters? tail with
  | none =>
    rw [parameters?_eq_none_iff] at h ⊢
    exact fun hm => h (Text.firstLine_trimRight_subset tail hm)
  | some inside =>
    obtain ⟨rest, rfl, hfeed, hclose⟩ := parameters?_eq_some_iff.mp h
    refine parameters?_eq_some_iff.mpr ⟨Text.trimRight rest, ?_, hfeed, fun hm => hclose ?_⟩
    · exact Text.trimRight_append (by decide) inside rest
    · exact Text.firstLine_trimRight_subset rest hm

/-- Blanks in front of a name are read like none. -/
theorem ofBody_append_blanks (hblanks : ∀ c ∈ blanks, isBlank c = true)
    (hrest : ∀ tail, rest = '(' :: tail → ')' ∉ Text.firstLine tail) (hne : rest ≠ []) :
    ofBody (blanks ++ rest) = ofBody rest := by
  have hopen : '(' ∉ blanks := fun hm => absurd (hblanks '(' hm) (by decide)
  have hshape := shape_ofBody rest
  generalize ofBody rest = header at hshape ⊢
  cases hshape with
  | empty => exact absurd rfl hne
  | plain _ hbody =>
    rw [ofBody_plain (by simp [hne]) (by simp [hopen, hbody]), Text.trim_append_blanks hblanks]
  | @closed before tail inside hbefore hname hinside =>
    have hname' : '(' ∉ blanks ++ before := by simp [hopen, hname]
    rw [← List.append_assoc, ofBody_closed (by simp [hbefore]) hname' hinside,
      Text.trim_append_blanks hblanks]
  | @unclosed before tail hname hreason =>
    have hnone : parameters? tail = none := by
      rcases hreason with rfl | hnone
      · exact parameters?_eq_none_iff.mpr (hrest tail rfl)
      · exact hnone
    have hname' : '(' ∉ blanks ++ before := by simp [hopen, hname]
    rw [← List.append_assoc, ofBody_unclosed hname' (Or.inr hnone), List.append_assoc,
      Text.trimLeft_append hblanks]

/-- Blanks alone in front of the parameters are an empty name. -/
theorem ofBody_blanks_open (hblanks : ∀ c ∈ blanks, isBlank c = true) (hne : blanks ≠ [])
    {inside : Text} (hinside : parameters? tail = some inside) :
    ofBody (blanks ++ '(' :: tail) = ⟨[], inside.trim, true⟩ := by
  have hopen : '(' ∉ blanks := fun hm => absurd (hblanks '(' hm) (by decide)
  rw [ofBody_closed hne hopen hinside, Text.trim_blanks hblanks]

theorem namedByBlank_trimRight {spacing more : Text} {c : Char} :
    NamedByBlank spacing (c :: Text.trimRight more) ↔ NamedByBlank spacing (c :: more) := by
  have hclose : ')' ∈ Text.firstLine (Text.trimRight more) ↔ ')' ∈ Text.firstLine more := by
    rw [← not_iff_not, ← parameters?_eq_none_iff, ← parameters?_eq_none_iff, parameters?_trimRight]
  simp [NamedByBlank, hclose]

theorem ofBody_of_not_namedByBlank (hblanks : ∀ c ∈ blanks, isBlank c = true) (hne : rest ≠ [])
    (h : ¬ NamedByBlank (' ' :: blanks) rest) : ofBody (blanks ++ rest) = ofBody rest := by
  by_cases hnone : blanks = []
  · rw [hnone, List.nil_append]
  · have hlength : 1 < (' ' :: blanks).length :=
      Nat.succ_lt_succ (List.length_pos_iff.mpr hnone)
    refine ofBody_append_blanks hblanks (fun tail htail hclose => ?_) hne
    exact h ⟨hlength, tail, htail, hclose⟩

/-- As long as the name is blank behind both spacings or behind neither, both are read alike. -/
theorem ofBody_congr {others : Text} (hblanks : ∀ c ∈ blanks, isBlank c = true)
    (hothers : ∀ c ∈ others, isBlank c = true) (hne : rest ≠ [])
    (h : NamedByBlank (' ' :: blanks) rest ↔ NamedByBlank (' ' :: others) rest) :
    ofBody (blanks ++ rest) = ofBody (others ++ rest) := by
  by_cases hnamed : NamedByBlank (' ' :: blanks) rest
  · have hblank : ∀ {run : Text}, NamedByBlank (' ' :: run) rest → run ≠ [] := by
      rintro run ⟨hlength, -⟩ rfl
      exact absurd hlength (by decide)
    obtain ⟨-, tail, rfl, hclose⟩ := id hnamed
    obtain ⟨inside, hinside⟩ : ∃ inside, parameters? tail = some inside := by
      rw [← Option.ne_none_iff_exists', ne_eq, parameters?_eq_none_iff, not_not]
      exact hclose
    rw [ofBody_blanks_open hblanks (hblank hnamed) hinside,
      ofBody_blanks_open hothers (hblank (h.mp hnamed)) hinside]
  · rw [ofBody_of_not_namedByBlank hblanks hne hnamed,
      ofBody_of_not_namedByBlank hothers hne fun hother => hnamed (h.mpr hother)]

theorem name_ofBody_ne_nil {c : Char} (hc : isBlank c = false) (more : Text) :
    (ofBody (c :: more)).name ≠ [] := by
  have hshape := shape_ofBody (c :: more)
  generalize hbody : c :: more = body at hshape ⊢
  generalize ofBody body = header at hshape ⊢
  cases hshape with
  | empty => cases hbody
  | plain =>
    subst hbody
    exact List.ne_nil_of_mem (Text.mem_trim hc List.mem_cons_self)
  | @closed before tail _ hbefore =>
    obtain ⟨d, others, rfl⟩ := List.exists_cons_of_ne_nil hbefore
    obtain ⟨rfl, -⟩ := List.cons.inj hbody
    exact List.ne_nil_of_mem (Text.mem_trim hc List.mem_cons_self)
  | unclosed =>
    rw [unrecognised, ← hbody, Text.trimLeft_cons hc]
    exact List.cons_ne_nil c more

end Header

/-- The line that has this spacing between the keyword and the rest. -/
def spaced (spacing rest : Text) : Text := "def" ++ (spacing ++ rest)

section Spaced

variable {c : Char} (hc : isBlank c = false) (more : Text)

include hc

theorem trim_spaced (spacing : Text) :
    (spaced spacing (c :: more)).trim = spaced spacing (c :: Text.trimRight more) := by
  have hline : ∀ rest, spaced spacing rest = ("def" ++ spacing) ++ rest :=
    fun rest => (List.append_assoc _ _ _).symm
  have hleft : (spaced spacing (c :: more)).trimLeft = spaced spacing (c :: more) :=
    Text.trimLeft_cons (by decide) _
  rw [Text.trim, hleft, hline, hline, Text.trimRight_append hc]

theorem not_isComment_spaced (spacing : Text) : ¬ IsComment (spaced spacing (c :: more)) := by
  rw [IsComment, trim_spaced hc]
  rintro ⟨after, hafter⟩
  cases hafter

theorem isHeader_spaced_iff (blank : Char) (blanks : Text) :
    IsHeader (spaced (blank :: blanks) (c :: more)) ↔ blank = ' ' := by
  rw [IsHeader, trim_spaced hc, spaced]
  simp [eq_comm]

/-- A definition is taken with the comment lines above it, and the blanks at its end are left. -/
theorem Scanner.feed_spaced (scanner : Scanner) (blanks : Text) :
    scanner.feed (spaced (' ' :: blanks) (c :: more)) =
      (empty, some ⟨scanner.pending, spaced (' ' :: blanks) (c :: Text.trimRight more)⟩) := by
  rw [scanner.feed_header ((isHeader_spaced_iff hc more ' ' blanks).mpr rfl), trim_spaced hc]

theorem Scanner.feed_spaced_of_ne (scanner : Scanner) {blank : Char} (hblank : blank ≠ ' ')
    (blanks : Text) : scanner.feed (spaced (blank :: blanks) (c :: more)) = (empty, none) :=
  scanner.feed_other (not_isComment_spaced hc more _)
    fun h => hblank ((isHeader_spaced_iff hc more blank blanks).mp h)

end Spaced

theorem Header.parse_spaced (blanks rest : Text) :
    parse (spaced (' ' :: blanks) rest) = ofBody (blanks ++ rest) :=
  parse_keyword (by decide) _

/-- A spacing makes a line a header just if it starts with a space. Two such spacings leave the
comment lines the same, and the header is read alike behind both unless the name is a blank behind
one of them alone. Where it is no blank it is not empty. -/
theorem spacing_read_alike (scanner : Scanner) {first second : Text} (hfirst : IsGap first)
    (hsecond : IsGap second) {c : Char} (hc : isBlank c = false) (more : Text) :
    ((∃ method, (scanner.feed (spaced first (c :: more))).2 = some method) ↔
      first.head? = some ' ') ∧
    (first.head? = some ' ' → second.head? = some ' ' →
      ∃ one other, (scanner.feed (spaced first (c :: more))).2 = some one ∧
        (scanner.feed (spaced second (c :: more))).2 = some other ∧
        one.docLines = other.docLines ∧
        ((Header.NamedByBlank first (c :: more) ↔ Header.NamedByBlank second (c :: more)) →
          one.header = other.header) ∧
        (¬ Header.NamedByBlank first (c :: more) → one.name ≠ [])) := by
  obtain ⟨blank, blanks, rfl⟩ := List.exists_cons_of_ne_nil hfirst.ne_nil
  obtain ⟨blank', others, rfl⟩ := List.exists_cons_of_ne_nil hsecond.ne_nil
  obtain ⟨-, hblanks⟩ := List.forall_mem_cons.mp hfirst.blank
  obtain ⟨-, hothers⟩ := List.forall_mem_cons.mp hsecond.blank
  simp only [List.head?_cons, Option.some.injEq]
  constructor
  · by_cases hspace : blank = ' '
    · subst hspace
      simp [scanner.feed_spaced hc more]
    · simp [scanner.feed_spaced_of_ne hc more hspace, hspace]
  · rintro rfl rfl
    refine ⟨_, _, congrArg Prod.snd (scanner.feed_spaced hc more blanks),
      congrArg Prod.snd (scanner.feed_spaced hc more others), rfl, fun h => ?_, fun h => ?_⟩
    · rw [Method.header, Method.header, Header.parse_spaced, Header.parse_spaced]
      refine Header.ofBody_congr hblanks hothers (List.cons_ne_nil _ _) ?_
      rw [Header.namedByBlank_trimRight, Header.namedByBlank_trimRight, h]
    · rw [← Header.namedByBlank_trimRight] at h
      rw [Method.name, Method.header, Header.parse_spaced,
        Header.ofBody_of_not_namedByBlank hblanks (List.cons_ne_nil _ _) h]
      exact Header.name_ofBody_ne_nil hc _

theorem spacing_read_alike_of_tab :
    IsGap " " ∧ IsGap " \t" ∧ isBlank 'p' = false ∧
      ∃ one other, ((⟨["# Docs"]⟩ : Scanner).feed (spaced " " "ping(a: (1)) ")).2 = some one ∧
        ((⟨["# Docs"]⟩ : Scanner).feed (spaced " \t" "ping(a: (1)) ")).2 = some other ∧
        one.docLines = other.docLines ∧ one.header = other.header ∧ one.name ≠ [] := by
  have hspace : IsGap " " := ⟨by decide, List.forall_mem_singleton.mpr rfl⟩
  have htab : IsGap " \t" :=
    ⟨by decide, List.forall_mem_cons.mpr ⟨rfl, List.forall_mem_singleton.mpr rfl⟩⟩
  have hp : isBlank 'p' = false := by decide
  have hnamed : ∀ spacing, ¬ Header.NamedByBlank spacing "ping(a: (1)) " := by
    rintro spacing ⟨-, tail, htail, -⟩
    cases htail
  obtain ⟨-, hread⟩ := spacing_read_alike ⟨["# Docs"]⟩ hspace htab hp "ing(a: (1)) "
  obtain ⟨one, other, hone, hother, hdocs, hheader, hname⟩ := hread rfl rfl
  exact ⟨hspace, htab, hp, one, other, hone, hother, hdocs,
    hheader (iff_of_false (hnamed _) (hnamed _)), hname (hnamed _)⟩

/-- Whether two lines have the same outcome up to the text of the header: no method at all, or
methods with the same comment lines, a name, and what is read off the header the same. -/
def SameOutcome : Option Method → Option Method → Prop
  | none, none => True
  | some one, some other =>
    one.docLines = other.docLines ∧ one.name ≠ [] ∧ one.header = other.header
  | _, _ => False

/-- A tab does not make a header, and among spaces a second one makes a name of its own in front of
a parenthesis. -/
theorem not_forall_spacing_read_alike :
    (¬ ∀ (scanner : Scanner) (first second : Text) (c : Char) (more : Text), IsGap first →
      '\n' ∉ first → IsGap second → '\n' ∉ second → isBlank c = false →
      SameOutcome (scanner.feed (spaced first (c :: more))).2
        (scanner.feed (spaced second (c :: more))).2) ∧
    ¬ ∀ (scanner : Scanner) (first second : Text) (c : Char) (more : Text),
      (∀ blank ∈ first, blank = ' ') → first ≠ [] → (∀ blank ∈ second, blank = ' ') →
      second ≠ [] → isBlank c = false →
      SameOutcome (scanner.feed (spaced first (c :: more))).2
        (scanner.feed (spaced second (c :: more))).2 := by
  have hspace : IsGap " " := ⟨by decide, List.forall_mem_singleton.mpr rfl⟩
  have htab : IsGap "\t" := ⟨by decide, List.forall_mem_singleton.mpr rfl⟩
  constructor
  · intro h
    exact h Scanner.empty " " "\t" 'p' "ing" hspace (by decide) htab (by decide) (by decide)
  · intro h
    obtain ⟨-, -, hheader⟩ := h Scanner.empty " " "  " '(' "x)" (by simp) (by decide) (by simp)
      (by decide) (by decide)
    exact absurd hheader (by decide)

end ClientFacade
