import ClientFacade.Facade.Render
import ClientFacade.Proofs.Facade.Lines

/-!
# Blocks of generated code

Generated code is read line by line: `module`, `class` and `def` open a block, `end` closes the one
that was opened last. The text is balanced if every block is closed where it was opened, and
everything stands as deep as there are blocks around it. A block of lines keeps the blocks around it
as they are, so that balance is shown block by block.
-/

namespace ClientFacade

namespace Block

def indent (line : Text) : Nat := (line.takeWhile (· = ' ')).length

def content (line : Text) : Text := line.dropWhile (· = ' ')

def keywords : List Text := ["module ", "class ", "def "]

def opens (line : Text) : Bool := keywords.any (·.isPrefixOf (content line))

def closes (line : Text) : Bool := content line = Facade.closing

/-- The arguments of a construction, which stand one level deeper than other lines. -/
def keywordArguments : List Text :=
  ["base_url: base_url,", "channel_access_token: channel_access_token,",
   "http_options: http_options"]

def isArgument (line : Text) : Bool := keywordArguments.elem (content line)

/-- Reads a line, given the lines that opened the blocks around it, innermost first. A line that
closes a block needs one. -/
def read (blocks : List Text) (line : Text) : Option (List Text) :=
  if opens line then some (line :: blocks)
  else if closes line then blocks.tail?
  else some blocks

/-- The blocks that are open behind the lines. -/
def openBehind (lines : List Text) : Option (List Text) := lines.foldlM read []

/-- The line stands where the blocks that are open before it want it. -/
structure Placed (blocks : List Text) (line : Text) : Prop where
  closing : closes line = true → ∃ opener outer, blocks = opener :: outer ∧
    indent line = indent opener ∧ indent line = 2 * outer.length
  inside : closes line = false → line ≠ [] →
    indent line = 2 * (blocks.length + if isArgument line then 1 else 0)

/-- All blocks are closed in the end and one is open before that, and every line is placed. -/
structure Balanced (lines : List Text) : Prop where
  closed : openBehind lines = some []
  positive : ∀ count, 0 < count → count < lines.length →
    ∃ opener outer, openBehind (lines.take count) = some (opener :: outer)
  placed : ∀ place line, lines[place]? = some line →
    ∃ blocks, openBehind (lines.take place) = some blocks ∧ Placed blocks line

/-- The lines lead from some open blocks to others, with `floor` blocks open behind each of them. -/
inductive Passes (floor : Nat) : List Text → List Text → List Text → Prop
  | nil {blocks : List Text} : Passes floor blocks [] blocks
  | cons {blocks next last rest : List Text} {line : Text} : read blocks line = some next →
      Placed blocks line → floor ≤ next.length → Passes floor next rest last →
      Passes floor blocks (line :: rest) last

namespace Passes

variable {floor : Nat} {blocks middle last first second lines : List Text}

theorem append (hfirst : Passes floor blocks first middle)
    (hsecond : Passes floor middle second last) : Passes floor blocks (first ++ second) last := by
  induction hfirst with
  | nil => exact hsecond
  | cons hread hplaced hfloor _ ih => exact .cons hread hplaced hfloor (ih hsecond)

theorem mono {lower : Nat} (h : Passes floor blocks lines last) (hle : lower ≤ floor) :
    Passes lower blocks lines last := by
  induction h with
  | nil => exact .nil
  | cons hread hplaced hfloor _ ih => exact .cons hread hplaced (hle.trans hfloor) ih

theorem foldlM_eq (h : Passes floor blocks lines last) : lines.foldlM read blocks = some last := by
  induction h with
  | nil => rfl
  | cons hread _ _ _ ih => rw [List.foldlM_cons, hread, Option.bind_eq_bind, Option.bind_some, ih]

theorem foldlM_take (h : Passes floor blocks lines last) (count : Nat) :
    ∃ middle, (lines.take count).foldlM read blocks = some middle ∧
      (floor ≤ blocks.length → floor ≤ middle.length) := by
  induction h generalizing count with
  | @nil blocks => exact ⟨blocks, by simp, id⟩
  | @cons blocks next last rest line hread _ hfloor _ ih =>
    cases count with
    | zero => exact ⟨blocks, rfl, id⟩
    | succ count =>
      obtain ⟨middle, hmiddle, hlength⟩ := ih count
      refine ⟨middle, ?_, fun _ => hlength hfloor⟩
      rw [List.take_succ_cons, List.foldlM_cons, hread, Option.bind_eq_bind, Option.bind_some,
        hmiddle]

theorem placed (h : Passes floor blocks lines last) {place : Nat} {line : Text}
    (hline : lines[place]? = some line) :
    ∃ middle, (lines.take place).foldlM read blocks = some middle ∧ Placed middle line := by
  induction h generalizing place with
  | nil => simp at hline
  | @cons blocks next last rest other hread hplaced _ _ ih =>
    cases place with
    | zero =>
      obtain rfl : other = line := by simpa using hline
      exact ⟨blocks, rfl, hplaced⟩
    | succ place =>
      have hbehind : rest[place]? = some line := by simpa using hline
      obtain ⟨middle, hmiddle, hat⟩ := ih hbehind
      refine ⟨middle, ?_, hat⟩
      rw [List.take_succ_cons, List.foldlM_cons, hread, Option.bind_eq_bind, Option.bind_some,
        hmiddle]

end Passes

/-! ## Lines of generated code -/

open Line

theorem indentation_eq_replicate (depth : Nat) :
    indentation defaultIndent depth = List.replicate (2 * depth) ' ' := by
  induction depth with
  | zero => rfl
  | succ depth ih =>
    have htwo : (defaultIndent : Text) = List.replicate 2 ' ' := rfl
    rw [indentation, List.replicate_succ, List.flatten_cons, ← indentation, ih, htwo,
      List.replicate_append_replicate]
    congr 1
    omega

section

variable {depth : Nat} {text : Text}

theorem isSpace_of_mem_replicate (count : Nat) :
    ∀ c ∈ List.replicate count ' ', decide (c = ' ') = true :=
  fun _ hc => decide_eq_true (List.eq_of_mem_replicate hc)

theorem indent_code (h : text.head? ≠ some ' ') :
    indent ((code depth text).text defaultIndent) = 2 * depth := by
  have htext : text.takeWhile (· = ' ') = [] := by
    cases text with
    | nil => rfl
    | cons c rest =>
      apply List.takeWhile_cons_of_neg
      simpa using h
  rw [indent, Line.text, indentation_eq_replicate,
    List.takeWhile_append_of_pos (isSpace_of_mem_replicate _), htext, List.append_nil,
    List.length_replicate]

theorem content_code (h : text.head? ≠ some ' ') :
    content ((code depth text).text defaultIndent) = text := by
  rw [content, Line.text, indentation_eq_replicate,
    List.dropWhile_append_of_pos (isSpace_of_mem_replicate _)]
  cases text with
  | nil => rfl
  | cons c rest =>
    apply List.dropWhile_cons_of_neg
    simpa using h

def IsOpener (text : Text) : Prop := ∃ keyword ∈ keywords, keyword <+: text

/-- The text is not empty, and it neither opens nor closes a block. -/
structure IsInner (text : Text) : Prop where
  ne_nil : text ≠ []
  head : text.head? ≠ some ' '
  not_opener : keywords.any (·.isPrefixOf text) = false
  not_closing : text ≠ Facade.closing

instance (text : Text) : Decidable (IsInner text) :=
  decidable_of_iff (text ≠ [] ∧ text.head? ≠ some ' ' ∧
    keywords.any (·.isPrefixOf text) = false ∧ text ≠ Facade.closing)
    ⟨fun h => ⟨h.1, h.2.1, h.2.2.1, h.2.2.2⟩,
      fun h => ⟨h.ne_nil, h.head, h.not_opener, h.not_closing⟩⟩

/-- A first character that no keyword has is enough. -/
theorem isInner_cons {c : Char} (h : c ∉ [' ', 'm', 'c', 'd', 'e']) (rest : Text) :
    IsInner (c :: rest) := by
  simp only [List.mem_cons, List.not_mem_nil, or_false, not_or] at h
  obtain ⟨hspace, hmodule, hclass, hdef, hend⟩ := h
  refine ⟨List.cons_ne_nil c rest, by simpa using hspace, ?_, ?_⟩
  · simp [keywords, List.isPrefixOf, Ne.symm hmodule, Ne.symm hclass, Ne.symm hdef]
  · intro hclosing
    exact hend (List.cons.inj hclosing).1

theorem IsOpener.head (h : IsOpener text) : text.head? ≠ some ' ' ∧ text ≠ Facade.closing := by
  obtain ⟨keyword, hkeyword, rest, rfl⟩ := h
  simp only [keywords, List.mem_cons, List.not_mem_nil, or_false] at hkeyword
  rcases hkeyword with rfl | rfl | rfl <;> simp [Facade.closing]

theorem IsOpener.not_argument (h : IsOpener text) : text ∉ keywordArguments := by
  obtain ⟨keyword, hkeyword, rest, rfl⟩ := h
  simp only [keywords, List.mem_cons, List.not_mem_nil, or_false] at hkeyword
  rcases hkeyword with rfl | rfl | rfl <;> simp [keywordArguments]

theorem opens_code (h : IsOpener text) : opens ((code depth text).text defaultIndent) = true := by
  rw [opens, content_code h.head.1, List.any_eq_true]
  obtain ⟨keyword, hkeyword, hbefore⟩ := h
  exact ⟨keyword, hkeyword, List.isPrefixOf_iff_prefix.mpr hbefore⟩

theorem read_inner (h : IsInner text) (blocks : List Text) :
    read blocks ((code depth text).text defaultIndent) = some blocks := by
  have hopens : opens ((code depth text).text defaultIndent) = false := by
    rw [opens, content_code h.head, h.not_opener]
  have hcloses : closes ((code depth text).text defaultIndent) = false := by
    rw [closes, content_code h.head, decide_eq_false h.not_closing]
  rw [read, hopens, hcloses]
  rfl

end

/-- Lines that stand at a depth of their own: they keep the blocks around them. -/
def Stands (depth : Nat) (lines : List Line) : Prop :=
  ∀ blocks : List Text, blocks.length = depth →
    Passes depth blocks (lines.map (text defaultIndent)) blocks

theorem stands_nil (depth : Nat) : Stands depth [] := fun _ _ => .nil

theorem Stands.append {depth : Nat} {first second : List Line} (hfirst : Stands depth first)
    (hsecond : Stands depth second) : Stands depth (first ++ second) := by
  intro blocks hblocks
  rw [List.map_append]
  exact (hfirst blocks hblocks).append (hsecond blocks hblocks)

theorem stands_flatMap {α : Type} {depth : Nat} {items : List α} {lines : α → List Line}
    (h : ∀ item ∈ items, Stands depth (lines item)) : Stands depth (items.flatMap lines) := by
  induction items with
  | nil => exact stands_nil depth
  | cons item rest ih =>
    obtain ⟨hitem, hrest⟩ := List.forall_mem_cons.mp h
    exact hitem.append (ih hrest)

theorem stands_singleton {depth : Nat} {line : Line}
    (hread : ∀ blocks : List Text, read blocks (line.text defaultIndent) = some blocks)
    (hplaced : ∀ blocks : List Text, blocks.length = depth →
      Placed blocks (line.text defaultIndent)) : Stands depth [line] := by
  intro blocks hblocks
  exact .cons (hread blocks) (hplaced blocks hblocks) hblocks.ge .nil

theorem stands_blank (depth : Nat) : Stands depth [.blank] := by
  apply stands_singleton
  · intro blocks
    rfl
  · intro blocks _
    exact ⟨fun hcloses => absurd hcloses (by decide), fun _ hne => absurd rfl hne⟩

theorem stands_inner {depth : Nat} {text : Text} (h : IsInner text)
    (hargument : text ∉ keywordArguments) : Stands depth [.code depth text] := by
  apply stands_singleton (read_inner h)
  intro blocks hblocks
  refine ⟨fun hcloses => ?_, fun _ _ => ?_⟩
  · rw [closes, content_code h.head] at hcloses
    exact absurd (of_decide_eq_true hcloses) h.not_closing
  · have hno : isArgument ((code depth text).text defaultIndent) = false := by
      rw [isArgument, content_code h.head]
      simpa using hargument
    rw [indent_code h.head, hno, hblocks]
    rfl

theorem stands_argument {depth : Nat} {text : Text} (h : text ∈ keywordArguments) :
    Stands depth [.code (depth + 1) text] := by
  have hinner : IsInner text := by
    have hall : ∀ text ∈ keywordArguments, IsInner text := by decide
    exact hall text h
  apply stands_singleton (read_inner hinner)
  intro blocks hblocks
  refine ⟨fun hcloses => ?_, fun _ _ => ?_⟩
  · rw [closes, content_code hinner.head] at hcloses
    exact absurd (of_decide_eq_true hcloses) hinner.not_closing
  · have hyes : isArgument ((code (depth + 1) text).text defaultIndent) = true := by
      rw [isArgument, content_code hinner.head]
      simpa using h
    rw [indent_code hinner.head, hyes, hblocks]
    rfl

/-- A block with the line that opens it and the one that closes it. -/
def IsBlock (depth : Nat) (lines : List Line) : Prop :=
  ∃ text body, IsOpener text ∧ Stands (depth + 1) body ∧
    lines = .code depth text :: (body ++ [.code depth Facade.closing])

/-- What a block does up to the line that closes it, and what that line does. -/
theorem IsBlock.passes {depth : Nat} {lines : List Line} (h : IsBlock depth lines)
    {blocks : List Text} (hblocks : blocks.length = depth) :
    ∃ opener inner closer, lines.map (text defaultIndent) = inner ++ [closer] ∧
      Passes (depth + 1) blocks inner (opener :: blocks) ∧
      read (opener :: blocks) closer = some blocks ∧ Placed (opener :: blocks) closer := by
  obtain ⟨opener, body, hopener, hbody, rfl⟩ := h
  have hhead : Facade.closing.head? ≠ some ' ' := by decide
  have hopens : opens ((code depth Facade.closing).text defaultIndent) = false := by
    rw [opens, content_code hhead]
    decide
  have hcloses : closes ((code depth Facade.closing).text defaultIndent) = true := by
    rw [closes, content_code hhead]
    decide
  have hdepth : indent ((code depth opener).text defaultIndent) = 2 * depth :=
    indent_code hopener.head.1
  have hclosing : indent ((code depth Facade.closing).text defaultIndent) = 2 * depth :=
    indent_code hhead
  refine ⟨(code depth opener).text defaultIndent,
    (code depth opener).text defaultIndent :: body.map (text defaultIndent),
    (code depth Facade.closing).text defaultIndent, by simp, ?_, ?_, ?_⟩
  · refine .cons ?_ ⟨fun hend => ?_, fun _ _ => ?_⟩ ?_ (hbody _ (by simp [hblocks]))
    · rw [read, opens_code hopener, if_pos rfl]
    · rw [closes, content_code hopener.head.1] at hend
      exact absurd (of_decide_eq_true hend) hopener.head.2
    · have hno : isArgument ((code depth opener).text defaultIndent) = false := by
        rw [isArgument, content_code hopener.head.1]
        simpa using hopener.not_argument
      rw [hdepth, hno, hblocks]
      rfl
    · simp [hblocks]
  · rw [read, hopens, hcloses]
    rfl
  · refine ⟨fun _ => ⟨_, blocks, rfl, ?_, ?_⟩, fun hnot => ?_⟩
    · rw [hclosing, hdepth]
    · rw [hclosing, hblocks]
    · rw [hcloses] at hnot
      cases hnot

theorem IsBlock.stands {depth : Nat} {lines : List Line} (h : IsBlock depth lines) :
    Stands depth lines := by
  intro blocks hblocks
  obtain ⟨opener, inner, closer, hlines, hinner, hread, hplaced⟩ := h.passes hblocks
  rw [hlines]
  exact (hinner.mono (Nat.le_succ depth)).append (.cons hread hplaced hblocks.ge .nil)

theorem IsBlock.balanced {lines : List Line} (h : IsBlock 0 lines) :
    Balanced (lines.map (text defaultIndent)) := by
  have hnone : ([] : List Text).length = 0 := rfl
  obtain ⟨opener, inner, closer, hlines, hinner, hread, hplaced⟩ := h.passes hnone
  have hall : Passes 0 [] (lines.map (text defaultIndent)) [] := h.stands [] rfl
  refine ⟨hall.foldlM_eq, fun count hpositive hcount => ?_, fun place line hline =>
    hall.placed hline⟩
  rw [hlines, List.length_append, List.length_singleton] at hcount
  have htake : (lines.map (text defaultIndent)).take count = inner.take count := by
    rw [hlines, List.take_append_of_le_length (Nat.le_of_lt_succ hcount)]
  rw [openBehind, htake]
  cases hinner with
  | @cons _ next _ rest first hfirst _ hfloor hrest =>
    obtain ⟨count, rfl⟩ := Nat.exists_eq_succ_of_ne_zero (Nat.pos_iff_ne_zero.mp hpositive)
    obtain ⟨middle, hmiddle, hlength⟩ := hrest.foldlM_take count
    obtain ⟨top, outer, rfl⟩ := List.exists_cons_of_length_pos (hlength hfloor)
    refine ⟨top, outer, ?_⟩
    rw [List.take_succ_cons, List.foldlM_cons, hfirst, Option.bind_eq_bind, Option.bind_some,
      hmiddle]

end Block

end ClientFacade
