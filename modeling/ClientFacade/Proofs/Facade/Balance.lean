import ClientFacade.Proofs.Aggregation.Run
import ClientFacade.Proofs.Facade.Block
import ClientFacade.Proofs.Facade.Opening

/-!
# The blocks of a facade

The text of a facade is one balanced block. A delegate is a block below its comment lines, and so is
the constructor; the class is a block of them, and every module is a block around the next one. What
methods are called and which parameters and comments they have does not matter, because a delegate
begins its lines with a character of its own.
-/

namespace ClientFacade

open Line Block

theorem IsComment.trimLeft_eq {line : Text} (h : IsComment line) :
    ∃ rest, line.trimLeft = '#' :: rest := by
  obtain ⟨rest, hrest⟩ := h.trans (Text.trimRight_prefix_self line.trimLeft)
  exact ⟨rest, hrest.symm⟩

namespace Facade

variable {facade : Facade} {depth : Nat}

theorem isOpener_declaration (method : Method) : IsOpener method.declaration :=
  ⟨"def ", by decide, List.prefix_append _ _⟩

theorem stands_hash (rest : Text) : Stands depth [.code depth ('#' :: rest)] :=
  stands_inner (isInner_cons (by decide) rest) (by simp [keywordArguments])

theorem stands_at (rest : Text) : Stands depth [.code depth ('@' :: rest)] :=
  stands_inner (isInner_cons (by decide) rest) (by simp [keywordArguments])

theorem stands_delegateDocs {method : Method} (h : method.Sound) :
    Stands depth (delegateDocs depth method) := by
  rw [delegateDocs, List.map_eq_flatMap]
  apply stands_flatMap
  intro doc hdoc
  obtain ⟨rest, hrest⟩ := (h.docLines doc hdoc).1.trimLeft_eq
  rw [hrest]
  exact stands_hash rest

/-- The call begins with the variable of the sub-client, whatever its method is called. -/
theorem stands_delegate {submodule : Text} {method : Method} (h : method.Sound) :
    Stands depth (delegate depth (identifier submodule) method) := by
  have hblock : IsBlock depth [.code depth method.declaration,
      .code (depth + 1) (identifier submodule ++ "." ++ method.call), .code depth closing] :=
    ⟨method.declaration, _, isOpener_declaration method, stands_at _, rfl⟩
  rw [delegate_eq]
  exact (stands_delegateDocs h).append (hblock.stands.append (stands_blank depth))

theorem stands_delegateLines (h : ∀ extraction ∈ facade.extractions, extraction.Sound) :
    Stands depth (facade.delegateLines depth) := by
  apply stands_flatMap
  intro extraction hextraction
  apply stands_flatMap
  intro method hmethod
  exact stands_delegate ((h extraction hextraction).methods method (List.mem_of_mem_filter hmethod))

theorem stands_construction (submodule type : Text) :
    Stands depth (construction depth submodule type) := by
  have hclose : Stands depth [.code depth ")"] := stands_inner (by decide) (by decide)
  have harguments : ∀ text ∈ keywordArguments, Stands depth [.code (depth + 1) text] :=
    fun text => stands_argument
  have hbehind : Stands depth (keywordArguments.flatMap fun text => [.code (depth + 1) text]) :=
    stands_flatMap harguments
  exact (stands_at _).append (hbehind.append hclose)

theorem stands_constructorLines [Runtime] (facade : Facade) (depth : Nat) :
    Stands depth (facade.constructorLines depth) := by
  have hdocs : Stands depth (constructorDocs.map (.code depth)) := by
    rw [List.map_eq_flatMap]
    apply stands_flatMap
    intro doc hdoc
    obtain ⟨rest, rfl⟩ := List.head?_eq_some_iff.mp (head?_constructorDocs doc hdoc)
    exact stands_hash rest
  have hbody : Stands (depth + 1) (facade.constructorBody (depth + 1)) :=
    stands_flatMap fun submodule _ => stands_construction submodule _
  have hblock : IsBlock depth (.code depth constructorSignature ::
      (facade.constructorBody (depth + 1) ++ [.code depth closing])) :=
    ⟨constructorSignature, _, ⟨"def ", by decide, by decide⟩, hbody, rfl⟩
  have hall := hdocs.append (hblock.stands.append (stands_blank depth))
  simpa [constructorLines] using hall

/-- The closing lines of the modules around `depth` of them. -/
def moduleClosings : Nat → List Line
  | 0 => []
  | depth + 1 => closingLines depth

theorem closingLines_eq (depth : Nat) :
    closingLines depth = .code depth closing :: moduleClosings depth := by
  cases depth <;> rfl

/-- Each module is a block around the one inside it. -/
theorem isBlock_moduleLines (path : List Text) {inner : List Line}
    (h : IsBlock path.length inner) :
    IsBlock 0 (moduleLines 0 path ++ (inner ++ moduleClosings path.length)) := by
  induction path using List.reverseRecOn generalizing inner with
  | nil => simpa [moduleLines, moduleClosings] using h
  | append_singleton outer name ih =>
    rw [List.length_append, List.length_singleton] at h
    have hmodule : IsBlock outer.length (.code outer.length ("module " ++ name) ::
        (inner ++ [.code outer.length closing])) :=
      ⟨"module " ++ name, inner, ⟨"module ", by decide, List.prefix_append _ _⟩, h.stands, rfl⟩
    have hall := ih hmodule
    rw [Submodule.moduleLines_concat, List.length_append, List.length_singleton, moduleClosings,
      closingLines_eq, Nat.zero_add]
    simpa using hall

theorem isBlock_layout [Runtime] (h : ∀ extraction ∈ facade.extractions, extraction.Sound) :
    IsBlock 0 facade.layout := by
  have hbody : Stands (facade.classDepth + 1) (facade.constructorLines (facade.classDepth + 1) ++
      facade.delegateLines (facade.classDepth + 1)) :=
    (stands_constructorLines facade _).append (stands_delegateLines h)
  have hclass : IsBlock facade.modulePath.length (.code facade.classDepth
      ("class " ++ facade.className) :: (facade.constructorLines (facade.classDepth + 1) ++
      facade.delegateLines (facade.classDepth + 1) ++ [.code facade.classDepth closing])) :=
    ⟨"class " ++ facade.className, _, ⟨"class ", by decide, List.prefix_append _ _⟩, hbody, rfl⟩
  have hall := isBlock_moduleLines facade.modulePath hclass
  rw [← classDepth] at hall
  rw [layout, openingLines, closingLines_eq]
  simpa using hall

/-! ## The lines that stand deeper -/

def argumentsOf (lines : List Text) : List Text := (lines.filter isArgument).map content

/-- The line is no keyword argument, however deep it stands. -/
structure Silent (line : Line) : Prop where
  head : line.body.head? ≠ some ' '
  not_argument : line.body ∉ keywordArguments

theorem silent_of_head {line : Line}
    (h : line.body.head? ∉ [some ' ', some 'b', some 'c', some 'h']) : Silent line := by
  have hheads : ∀ text ∈ keywordArguments, text.head? ∈ [some 'b', some 'c', some 'h'] := by decide
  refine ⟨fun hspace => h (by simp [hspace]), fun hmem => h ?_⟩
  exact List.mem_cons_of_mem _ (hheads line.body hmem)

theorem content_text {line : Line} (h : line.body.head? ≠ some ' ') :
    content (line.text defaultIndent) = line.body := by
  cases line with
  | code depth text => exact content_code h
  | blank => rfl

theorem argumentsOf_silent {lines : List Line} (h : ∀ line ∈ lines, Silent line) :
    argumentsOf (lines.map (text defaultIndent)) = [] := by
  rw [argumentsOf, List.map_eq_nil_iff, List.filter_eq_nil_iff]
  intro text htext
  obtain ⟨line, hline, rfl⟩ := List.mem_map.mp htext
  rw [isArgument, content_text (h line hline).head]
  simpa using (h line hline).not_argument

theorem argumentsOf_append (first second : List Text) :
    argumentsOf (first ++ second) = argumentsOf first ++ argumentsOf second := by
  simp [argumentsOf]

theorem argumentsOf_flatMap {α : Type} (items : List α) (lines : α → List Text) :
    argumentsOf (items.flatMap lines) = items.flatMap fun item => argumentsOf (lines item) := by
  induction items with
  | nil => rfl
  | cons item rest ih => rw [List.flatMap_cons, argumentsOf_append, ih, List.flatMap_cons]

theorem argumentsOf_arguments {texts : List Text} (h : ∀ text ∈ texts, text ∈ keywordArguments) :
    argumentsOf ((texts.map (code depth)).map (text defaultIndent)) = texts := by
  have hheads : ∀ text ∈ keywordArguments, text.head? ≠ some ' ' := by decide
  induction texts with
  | nil => rfl
  | cons argument rest ih =>
    obtain ⟨hargument, hrest⟩ := List.forall_mem_cons.mp h
    have hcontent : content ((code depth argument).text defaultIndent) = argument :=
      content_code (hheads argument hargument)
    have hyes : isArgument ((code depth argument).text defaultIndent) = true := by
      rw [isArgument, hcontent]
      simpa using hargument
    have ih := ih hrest
    rw [argumentsOf] at ih ⊢
    rw [List.map_cons, List.map_cons, List.filter_cons_of_pos hyes, List.map_cons, hcontent, ih]

theorem argumentsOf_construction (submodule type : Text) :
    argumentsOf ((construction depth submodule type).map (text defaultIndent)) =
      keywordArguments := by
  have hparts : construction depth submodule type =
      [code depth (identifier submodule ++ " = " ++ type ++ ".new(")] ++
        (keywordArguments.map (code (depth + 1)) ++ [code depth ")"]) := rfl
  have hfirst : ∀ line ∈ [code depth (identifier submodule ++ " = " ++ type ++ ".new(")],
      Silent line := by
    simpa using silent_of_head (by simp [identifier, Line.body])
  have hlast : ∀ line ∈ [code depth ")"], Silent line := by
    simpa using silent_of_head (by simp [Line.body])
  rw [hparts, List.map_append, List.map_append, argumentsOf_append, argumentsOf_append,
    argumentsOf_silent hfirst, argumentsOf_silent hlast, argumentsOf_arguments fun _ => id,
    List.nil_append, List.append_nil]

theorem silent_openingLines : ∀ line ∈ facade.openingLines, Silent line := by
  intro line hline
  rcases List.mem_append.mp hline with hmodule | hclass
  · obtain ⟨depth, name, -, rfl⟩ := mem_moduleLines hmodule
    exact silent_of_head (by simp [Line.body])
  · rw [List.mem_singleton.mp hclass]
    exact ⟨by simp [Line.body], by simp [Line.body, keywordArguments]⟩

theorem silent_delegateLines (h : ∀ extraction ∈ facade.extractions, extraction.Sound) :
    ∀ line ∈ facade.delegateLines depth, Silent line := by
  intro line hline
  obtain ⟨extraction, hextraction, hdelegates⟩ := List.mem_flatMap.mp hline
  obtain ⟨method, hmethod, hdelegate⟩ := List.mem_flatMap.mp hdelegates
  have hsound := (h extraction hextraction).methods method (List.mem_of_mem_filter hmethod)
  rw [delegate_eq] at hdelegate
  simp only [delegateDocs, delegateBody, List.mem_append, List.mem_map, List.mem_cons,
    List.not_mem_nil, or_false] at hdelegate
  apply silent_of_head
  rcases hdelegate with ⟨doc, hdoc, rfl⟩ | rfl | rfl | rfl | rfl
  · obtain ⟨rest, hrest⟩ := (hsound.docLines doc hdoc).1.trimLeft_eq
    simp [Line.body, hrest]
  · simp [Line.body, Method.declaration]
  · simp [Line.body, identifier]
  · simp [Line.body, closing]
  · simp [Line.body]

theorem argumentsOf_constructorLines [Runtime] (facade : Facade) (depth : Nat) :
    argumentsOf ((facade.constructorLines depth).map (text defaultIndent)) =
      facade.clients.flatMap fun _ => keywordArguments := by
  have hdocs : ∀ line ∈ constructorDocs.map (code depth) ++ [code depth constructorSignature],
      Silent line := by
    intro line hline
    apply silent_of_head
    rcases List.mem_append.mp hline with hdocs | hsignature
    · obtain ⟨doc, hdoc, rfl⟩ := List.mem_map.mp hdocs
      rw [Line.body, head?_constructorDocs doc hdoc]
      decide
    · rw [List.mem_singleton.mp hsignature, Line.body]
      decide
  have hrest : ∀ line ∈ [code depth closing, .blank], Silent line := by
    intro line hline
    apply silent_of_head
    rcases List.mem_pair.mp hline with rfl | rfl
    · simp [Line.body, closing]
    · simp [Line.body]
  have hbody : argumentsOf ((facade.constructorBody (depth + 1)).map (text defaultIndent)) =
      facade.clients.flatMap fun _ => keywordArguments := by
    rw [constructorBody, List.map_flatMap, argumentsOf_flatMap]
    exact List.flatMap_congr fun submodule _ => argumentsOf_construction submodule _
  rw [constructorLines, List.map_append, List.map_append, argumentsOf_append, argumentsOf_append,
    argumentsOf_silent hdocs, argumentsOf_silent hrest, hbody, List.nil_append, List.append_nil]

theorem argumentsOf_layout [Runtime] (h : ∀ extraction ∈ facade.extractions, extraction.Sound) :
    argumentsOf (facade.layout.map (text defaultIndent)) =
      facade.clients.flatMap fun _ => keywordArguments := by
  have hclosing : ∀ line ∈ closingLines facade.classDepth, Silent line := by
    intro line hline
    obtain ⟨depth, rfl⟩ := mem_closingLines hline
    exact silent_of_head (by simp [Line.body, closing])
  rw [layout, List.map_append, List.map_append, List.map_append, argumentsOf_append,
    argumentsOf_append, argumentsOf_append, argumentsOf_silent silent_openingLines,
    argumentsOf_silent (silent_delegateLines h), argumentsOf_silent hclosing,
    argumentsOf_constructorLines, List.nil_append, List.append_nil, List.append_nil]

/-! ## The text -/

theorem oneLine_layout [Runtime] (h : facade.Readable)
    (hmodules : ∀ name ∈ facade.modulePath, '\n' ∉ name)
    (hclass : '\n' ∉ facade.className) : ∀ line ∈ facade.layout, line.OneLine := by
  rw [layout_eq]
  simp only [List.forall_mem_append]
  refine ⟨fun line hline => ?_, h.oneLine_bodyLines⟩
  rcases List.mem_append.mp hline with hmodule | hlast
  · obtain ⟨depth, name, hname, rfl⟩ := mem_moduleLines hmodule
    simpa [oneLine_code_iff] using hmodules name hname
  · rw [List.mem_singleton.mp hlast]
    simpa [oneLine_code_iff] using hclass

theorem pieces_render {lines : List Line} (h : ∀ line ∈ lines, line.OneLine) :
    Text.pieces '\n' (Line.render defaultIndent lines) =
      lines.map (text defaultIndent) ++ [[]] := by
  rw [Line.pieces_render, List.map_eq_flatMap]
  exact congrArg (· ++ [[]]) (List.flatMap_congr fun line hline => (h line hline).pieces_text)

/-- A facade whose types can be rendered has a balanced text. The lines that stand one level deeper
than the blocks around them are the three arguments of each construction. -/
theorem generated_text_is_balanced [Runtime] (facade : Facade)
    (hextracted : ∀ extraction ∈ facade.extractions, ∃ nesting source,
      Source.extraction? nesting source = some extraction)
    (hmodules : ∀ name ∈ facade.modulePath, '\n' ∉ name) (hclass : '\n' ∉ facade.className)
    (htypes : ∀ submodule ∈ facade.submodules, ∃ type,
      facade.clientType submodule = .ok type ∧ '\n' ∉ type) :
    ∃ text lines, (facade.generate defaultIndent).outcome = .ok text ∧
      text.pieces '\n' = lines ++ [[]] ∧ Balanced lines ∧
      argumentsOf lines = facade.clients.flatMap fun _ => keywordArguments := by
  have hsound : ∀ extraction ∈ facade.extractions, extraction.Sound := by
    intro extraction hmem
    obtain ⟨nesting, source, hsource⟩ := hextracted extraction hmem
    exact Source.sound_of_extraction? hsource
  have htyped : facade.Typed := by
    intro submodule hmem
    obtain ⟨type, htype, -⟩ := htypes submodule (List.mem_eraseDups.mp hmem)
    exact clientType_eq_ok_typeOf htype
  have hreadable : facade.Readable := by
    refine ⟨hsound, fun submodule hmem => ?_⟩
    obtain ⟨type, htype, hfeed⟩ := htypes submodule (List.mem_eraseDups.mp hmem)
    rwa [typeOf_eq htype]
  refine ⟨Line.render defaultIndent facade.layout, facade.layout.map (Line.text defaultIndent),
    ?_, ?_, ?_, ?_⟩
  · rw [generate_of_render (render_of_typed htyped defaultIndent)]
  · exact pieces_render (oneLine_layout hreadable hmodules hclass)
  · exact (isBlock_layout hsound).balanced
  · exact argumentsOf_layout hsound

/-- A source whose comments and names look like the lines that close and open blocks. -/
def endSource : Source where
  path := "end.rb"
  text := "module A\nmodule Foo\n# end\ndef end\n  # module B\ndef module x(\ndef  (a)\n"

def endFacade : Facade where
  modulePath := ["A", "All"]
  className := "Client"
  template := "::{submodule}"
  extractions := (endSource.extraction? ["A"]).toList

section Examples

attribute [local instance] Runtime.shared

theorem generated_text_is_balanced_of_endFacade :
    (endFacade.delegatedMethods.map Method.declaration =
      (["def end", "def module x(", "def (a)"] : List Text)) ∧
    ∃ text lines, (endFacade.generate defaultIndent).outcome = .ok text ∧
      text.pieces '\n' = lines ++ [[]] ∧ Balanced lines ∧ argumentsOf lines = keywordArguments := by
  have hclients : endFacade.clients = [("Foo" : Text)] := by decide +kernel
  have hsubmodules : endFacade.submodules = [("Foo" : Text)] := by decide +kernel
  refine ⟨by decide +kernel, ?_⟩
  have hbalanced := generated_text_is_balanced endFacade
    (fun extraction hmem => ⟨["A"], endSource, Option.mem_toList.mp hmem⟩) (by decide) (by decide)
    (fun submodule hmem => by
      rw [hsubmodules, List.mem_singleton] at hmem
      exact ⟨"::Foo", by rw [hmem]; decide +kernel, by decide⟩)
  simpa [hclients] using hbalanced

end Examples

end Facade

end ClientFacade
