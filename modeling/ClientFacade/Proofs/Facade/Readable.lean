import ClientFacade.Proofs.Facade.Delegate
import ClientFacade.Proofs.Facade.Layout
import ClientFacade.Proofs.Facade.Lines
import ClientFacade.Proofs.Text.Lowercase

/-!
# Readable facades

All that follows the opening of the class is read back line by line, if the extractions come from
sources and no type of a sub-client holds a line feed. A module or class name is all that could
still break a line in two. Of the lines behind the opening only declarations are headers, and only
the comment lines of the constructor and of methods are comments.
-/

namespace ClientFacade

theorem noBlank_identifier {submodule : Text} (h : IsWord submodule) :
    ∀ c ∈ identifier submodule, isBlank c = false := by
  have hat : ("@" : Text).all (!isBlank ·) = true := by decide
  have hclient : ("_client" : Text).all (!isBlank ·) = true := by decide
  intro c hc
  rcases List.mem_append.mp hc with hfront | hback
  · rcases List.mem_append.mp hfront with hfirst | hlower
    · simpa using List.all_eq_true.mp hat c hfirst
    · exact Text.noBlank_lower h.noBlank c hlower
  · simpa using List.all_eq_true.mp hclient c hback

theorem feed_not_mem_identifier {submodule : Text} (h : IsWord submodule) :
    '\n' ∉ identifier submodule := by
  intro hm
  exact absurd (noBlank_identifier h '\n' hm) (by decide)

theorem plain_identifier (submodule rest : Text) :
    ¬ IsComment (identifier submodule ++ rest) ∧ ¬ IsHeader (identifier submodule ++ rest) :=
  plain_of_head (by decide) (by decide) (by decide) _

namespace Facade

open Line

/-- The lines of a construction behind the first one, which are the same for all sub-clients. -/
def constructionArguments (depth : Nat) : List Line :=
  [.code (depth + 1) "base_url: base_url,",
   .code (depth + 1) "channel_access_token: channel_access_token,",
   .code (depth + 1) "http_options: http_options",
   .code depth ")"]

theorem construction_eq (depth : Nat) (submodule type : Text) :
    construction depth submodule type =
      .code depth (identifier submodule ++ " = " ++ type ++ ".new(") ::
        constructionArguments depth := rfl

def argumentTexts : List Text :=
  ["base_url: base_url,", "channel_access_token: channel_access_token,",
   "http_options: http_options", ")"]

theorem mem_constructionArguments {depth : Nat} {line : Line}
    (h : line ∈ constructionArguments depth) :
    ∃ depth, ∃ text ∈ argumentTexts, line = .code depth text := by
  simp only [constructionArguments, List.mem_cons, List.not_mem_nil, or_false] at h
  rcases h with rfl | rfl | rfl | rfl <;> exact ⟨_, _, by simp [argumentTexts], rfl⟩

theorem oneLine_construction {depth : Nat} {submodule type : Text} (hword : IsWord submodule)
    (htype : '\n' ∉ type) : ∀ line ∈ construction depth submodule type, line.OneLine := by
  have hargument : ∀ text ∈ argumentTexts, '\n' ∉ text := by decide
  rw [construction_eq, List.forall_mem_cons]
  refine ⟨?_, fun line hline => ?_⟩
  · simp [oneLine_code_iff, feed_not_mem_identifier hword, htype]
  · obtain ⟨depth, text, htext, rfl⟩ := mem_constructionArguments hline
    exact hargument text htext

theorem plain_construction {depth : Nat} {submodule type : Text} :
    ∀ line ∈ construction depth submodule type, line.Plain := by
  have hargument : ∀ text ∈ argumentTexts, ¬ IsComment text ∧ ¬ IsHeader text := by decide
  rw [construction_eq, List.forall_mem_cons]
  refine ⟨?_, fun line hline => ?_⟩
  · rw [plain_code_iff, List.append_assoc, List.append_assoc]
    exact plain_identifier submodule _
  · obtain ⟨depth, text, htext, rfl⟩ := mem_constructionArguments hline
    exact hargument text htext

theorem plain_constructorBody [Runtime] {facade : Facade} {depth : Nat} :
    ∀ line ∈ facade.constructorBody depth, line.Plain := by
  intro line hline
  obtain ⟨submodule, -, hmem⟩ := List.mem_flatMap.mp hline
  exact plain_construction line hmem

theorem mem_closingLines {depth : Nat} {line : Line} (h : line ∈ closingLines depth) :
    ∃ depth, line = .code depth closing := by
  induction depth with
  | zero => exact ⟨0, List.mem_singleton.mp h⟩
  | succ depth ih =>
    rcases List.mem_cons.mp h with rfl | hinner
    · exact ⟨depth + 1, rfl⟩
    · exact ih hinner

theorem plain_closingLines {depth : Nat} : ∀ line ∈ closingLines depth, line.Plain := by
  intro line hline
  obtain ⟨depth, rfl⟩ := mem_closingLines hline
  exact plain_closing depth

def delegateBody (depth : Nat) (receiver : Text) (method : Method) : List Line :=
  [.code (depth + 1) (receiver ++ "." ++ method.call), .code depth closing, .blank]

/-- The comment lines of a method, at a depth of their own. -/
def delegateDocs (depth : Nat) (method : Method) : List Line :=
  method.docLines.map fun line => .code depth line.trimLeft

theorem delegate_eq (depth : Nat) (receiver : Text) (method : Method) :
    delegate depth receiver method = delegateDocs depth method ++
      .code depth method.declaration :: delegateBody depth receiver method := rfl

theorem plain_delegateBody {depth : Nat} {submodule : Text} {method : Method} :
    ∀ line ∈ delegateBody depth (identifier submodule) method, line.Plain := by
  simp only [delegateBody, List.forall_mem_cons]
  refine ⟨?_, plain_closing depth, plain_blank, by simp⟩
  rw [plain_code_iff, List.append_assoc]
  exact plain_identifier submodule _

theorem comment_delegateDocs {depth : Nat} {method : Method} (h : method.Sound) :
    ∀ line ∈ delegateDocs depth method, IsComment line.body := by
  intro line hline
  obtain ⟨doc, hdoc, rfl⟩ := List.mem_map.mp hline
  have hcomment := (h.docLines doc hdoc).1
  rw [IsComment, Line.body, Text.trim_trimLeft]
  exact hcomment

theorem oneLine_delegate {depth : Nat} {submodule : Text} {method : Method} (h : method.Sound)
    (hword : IsWord submodule) :
    ∀ line ∈ delegate depth (identifier submodule) method, line.OneLine := by
  have hcall : '\n' ∉ method.call := h.feed_not_mem_call
  rw [delegate_eq]
  simp only [List.forall_mem_append, List.forall_mem_cons, delegateBody]
  refine ⟨?_, ?_, ?_, oneLine_closing depth, oneLine_blank, by simp⟩
  · intro line hline
    obtain ⟨doc, hdoc, rfl⟩ := List.mem_map.mp hline
    exact fun hm => (h.docLines doc hdoc).2 ((Text.trimLeft_suffix doc).subset hm)
  · simp [oneLine_code_iff, Method.declaration, hcall]
  · simp [oneLine_code_iff, feed_not_mem_identifier hword, hcall]

theorem head?_constructorDocs : ∀ doc ∈ constructorDocs, doc.head? = some '#' := by decide

theorem comment_constructorDocs (depth : Nat) :
    ∀ line ∈ constructorDocs.map (code depth), IsComment line.body := by
  intro line hline
  obtain ⟨doc, hdoc, rfl⟩ := List.mem_map.mp hline
  obtain ⟨rest, hrest⟩ := List.head?_eq_some_iff.mp (head?_constructorDocs doc hdoc)
  rw [Line.body, hrest]
  exact isComment_cons rest

theorem trim_constructorSignature : Text.trim constructorSignature = constructorSignature := by
  decide

/-- The lines behind the header of the constructor. -/
def constructorRest [Runtime] (facade : Facade) (depth : Nat) : List Line :=
  facade.constructorBody (depth + 1) ++ [.code depth closing, .blank]

theorem constructorLines_eq [Runtime] (facade : Facade) (depth : Nat) :
    facade.constructorLines depth = constructorDocs.map (.code depth) ++
      .code depth constructorSignature :: facade.constructorRest depth := by
  simp [constructorLines, constructorRest]

theorem plain_constructorRest [Runtime] {facade : Facade} {depth : Nat} :
    ∀ line ∈ facade.constructorRest depth, line.Plain := by
  simp only [constructorRest, List.forall_mem_append, List.forall_mem_cons]
  exact ⟨plain_constructorBody, plain_closing depth, plain_blank, by simp⟩

def OneLineTypes [Runtime] (facade : Facade) : Prop :=
  ∀ submodule ∈ facade.submodules, ∀ type, facade.clientType submodule = .ok type → '\n' ∉ type

instance [Runtime] (facade : Facade) : Decidable facade.OneLineTypes :=
  decidable_of_iff
    (∀ submodule ∈ facade.submodules, ∀ type ∈ (facade.clientType submodule).toOption, '\n' ∉ type)
    (by
      refine forall₂_congr fun submodule _ => ?_
      cases facade.clientType submodule <;> simp [Except.toOption])

/-- What a facade must satisfy to be read back line by line behind its opening. -/
structure Readable [Runtime] (facade : Facade) : Prop where
  sound : ∀ extraction ∈ facade.extractions, extraction.Sound
  oneLine : ∀ submodule ∈ facade.clients, '\n' ∉ facade.typeOf submodule

/-- The lines that the opening is read as. -/
def openingTexts (facade : Facade) : List Text :=
  facade.openingLines.flatMap fun line => Text.lines (line.text defaultIndent)

def bodyLines [Runtime] (facade : Facade) : List Line :=
  facade.constructorLines (facade.classDepth + 1) ++
    facade.delegateLines (facade.classDepth + 1) ++ closingLines facade.classDepth

theorem layout_eq [Runtime] (facade : Facade) :
    facade.layout = facade.openingLines ++ facade.bodyLines := by
  simp [layout, bodyLines]

namespace Readable

variable {facade : Facade}

theorem of_typed [Runtime] (hsound : ∀ extraction ∈ facade.extractions, extraction.Sound)
    (htyped : facade.Typed) (htypes : facade.OneLineTypes) : facade.Readable where
  sound := hsound
  oneLine submodule hmem :=
    htypes submodule (List.mem_eraseDups.mp hmem) _ (htyped submodule hmem)

theorem isWord [Runtime] (h : facade.Readable) {submodule : Text}
    (hmem : submodule ∈ facade.clients) :
    IsWord submodule := by
  obtain ⟨extraction, hextraction, rfl⟩ := List.mem_map.mp (List.mem_eraseDups.mp hmem)
  exact (h.sound extraction hextraction).submodule

theorem oneLine_constructorLines [Runtime] (h : facade.Readable) (depth : Nat) :
    ∀ line ∈ facade.constructorLines depth, line.OneLine := by
  have hdocs : ∀ doc ∈ constructorDocs, '\n' ∉ doc := by decide
  simp only [constructorLines, List.forall_mem_append, List.forall_mem_cons, constructorBody]
  refine ⟨⟨⟨?_, ?_, by simp⟩, ?_⟩, oneLine_closing depth, oneLine_blank, by simp⟩
  · intro line hline
    obtain ⟨doc, hdoc, rfl⟩ := List.mem_map.mp hline
    exact hdocs doc hdoc
  · exact oneLine_code_iff.mpr (by decide)
  · intro line hline
    obtain ⟨submodule, hmem, hconstruction⟩ := List.mem_flatMap.mp hline
    exact oneLine_construction (h.isWord hmem) (h.oneLine submodule hmem) line hconstruction

theorem sound_of_mem_delegatedMethods [Runtime] (h : facade.Readable) {method : Method}
    (hmem : method ∈ facade.delegatedMethods) : method.Sound ∧ method.isConstructor = false := by
  obtain ⟨extraction, hextraction, hdelegated⟩ := List.mem_flatMap.mp hmem
  obtain ⟨hmethod, hother⟩ := List.mem_filter.mp hdelegated
  exact ⟨(h.sound extraction hextraction).methods method hmethod, by simpa using hother⟩

theorem oneLine_delegateLines [Runtime] (h : facade.Readable) (depth : Nat) :
    ∀ line ∈ facade.delegateLines depth, line.OneLine := by
  intro line hline
  obtain ⟨extraction, hextraction, hdelegates⟩ := List.mem_flatMap.mp hline
  obtain ⟨method, hmethod, hdelegate⟩ := List.mem_flatMap.mp hdelegates
  have hsound := h.sound extraction hextraction
  have hmem : method ∈ extraction.methods := List.mem_of_mem_filter hmethod
  exact oneLine_delegate (hsound.methods method hmem) hsound.submodule line hdelegate

theorem oneLine_bodyLines [Runtime] (h : facade.Readable) :
    ∀ line ∈ facade.bodyLines, line.OneLine := by
  simp only [bodyLines, List.forall_mem_append]
  refine ⟨⟨h.oneLine_constructorLines _, h.oneLine_delegateLines _⟩, fun line hline => ?_⟩
  obtain ⟨depth, rfl⟩ := mem_closingLines hline
  exact oneLine_closing depth

/-- Among the lines of the delegates only the declarations are headers. -/
theorem mem_delegateLines_cases [Runtime] (h : facade.Readable) {depth : Nat} {line : Line}
    (hline : line ∈ facade.delegateLines depth) : IsComment line.body ∨ line.Plain ∨
      ∃ method ∈ facade.delegatedMethods, line = .code depth method.declaration := by
  obtain ⟨extraction, hextraction, hdelegates⟩ := List.mem_flatMap.mp hline
  obtain ⟨method, hmethod, hdelegate⟩ := List.mem_flatMap.mp hdelegates
  have hmem : method ∈ facade.delegatedMethods :=
    List.mem_flatMap.mpr ⟨extraction, hextraction, hmethod⟩
  rw [delegate_eq] at hdelegate
  rcases List.mem_append.mp hdelegate with hdoc | hrest
  · exact Or.inl (comment_delegateDocs (h.sound_of_mem_delegatedMethods hmem).1 line hdoc)
  · rcases List.mem_cons.mp hrest with rfl | hbody
    · exact Or.inr (Or.inr ⟨method, hmem, rfl⟩)
    · exact Or.inr (Or.inl (plain_delegateBody line hbody))

/-- Behind whatever the opening is read as, the lines are read back one by one. -/
theorem lines_layout [Runtime] (h : facade.Readable) :
    Text.lines (Line.render defaultIndent facade.layout) =
      facade.openingTexts ++ facade.bodyLines.map read ++ [[]] := by
  rw [lines_render, layout_eq, List.flatMap_append, flatMap_lines_eq_map_read h.oneLine_bodyLines,
    openingTexts]

end Readable

end Facade

end ClientFacade
