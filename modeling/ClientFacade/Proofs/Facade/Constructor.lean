import ClientFacade.Proofs.Facade.Opening
import ClientFacade.Proofs.Aggregation
import ClientFacade.Proofs.Source.Constructor

/-!
# The constructors of a facade

A facade is meant to have one constructor, which builds the sub-clients. The constructors of
sub-clients are left out by the name that is read off their headers. If that name has taken
parameters in, the method is delegated, and the facade declares one more constructor. These are all
the constructors that a facade declares.
-/

namespace ClientFacade

open Line

/-- Whether a line declares a constructor. -/
def opensConstructor (line : Text) : Bool :=
  (Text.dropBeginning? "def " line.trim).any namesConstructor

def constructorHeaders (lines : List Text) : List Text :=
  (lines.filter opensConstructor).map Text.trim

theorem constructorHeaders_append (first second : List Text) :
    constructorHeaders (first ++ second) =
      constructorHeaders first ++ constructorHeaders second := by
  simp [constructorHeaders]

theorem constructorHeaders_flatMap {α : Type} (items : List α) (block : α → List Text) :
    constructorHeaders (items.flatMap block) =
      items.flatMap fun item => constructorHeaders (block item) := by
  rw [constructorHeaders, List.filter_flatMap, List.map_flatMap]
  rfl

theorem opensConstructor_eq_false {line : Text} (h : ¬ IsHeader line) :
    opensConstructor line = false := by
  rw [opensConstructor, Text.dropBeginning?, if_neg]
  · rfl
  · exact fun hprefix => h (List.isPrefixOf_iff_prefix.mp hprefix)

theorem constructorHeaders_of_not_isHeader {lines : List Text}
    (h : ∀ line ∈ lines, ¬ IsHeader line) : constructorHeaders lines = [] := by
  have hnone : lines.filter opensConstructor = [] :=
    List.filter_eq_nil_iff.mpr fun line hline => by simp [opensConstructor_eq_false (h line hline)]
  rw [constructorHeaders, hnone, List.map_nil]

theorem constructorHeaders_map_read {lines : List Line}
    (h : ∀ line ∈ lines, ¬ IsHeader line.body) : constructorHeaders (lines.map read) = [] := by
  refine constructorHeaders_of_not_isHeader fun text htext => ?_
  obtain ⟨line, hline, rfl⟩ := List.mem_map.mp htext
  exact fun hheader => h line hline (isHeader_read.mp hheader)

/-- A single header between lines that are none. -/
theorem constructorHeaders_definition {docs rest : List Line} {header : Text} (depth : Nat)
    (hdocs : ∀ line ∈ docs, ¬ IsHeader line.body) (hrest : ∀ line ∈ rest, ¬ IsHeader line.body) :
    constructorHeaders ((docs ++ .code depth header :: rest).map read) =
      if opensConstructor header then [header.trim] else [] := by
  have hopens : opensConstructor (code depth header).read = opensConstructor header := by
    rw [opensConstructor, trim_read, opensConstructor]
    rfl
  have hone : constructorHeaders [(code depth header).read] =
      if opensConstructor header then [header.trim] else [] := by
    rw [constructorHeaders, List.filter_singleton, hopens]
    cases opensConstructor header with
    | false => rfl
    | true => simp [trim_read, Line.body]
  rw [List.map_append, List.map_cons, ← List.singleton_append, constructorHeaders_append,
    constructorHeaders_append, constructorHeaders_map_read hdocs, constructorHeaders_map_read hrest,
    hone, List.append_nil, List.nil_append]

namespace Method

theorem namesConstructor_call (method : Method) :
    namesConstructor method.call = namesConstructor method.name := by
  unfold call Facade.withParameters
  split_ifs
  · rfl
  · have hopen := namesConstructor_append_open method.name (method.parameters ++ ")")
    simpa using hopen

namespace Sound

variable {method : Method}

theorem opensConstructor_declaration (h : method.Sound) :
    opensConstructor method.declaration = method.writtenAsConstructor := by
  rw [h.writtenAsConstructor_eq, ← method.namesConstructor_call]
  by_cases hcall : method.call = []
  · rw [declaration, hcall]
    decide
  · rw [opensConstructor, (h.declaration_trimmed hcall).trim_eq, declaration,
      Text.dropBeginning?_append, Option.any_some]

theorem constructorHeaders_delegate (h : method.Sound) (depth : Nat) (submodule : Text) :
    constructorHeaders ((Facade.delegate depth (identifier submodule) method).map read) =
      if method.writtenAsConstructor then [method.declaration] else [] := by
  have hdocs : ∀ line ∈ Facade.delegateDocs depth method, ¬ IsHeader line.body :=
    fun line hline => not_isHeader_of_isComment (Facade.comment_delegateDocs h line hline)
  have hbody : ∀ line ∈ Facade.delegateBody depth (identifier submodule) method,
      ¬ IsHeader line.body := fun line hline => (Facade.plain_delegateBody line hline).2
  rw [Facade.delegate_eq, constructorHeaders_definition depth hdocs hbody,
    h.opensConstructor_declaration]
  split_ifs with hwritten
  · have hcall : method.call ≠ [] := by
      intro hnil
      rw [h.writtenAsConstructor_eq, ← method.namesConstructor_call, hnil] at hwritten
      exact absurd hwritten (by decide)
    rw [(h.declaration_trimmed hcall).trim_eq]
  · rfl

end Sound

end Method

namespace Facade

variable {facade : Facade}

theorem constructorHeaders_constructorLines [Runtime] (facade : Facade) (depth : Nat) :
    constructorHeaders ((facade.constructorLines depth).map read) = [constructorSignature] := by
  have hopens : opensConstructor constructorSignature = true := by decide
  have hdocs : ∀ line ∈ constructorDocs.map (code depth), ¬ IsHeader line.body :=
    fun line hline => not_isHeader_of_isComment (comment_constructorDocs depth line hline)
  have hrest : ∀ line ∈ facade.constructorRest depth, ¬ IsHeader line.body :=
    fun line hline => (plain_constructorRest line hline).2
  rw [constructorLines_eq, constructorHeaders_definition depth hdocs hrest, hopens, if_pos rfl,
    trim_constructorSignature]

theorem constructorHeaders_delegates {methods : List Method}
    (h : ∀ method ∈ methods, method.Sound) (depth : Nat) (submodule : Text) :
    constructorHeaders ((methods.flatMap (delegate depth (identifier submodule))).map read) =
      (methods.filter (·.writtenAsConstructor)).map Method.declaration := by
  induction methods with
  | nil => rfl
  | cons method rest ih =>
    have hmethod := (h method List.mem_cons_self).constructorHeaders_delegate depth submodule
    have hrest := ih fun other hother => h other (List.mem_cons_of_mem _ hother)
    rw [List.flatMap_cons, List.map_append, constructorHeaders_append, hmethod, hrest,
      List.filter_cons]
    split_ifs <;> rfl

theorem constructorHeaders_delegateLines [Runtime] (h : facade.Readable) (depth : Nat) :
    constructorHeaders ((facade.delegateLines depth).map read) =
      (facade.delegatedMethods.filter (·.writtenAsConstructor)).map Method.declaration := by
  rw [delegateLines, List.map_flatMap, constructorHeaders_flatMap, delegatedMethods,
    List.filter_flatMap, List.map_flatMap]
  refine List.flatMap_congr fun extraction hextraction => ?_
  have hsound := (h.sound extraction hextraction).methods
  exact constructorHeaders_delegates
    (fun method hmethod => hsound method (List.mem_of_mem_filter hmethod)) depth _

theorem constructorHeaders_layout [Runtime] (h : facade.Readable)
    (hopening : ∀ line ∈ facade.openingTexts, ¬ IsComment line ∧ ¬ IsHeader line) :
    constructorHeaders (Text.lines (Line.render defaultIndent facade.layout)) =
      constructorSignature ::
        (facade.delegatedMethods.filter (·.writtenAsConstructor)).map Method.declaration := by
  have hopen : constructorHeaders facade.openingTexts = [] :=
    constructorHeaders_of_not_isHeader fun line hline => (hopening line hline).2
  have hclosing : constructorHeaders ((closingLines facade.classDepth).map read) = [] :=
    constructorHeaders_map_read fun line hline => (plain_closingLines line hline).2
  have hend : constructorHeaders [[]] = [] := by decide
  rw [h.lines_layout, bodyLines, List.map_append, List.map_append]
  simp only [constructorHeaders_append]
  rw [hopen, facade.constructorHeaders_constructorLines, constructorHeaders_delegateLines h,
    hclosing, hend]
  simp

end Facade

namespace Aggregator

/-- A facade declares the synthesized constructor first, and then one more for each method that is
written as a constructor but is not named `initialize` alone. So it has a single constructor just if
there is no such method. -/
theorem constructorHeaders_of_run [Runtime] (settings : Settings) (sources : List Source)
    (text : Text)
    (haccepted : settings.Accepted)
    (hrun : ((ofSettings settings).run sources).outcome = .ok text)
    (htypes : ((ofSettings settings).facadeOf sources).OneLineTypes) :
    constructorHeaders text.lines = Facade.constructorSignature ::
        ((((ofSettings settings).extractions sources).flatMap Facade.delegated).filter
          (·.writtenAsConstructor)).map Method.declaration ∧
      ((text.lines.filter opensConstructor).length = 1 ↔
        ∀ extraction ∈ (ofSettings settings).extractions sources,
          ∀ method ∈ extraction.methods, method.writtenAsConstructor = true →
            method.name = Method.constructorName) := by
  obtain ⟨hreadable, htext⟩ := layout_of_run hrun htypes
  have hopening : ∀ line ∈ ((ofSettings settings).facadeOf sources).openingTexts,
      ¬ IsComment line ∧ ¬ IsHeader line :=
    Facade.plain_openingTexts haccepted.modulePath haccepted.className
  have hheaders : constructorHeaders text.lines = Facade.constructorSignature ::
      ((((ofSettings settings).extractions sources).flatMap Facade.delegated).filter
        (·.writtenAsConstructor)).map Method.declaration := by
    rw [htext]
    exact Facade.constructorHeaders_layout hreadable hopening
  refine ⟨hheaders, ?_⟩
  have hlength := congrArg List.length hheaders
  rw [constructorHeaders, List.length_map, List.length_cons, List.length_map] at hlength
  rw [hlength, Nat.add_eq_right, List.length_eq_zero_iff, List.filter_eq_nil_iff]
  constructor
  · intro hnone extraction hextraction method hmethod hwritten
    by_contra hname
    have hdelegated : method ∈ Facade.delegated extraction :=
      List.mem_filter.mpr ⟨hmethod, by simp [Method.isConstructor, hname]⟩
    exact hnone method (List.mem_flatMap.mpr ⟨extraction, hextraction, hdelegated⟩) hwritten
  · intro hall method hmem hwritten
    obtain ⟨extraction, hextraction, hdelegated⟩ := List.mem_flatMap.mp hmem
    obtain ⟨hmethod, hother⟩ := List.mem_filter.mp hdelegated
    have hname := hall extraction hextraction method hmethod hwritten
    simp [Method.isConstructor, hname] at hother

/-- A source that writes its constructor in three ways. -/
def initializeSource : Source where
  path := "foo.rb"
  text := "module Line\nmodule Bot\nmodule V2\nmodule Foo\ndef initialize(a)\n" ++
    ("def initialize(a,\ndef initialize a, b\n" : Text)

section Examples

attribute [local instance] Runtime.shared

theorem run_initializeSource :
    ((ofSettings Settings.defaults).run [initializeSource]).outcome =
    .ok (Line.render defaultIndent
      ((ofSettings Settings.defaults).facadeOf [initializeSource]).layout) := by
  decide +kernel

theorem constructorHeaders_of_initializeSource :
    ∃ text, ((ofSettings Settings.defaults).run [initializeSource]).outcome = .ok text ∧
      constructorHeaders text.lines =
        [Facade.constructorSignature, "def initialize(a,", "def initialize a, b"] := by
  obtain ⟨hheaders, -⟩ := constructorHeaders_of_run Settings.defaults [initializeSource] _
    Settings.accepted_defaults run_initializeSource (by decide +kernel)
  have hwritten : ((((ofSettings Settings.defaults).extractions [initializeSource]).flatMap
      Facade.delegated).filter (·.writtenAsConstructor)).map Method.declaration =
        ["def initialize(a,", "def initialize a, b"] := by decide +kernel
  rw [hwritten] at hheaders
  exact ⟨_, run_initializeSource, hheaders⟩

/-- A constructor whose parameters go on in the next line is delegated. -/
theorem not_forall_one_constructor :
    ¬ ∀ (settings : Settings) (sources : List Source) (text : Text), settings.Accepted →
      ((ofSettings settings).run sources).outcome = .ok text →
      ((ofSettings settings).facadeOf sources).OneLineTypes →
      (text.lines.filter opensConstructor).length = 1 := by
  intro h
  have hone := h Settings.defaults [initializeSource] _ Settings.accepted_defaults
    run_initializeSource (by decide +kernel)
  exact absurd hone (by decide +kernel)

end Examples

end Aggregator

end ClientFacade
