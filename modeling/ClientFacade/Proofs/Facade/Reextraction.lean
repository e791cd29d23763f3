import ClientFacade.Proofs.Aggregation
import ClientFacade.Proofs.Facade.Opening
import ClientFacade.Proofs.Source.Blocks

/-!
# Extracting from a facade

A generated facade is itself a source. Its submodule is the innermost module around the class, and
its methods are the constructor and then the delegates, each with the name, the parameters and the
comment lines of the method that it stands for. Comment lines stand at the depth of the class body
instead of where they stood, and only a carriage return at the very end of one is lost, because it
is read as a part of the line end.
-/

namespace ClientFacade

open Line

theorem yields_of_plain_lines {lines : List Line} (h : ∀ line ∈ lines, line.Plain) :
    Scanner.Yields (lines.map read) [] := by
  refine Scanner.yields_of_plain fun text htext => ?_
  obtain ⟨line, hline, rfl⟩ := List.mem_map.mp htext
  rw [isComment_read, isHeader_read]
  exact h line hline

/-- A header below its comment lines, with lines that are neither behind it. -/
theorem yields_definition {docs rest : List Line} {header : Text} (depth : Nat)
    (hdocs : ∀ line ∈ docs, IsComment line.body) (hheader : IsHeader header)
    (htrim : header.trim = header) (hrest : ∀ line ∈ rest, line.Plain) :
    Scanner.Yields ((docs ++ .code depth header :: rest).map read)
      [⟨docs.map read, header⟩] := by
  have hcomments : ∀ line ∈ docs.map read, IsComment line := by
    intro text htext
    obtain ⟨line, hline, rfl⟩ := List.mem_map.mp htext
    exact isComment_read.mpr (hdocs line hline)
  have hread : IsHeader (code depth header).read := isHeader_read.mpr hheader
  have hmethod := Scanner.yields_method hcomments hread
  have hheader' : (code depth header).read.trim = header := by rw [trim_read, Line.body, htrim]
  rw [hheader'] at hmethod
  have hall := hmethod.append (yields_of_plain_lines hrest)
  simpa using hall

namespace Method

def restated (depth : Nat) (method : Method) : Method :=
  ⟨(Facade.delegateDocs depth method).map read, method.declaration⟩

/-- `again` is read like `original`, with the comment lines at another depth. -/
structure Restates (depth : Nat) (original again : Method) : Prop where
  name : again.name = original.name
  parameters : again.parameters = original.parameters
  recognised : again.recognised = original.recognised
  docLines : again.docLines = original.docLines.map fun line =>
    indentation defaultIndent depth ++ Text.dropReturn line.trimLeft

namespace Sound

variable {method : Method}

theorem header_restated (h : method.Sound) (hname : method.name ≠ []) (depth : Nat) :
    (method.restated depth).header = method.header := by
  rw [Method.header, restated, declaration, Header.parse_def, h.ofBody_call hname]

theorem trimLeft_ne_nil (h : method.Sound) {doc : Text} (hdoc : doc ∈ method.docLines) :
    doc.trimLeft ≠ [] := by
  intro hnil
  have hcomment := (h.docLines doc hdoc).1
  rw [IsComment, Text.trim, hnil] at hcomment
  exact absurd hcomment (by decide)

theorem restates (h : method.Sound) (hname : method.name ≠ []) (depth : Nat) :
    Restates depth method (method.restated depth) := by
  have hheader := h.header_restated hname depth
  refine ⟨?_, ?_, ?_, ?_⟩
  · rw [name, hheader, name]
  · rw [parameters, hheader, parameters]
  · rw [recognised, hheader, recognised]
  · rw [restated, Facade.delegateDocs, List.map_map]
    refine List.map_congr_left fun doc hdoc => ?_
    exact read_code (h.trimLeft_ne_nil hdoc) depth

theorem yields_delegate (h : method.Sound) (hname : method.name ≠ []) (depth : Nat)
    (submodule : Text) :
    Scanner.Yields ((Facade.delegate depth (identifier submodule) method).map read)
      [method.restated depth] := by
  rw [Facade.delegate_eq]
  exact yields_definition depth (Facade.comment_delegateDocs h) (h.isHeader_declaration hname)
    (h.trim_declaration hname) Facade.plain_delegateBody

end Sound

end Method

namespace Facade

def restatedConstructor (depth : Nat) : Method :=
  ⟨constructorDocs.map (indentation defaultIndent depth ++ ·), constructorSignature⟩

theorem map_read_constructorDocs (depth : Nat) :
    (constructorDocs.map (code depth)).map read =
      constructorDocs.map (indentation defaultIndent depth ++ ·) := by
  have hdocs : ∀ doc ∈ constructorDocs, doc ≠ [] ∧ doc.getLast? ≠ some '\r' := by decide
  rw [List.map_map]
  refine List.map_congr_left fun doc hdoc => ?_
  obtain ⟨hne, hlast⟩ := hdocs doc hdoc
  rw [Function.comp_apply, read_code hne, Text.dropReturn_eq_self hlast]

theorem yields_constructorLines [Runtime] (facade : Facade) (depth : Nat) :
    Scanner.Yields ((facade.constructorLines depth).map read) [restatedConstructor depth] := by
  have hheader : IsHeader constructorSignature := by decide
  have hrest : ∀ line ∈ facade.constructorRest depth, line.Plain := plain_constructorRest
  have hyields := yields_definition depth (comment_constructorDocs depth) hheader
    trim_constructorSignature hrest
  rw [map_read_constructorDocs] at hyields
  rwa [constructorLines_eq]

theorem yields_delegateLines [Runtime] {facade : Facade} (h : facade.Readable)
    (hnames : ∀ method ∈ facade.delegatedMethods, method.name ≠ []) (depth : Nat) :
    Scanner.Yields ((facade.delegateLines depth).map read)
      (facade.delegatedMethods.map (·.restated depth)) := by
  rw [delegateLines, delegatedMethods, List.map_flatMap, List.map_flatMap]
  refine Scanner.yields_flatMap fun extraction hextraction => ?_
  rw [delegates, List.map_flatMap, List.map_eq_flatMap]
  refine Scanner.yields_flatMap fun method hmethod => ?_
  have hmem : method ∈ facade.delegatedMethods :=
    List.mem_flatMap.mpr ⟨extraction, hextraction, hmethod⟩
  have hsound := (h.sound_of_mem_delegatedMethods hmem).1
  exact hsound.yields_delegate (hnames method hmem) depth extraction.submodule

theorem yields_bodyLines [Runtime] {facade : Facade} (h : facade.Readable)
    (hnames : ∀ method ∈ facade.delegatedMethods, method.name ≠ []) :
    Scanner.Yields (facade.bodyLines.map read)
      (restatedConstructor (facade.classDepth + 1) ::
        facade.delegatedMethods.map (·.restated (facade.classDepth + 1))) := by
  have hconstructor := facade.yields_constructorLines (facade.classDepth + 1)
  have hdelegates := yields_delegateLines h hnames (facade.classDepth + 1)
  have hclosing : Scanner.Yields ((closingLines facade.classDepth).map read) [] :=
    yields_of_plain_lines plain_closingLines
  have hall := (hconstructor.append hdelegates).append hclosing
  rw [bodyLines, List.map_append, List.map_append]
  simpa using hall

theorem methods_layout [Runtime] {facade : Facade} (h : facade.Readable)
    (hopening : ∀ line ∈ facade.openingTexts, ¬ IsComment line ∧ ¬ IsHeader line)
    (hnames : ∀ method ∈ facade.delegatedMethods, method.name ≠ []) :
    Scanner.methods (Line.render defaultIndent facade.layout) =
      restatedConstructor (facade.classDepth + 1) ::
        facade.delegatedMethods.map (·.restated (facade.classDepth + 1)) := by
  have hend : Scanner.Yields [[]] [] := rfl
  have hall := ((Scanner.yields_of_plain hopening).append (yields_bodyLines h hnames)).append hend
  refine Scanner.Yields.methods_eq ?_
  rw [h.lines_layout]
  simpa using hall

theorem submodule_layout [Runtime] {facade : Facade} (hne : facade.modulePath ≠ [])
    (hlast : IsWord (facade.modulePath.getLast hne)) :
    Submodule.find? facade.modulePath.dropLast (Line.render defaultIndent facade.layout) =
      some (facade.modulePath.getLast hne) := by
  have hpath : facade.modulePath.dropLast ++ [facade.modulePath.getLast hne] =
      facade.modulePath := List.dropLast_append_getLast hne
  have hlayout : facade.layout = moduleLines 0
      (facade.modulePath.dropLast ++ [facade.modulePath.getLast hne]) ++
      ([.code facade.classDepth ("class " ++ facade.className)] ++ facade.bodyLines) := by
    rw [hpath, layout_eq, openingLines, List.append_assoc]
  rw [hlayout]
  exact Submodule.find?_moduleLines _ hlast _

theorem extraction?_layout [Runtime] {facade : Facade} (h : facade.Readable)
    (hopening : ∀ line ∈ facade.openingTexts, ¬ IsComment line ∧ ¬ IsHeader line)
    (hne : facade.modulePath ≠ []) (hlast : IsWord (facade.modulePath.getLast hne))
    (hnames : ∀ method ∈ facade.delegatedMethods, method.name ≠ []) (path : Text) :
    (Source.mk path (Line.render defaultIndent facade.layout)).extraction?
        facade.modulePath.dropLast =
      some ⟨facade.modulePath.getLast hne, path, restatedConstructor (facade.classDepth + 1) ::
        facade.delegatedMethods.map (·.restated (facade.classDepth + 1))⟩ := by
  rw [Source.extraction?, Source.submodule?, submodule_layout hne hlast, Option.map_some,
    Source.methods, methods_layout h hopening hnames]

theorem restates_delegatedMethods [Runtime] {facade : Facade} (h : facade.Readable)
    (hnames : ∀ method ∈ facade.delegatedMethods, method.name ≠ []) (depth : Nat) :
    List.Forall₂ (Method.Restates depth) facade.delegatedMethods
      (facade.delegatedMethods.map (·.restated depth)) := by
  rw [List.forall₂_map_right_iff, List.forall₂_same]
  intro method hmem
  exact (h.sound_of_mem_delegatedMethods hmem).1.restates (hnames method hmem) depth

end Facade

namespace Aggregator

/-- Whatever the sources are, extracting from the text of a run in the nesting around its innermost
module gives that module with the constructor and, in order, one restatement of each method that is
no constructor. -/
theorem reextraction [Runtime] (settings : Settings) (sources : List Source) (path text : Text)
    (haccepted : settings.Accepted) (hne : settings.modulePath ≠ [])
    (hconstant : ∀ name ∈ settings.modulePath, isConstantName name = true)
    (hrun : ((ofSettings settings).run sources).outcome = .ok text)
    (htypes : ((ofSettings settings).facadeOf sources).OneLineTypes)
    (hnames : ∀ method ∈ ((ofSettings settings).extractions sources).flatMap Facade.delegated,
      method.name ≠ []) :
    ∃ delegates, (Source.mk path text).extraction? settings.modulePath.dropLast =
        some ⟨settings.modulePath.getLast hne, path,
          ⟨Facade.constructorDocs.map
            (indentation defaultIndent (settings.modulePath.length + 1) ++ ·),
            Facade.constructorSignature⟩ :: delegates⟩ ∧
      List.Forall₂ (Method.Restates (settings.modulePath.length + 1))
        (((ofSettings settings).extractions sources).flatMap Facade.delegated) delegates := by
  obtain ⟨hreadable, rfl⟩ := layout_of_run hrun htypes
  have hopening : ∀ line ∈ ((ofSettings settings).facadeOf sources).openingTexts,
      ¬ IsComment line ∧ ¬ IsHeader line :=
    Facade.plain_openingTexts haccepted.modulePath haccepted.className
  have hlast : IsWord (settings.modulePath.getLast hne) :=
    isWord_of_isConstantName (hconstant _ (List.getLast_mem hne))
  refine ⟨_, Facade.extraction?_layout hreadable hopening hne hlast hnames path, ?_⟩
  exact Facade.restates_delegatedMethods hreadable hnames _

/-- A source with a comment line, parameters, a header that is not recognised and a constructor. -/
def fooSource : Source where
  path := "foo.rb"
  text := "module Line\nmodule Bot\nmodule V2\nmodule Foo\n# Sends.\ndef send(to, *texts)\n" ++
    ("def raw(to\ndef initialize(url)\n" : Text)

section Examples

attribute [local instance] Runtime.shared

theorem reextraction_of_fooSource :
    ∃ text delegates, ((ofSettings Settings.defaults).run [fooSource]).outcome = .ok text ∧
      (Source.mk "all.rb" text).extraction? ["Line", "Bot", "V2"] =
        some ⟨"AllInOne", "all.rb", Facade.restatedConstructor 5 :: delegates⟩ ∧
      List.Forall₂ (Method.Restates 5)
        [⟨["# Sends."], "def send(to, *texts)"⟩, ⟨[], "def raw(to"⟩] delegates := by
  have hrun : ((ofSettings Settings.defaults).run [fooSource]).outcome = .ok (Line.render
      defaultIndent ((ofSettings Settings.defaults).facadeOf [fooSource]).layout) := by
    decide +kernel
  have horiginals : ((ofSettings Settings.defaults).extractions [fooSource]).flatMap
      Facade.delegated = [⟨["# Sends."], "def send(to, *texts)"⟩, ⟨[], "def raw(to"⟩] := by
    decide +kernel
  obtain ⟨delegates, hextraction, hrestates⟩ := reextraction Settings.defaults [fooSource]
    "all.rb" _ Settings.accepted_defaults (by decide) (by decide) hrun (by decide +kernel)
    (by decide +kernel)
  rw [horiginals] at hrestates
  exact ⟨_, delegates, hrun, hextraction, hrestates⟩

end Examples

end Aggregator

end ClientFacade
