import ClientFacade.Facade.Render
import Mathlib.Data.List.Basic

/-!
# The layout of a facade

A facade that can be rendered has a layout: its lines as a function of its parts, without the
faults that a template may give. Everything that is said about the text of a facade is said about
the lines of its layout, part by part.
-/

namespace ClientFacade.Facade

/-- The type of the sub-client of a submodule, or nothing where the template has a fault. -/
def typeOf [Runtime] (facade : Facade) (submodule : Text) : Text :=
  (facade.clientType submodule).toOption.getD []

theorem typeOf_eq [Runtime] {facade : Facade} {submodule type : Text}
    (h : facade.clientType submodule = .ok type) : facade.typeOf submodule = type := by
  rw [typeOf, h]
  rfl

theorem clientType_eq_ok_typeOf [Runtime] {facade : Facade} {submodule type : Text}
    (h : facade.clientType submodule = .ok type) :
    facade.clientType submodule = .ok (facade.typeOf submodule) := by
  rw [typeOf_eq h, h]

def clients (facade : Facade) : List Text := facade.submodules.eraseDups

def constructorBody [Runtime] (facade : Facade) (depth : Nat) : List Line :=
  facade.clients.flatMap fun submodule => construction depth submodule (facade.typeOf submodule)

def constructorLines [Runtime] (facade : Facade) (depth : Nat) : List Line :=
  constructorDocs.map (.code depth) ++ [.code depth constructorSignature] ++
    facade.constructorBody (depth + 1) ++ [.code depth closing, .blank]

/-- The methods that are delegated, which are all but the constructors. -/
def delegated (extraction : Extraction) : List Method :=
  extraction.methods.filter (!·.isConstructor)

def delegatedMethods (facade : Facade) : List Method := facade.extractions.flatMap delegated

def delegateLines (facade : Facade) (depth : Nat) : List Line :=
  facade.extractions.flatMap (delegates depth)

/-- The lines of a facade whose types can all be rendered. -/
def layout [Runtime] (facade : Facade) : List Line :=
  facade.openingLines ++ facade.constructorLines (facade.classDepth + 1) ++
    facade.delegateLines (facade.classDepth + 1) ++ closingLines facade.classDepth

def Typed [Runtime] (facade : Facade) : Prop :=
  ∀ submodule ∈ facade.clients, facade.clientType submodule = .ok (facade.typeOf submodule)

theorem constructions_eq_ok [Runtime] {facade : Facade} {depth : Nat} {submodules : List Text}
    {lines : List Line} (h : facade.constructions depth submodules = .ok lines) :
    (∀ submodule ∈ submodules, facade.clientType submodule = .ok (facade.typeOf submodule)) ∧
      lines = submodules.flatMap fun submodule =>
        construction depth submodule (facade.typeOf submodule) := by
  induction submodules generalizing lines with
  | nil =>
    refine ⟨by simp, ?_⟩
    simpa [constructions] using h.symm
  | cons submodule rest ih =>
    cases htype : facade.clientType submodule with
    | error fault => simp [constructions, htype, bind, Except.bind] at h
    | ok type =>
      cases hrest : facade.constructions depth rest with
      | error fault => simp [constructions, htype, hrest, bind, Except.bind] at h
      | ok others =>
        obtain ⟨hall, hothers⟩ := ih hrest
        have hlines : construction depth submodule type ++ others = lines := by
          simpa [constructions, htype, hrest, bind, Except.bind, pure, Except.pure] using h
        refine ⟨?_, ?_⟩
        · intro other hother
          rcases List.mem_cons.mp hother with rfl | hother
          · exact clientType_eq_ok_typeOf htype
          · exact hall other hother
        · rw [List.flatMap_cons, typeOf_eq htype, ← hothers, hlines]

theorem render_eq_ok [Runtime] {facade : Facade} {indent text : Text}
    (h : facade.render indent = .ok text) :
    facade.Typed ∧ text = Line.render indent facade.layout := by
  cases hbody : facade.constructions (facade.classDepth + 1 + 1) facade.submodules.eraseDups with
  | error fault => simp [render, lines, constructor, hbody, bind, Except.bind] at h
  | ok body =>
    obtain ⟨htyped, rfl⟩ := constructions_eq_ok hbody
    refine ⟨htyped, ?_⟩
    simpa [render, lines, constructor, hbody, bind, Except.bind, pure, Except.pure, layout,
      constructorLines, constructorBody, delegateLines, clients] using h.symm

theorem constructions_of_typed [Runtime] {facade : Facade} {submodules : List Text}
    (h : ∀ submodule ∈ submodules,
      facade.clientType submodule = .ok (facade.typeOf submodule)) (depth : Nat) :
    facade.constructions depth submodules = .ok (submodules.flatMap fun submodule =>
      construction depth submodule (facade.typeOf submodule)) := by
  induction submodules with
  | nil => rfl
  | cons submodule rest ih =>
    obtain ⟨htype, hrest⟩ := List.forall_mem_cons.mp h
    rw [constructions, htype, ih hrest]
    rfl

theorem render_of_typed [Runtime] {facade : Facade} (h : facade.Typed) (indent : Text) :
    facade.render indent = .ok (Line.render indent facade.layout) := by
  have hbody := constructions_of_typed h (facade.classDepth + 1 + 1)
  rw [clients] at hbody
  rw [render, lines, constructor, hbody]
  rfl

end ClientFacade.Facade
