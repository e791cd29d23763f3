import ClientFacade.Proofs.Aggregation.Retyped
import ClientFacade.Proofs.Facade.Assignments

/-!
# Calls reach their sub-client

The detection of collisions and the constructor go over the submodules separately. They agree: the
names that collide on a variable are those whose sub-clients are assigned to it, one after the
other. So a strict run gives each variable one sub-client, which is that of the submodule whose
methods are delegated to it. Where two sources declare the same submodule, its type is made for the
name in the first one. A template without attributes makes the same type for the other.
-/

namespace ClientFacade

open Line

namespace Facade

/-- What the constructor in a text assigns to one variable, in order. -/
def assignmentsTo (target text : Text) : List Assignment :=
  (assignments text).filter (·.variable_ = target)

variable {facade : Facade} {text : Text}

theorem assignmentsTo_layout [Runtime] (h : facade.Readable) (target : Text) :
    assignmentsTo target (Line.render defaultIndent facade.layout) =
      (NameGroup.namesOf target facade.submodules).map fun name =>
        ⟨target, facade.typeOf name⟩ := by
  rw [assignmentsTo, h.assignments_layout, List.filter_map, NameGroup.namesOf]
  refine List.map_congr_left fun name hname => ?_
  have hidentifier : identifier name = target := by simpa using (List.mem_filter.mp hname).2
  rw [hidentifier]

theorem types_assignmentsTo [Runtime] (h : facade.Readable) (htyped : facade.Typed)
    (target : Text) :
    List.Forall₂ (fun name assignment => facade.clientType name = .ok assignment.type)
      (NameGroup.namesOf target facade.submodules)
      (assignmentsTo target (Line.render defaultIndent facade.layout)) := by
  rw [assignmentsTo_layout h, List.forall₂_map_right_iff, List.forall₂_same]
  intro name hname
  exact htyped name (List.mem_eraseDups.mpr (NameGroup.mem_namesOf.mp hname).1)

theorem one_lt_length_assignmentsTo_iff [Runtime] (h : facade.Readable) (target : Text) :
    1 < (assignmentsTo target (Line.render defaultIndent facade.layout)).length ↔
      target ∈ (NameGroup.collisions facade.submodules).map (·.identifier) := by
  rw [assignmentsTo_layout h, List.length_map]
  constructor
  · intro hlength
    have hgroup : NameGroup.mk target (NameGroup.namesOf target facade.submodules) ∈
        NameGroup.collisions facade.submodules :=
      NameGroup.mem_collisions_iff.mpr ⟨rfl, hlength⟩
    exact List.mem_map_of_mem (f := NameGroup.identifier) hgroup
  · intro hmem
    obtain ⟨group, hgroup, rfl⟩ := List.mem_map.mp hmem
    obtain ⟨hnames, hlength⟩ := NameGroup.mem_collisions_iff.mp hgroup
    rwa [← hnames]

/-- Without collisions a variable is assigned the sub-client of its own submodule only. -/
theorem assignmentsTo_identifier [Runtime] (h : facade.Readable)
    (hnone : NameGroup.collisions facade.submodules = []) {submodule : Text}
    (hmem : submodule ∈ facade.submodules) :
    assignmentsTo (identifier submodule) (Line.render defaultIndent facade.layout) =
      [⟨identifier submodule, facade.typeOf submodule⟩] := by
  have hself : submodule ∈ NameGroup.namesOf (identifier submodule) facade.submodules :=
    NameGroup.mem_namesOf.mpr ⟨hmem, rfl⟩
  have hlength : ¬ 1 < (NameGroup.namesOf (identifier submodule) facade.submodules).length := by
    intro hlt
    have hgroup : NameGroup.mk (identifier submodule) _ ∈ NameGroup.collisions facade.submodules :=
      NameGroup.mem_collisions_iff.mpr ⟨rfl, hlt⟩
    rw [hnone] at hgroup
    exact absurd hgroup List.not_mem_nil
  have hpos := List.length_pos_of_mem hself
  have hone : (NameGroup.namesOf (identifier submodule) facade.submodules).length = 1 := by omega
  obtain ⟨name, hname⟩ := List.length_eq_one_iff.mp hone
  rw [hname, List.mem_singleton] at hself
  rw [assignmentsTo_layout h, hname, hself, List.map_singleton]

theorem nodup_variables [Runtime] (h : facade.Readable)
    (hnone : NameGroup.collisions facade.submodules = []) :
    ((assignments (Line.render defaultIndent facade.layout)).map (·.variable_)).Nodup := by
  rw [h.assignments_layout, List.map_map]
  exact NameGroup.nodup_map_identifier hnone

theorem render_infix {first second : List Line} (h : first <:+: second) :
    Line.render defaultIndent first <:+: Line.render defaultIndent second := by
  obtain ⟨before, after, rfl⟩ := h
  rw [render_append, render_append]
  exact ⟨_, _, rfl⟩

theorem delegate_infix_layout [Runtime] (facade : Facade) {extraction : Extraction}
    (hextraction : extraction ∈ facade.extractions) {method : Method}
    (hmethod : method ∈ delegated extraction) :
    delegate (facade.classDepth + 1) (identifier extraction.submodule) method <:+:
      facade.layout := by
  have hone : delegate (facade.classDepth + 1) (identifier extraction.submodule) method <:+:
      delegates (facade.classDepth + 1) extraction :=
    List.infix_of_mem_flatten (List.mem_map_of_mem hmethod)
  have hall : delegates (facade.classDepth + 1) extraction <:+:
      facade.delegateLines (facade.classDepth + 1) :=
    List.infix_of_mem_flatten (List.mem_map_of_mem hextraction)
  exact (hone.trans hall).trans ⟨_, _, rfl⟩

/-- For every facade over extracted sources the sub-clients that are assigned to a variable are
those of the names that fold onto it, in order, and there are several just where a collision is
detected. After a strict run every variable is assigned once, and the variable that a delegate calls
is assigned the type that the run makes for the submodule that the method was extracted from. If the
template asks for no attribute, this is the type that any other objects make for it. -/
theorem assignments_agree_with_collisions [Runtime] :
    (∀ (facade : Facade) (text target : Text),
      (∀ extraction ∈ facade.extractions, ∃ nesting source,
        Source.extraction? nesting source = some extraction) →
      facade.OneLineTypes → facade.render defaultIndent = .ok text →
        List.Forall₂ (fun name assignment => facade.clientType name = .ok assignment.type)
          (NameGroup.namesOf target facade.submodules) (assignmentsTo target text) ∧
        (1 < (assignmentsTo target text).length ↔
          target ∈ (NameGroup.collisions facade.submodules).map (·.identifier)) ∧
        ∀ group ∈ NameGroup.collisions facade.submodules, group.identifier = target →
          group.names = NameGroup.namesOf target facade.submodules) ∧
    (∀ (settings : Settings) (sources : List Source) (text : Text), settings.strict = true →
      ((Aggregator.ofSettings settings).facadeOf sources).OneLineTypes →
      ((Aggregator.ofSettings settings).run sources).outcome = .ok text →
        ((assignments text).map (·.variable_)).Nodup ∧
        ∀ extraction ∈ (Aggregator.ofSettings settings).extractions sources,
          ∀ method ∈ delegated extraction, ∃ type,
            (Template.ofText settings.template).render (Runtime.typing extraction.submodule)
              extraction.submodule = .ok type ∧
            ((Template.ofText settings.template).Textual → ∀ objects,
              (Template.ofText settings.template).render objects extraction.submodule =
                .ok type) ∧
            Line.render defaultIndent (delegate (settings.modulePath.length + 1)
              (identifier extraction.submodule) method) <:+: text ∧
            assignmentsTo (identifier extraction.submodule) text =
              [⟨identifier extraction.submodule, type⟩]) := by
  refine ⟨?_, ?_⟩
  · intro facade text target hsources htypes hrender
    have hsound : ∀ extraction ∈ facade.extractions, extraction.Sound := by
      intro extraction hextraction
      obtain ⟨nesting, source, hsource⟩ := hsources extraction hextraction
      exact Source.sound_of_extraction? hsource
    obtain ⟨htyped, rfl⟩ := render_eq_ok hrender
    have hreadable : facade.Readable := .of_typed hsound htyped htypes
    refine ⟨types_assignmentsTo hreadable htyped target,
      one_lt_length_assignmentsTo_iff hreadable target, ?_⟩
    rintro group hgroup rfl
    exact (NameGroup.mem_collisions_iff.mp hgroup).1
  · intro settings sources text hstrict htypes hrun
    obtain ⟨hnone, hrender⟩ := Aggregator.run_outcome_eq_ok hrun
    obtain ⟨htyped, -⟩ := render_eq_ok hrender
    obtain ⟨hreadable, rfl⟩ := Aggregator.layout_of_run hrun htypes
    refine ⟨nodup_variables hreadable (hnone hstrict), ?_⟩
    intro extraction hextraction method hmethod
    have hmem : extraction.submodule ∈
        ((Aggregator.ofSettings settings).facadeOf sources).submodules :=
      List.mem_map_of_mem hextraction
    have htype := htyped _ (List.mem_eraseDups.mpr hmem)
    refine ⟨_, htype, fun htextual objects => ?_, ?_, ?_⟩
    · exact (((Aggregator.ofSettings settings).facadeOf sources).clientType_of_textual htextual
        objects _).trans htype
    · exact render_infix (delegate_infix_layout
        ((Aggregator.ofSettings settings).facadeOf sources) hextraction hmethod)
    · exact assignmentsTo_identifier hreadable (hnone hstrict) hmem

def pingSource (submodule : Text) : Source where
  path := submodule ++ ".rb"
  text := "module Line\nmodule Bot\nmodule V2\nmodule " ++ submodule ++ "\ndef ping\n"

/-- The facade of two submodules that share a variable. -/
def collidingFacade : Facade :=
  Settings.defaults.facadeOf [⟨"Foo", "Foo.rb", []⟩, ⟨"FOO", "FOO.rb", []⟩]

section Examples

attribute [local instance] Runtime.shared

theorem assignments_agree_with_collisions_of_ping :
    (∃ text, collidingFacade.render defaultIndent = .ok text ∧
        1 < (assignmentsTo "@foo_client" text).length) ∧
      ∃ text, ((Aggregator.ofSettings { Settings.defaults with strict := true }).run
        [pingSource "Foo", pingSource "Bar", pingSource "Foo"]).outcome = .ok text ∧
        assignmentsTo "@foo_client" text =
          [⟨"@foo_client", "::Line::Bot::V2::Foo::ApiClient"⟩] := by
  obtain ⟨hcollisions, hrouting⟩ := assignments_agree_with_collisions
  refine ⟨?_, ?_⟩
  · have hgives : (collidingFacade.render defaultIndent).toOption.any (fun _ => true) = true := by
      decide +kernel
    obtain ⟨text, hrender, -⟩ := exists_ok_of_any_toOption hgives
    have hsources : ∀ extraction ∈ collidingFacade.extractions, ∃ nesting source,
        Source.extraction? nesting source = some extraction := by
      intro extraction hextraction
      rcases List.mem_pair.mp hextraction with rfl | rfl
      · exact ⟨[], ⟨"Foo.rb", "module Foo\n"⟩, by decide⟩
      · exact ⟨[], ⟨"FOO.rb", "module FOO\n"⟩, by decide⟩
    obtain ⟨-, hiff, -⟩ := hcollisions collidingFacade _ "@foo_client" hsources
      (by decide +kernel) hrender
    exact ⟨_, hrender, hiff.mpr (by decide +kernel)⟩
  · have hgives : ((Aggregator.ofSettings { Settings.defaults with strict := true }).run
        [pingSource "Foo", pingSource "Bar", pingSource "Foo"]).outcome.toOption.any
          (fun _ => true) = true := by decide +kernel
    obtain ⟨text, hrun, -⟩ := exists_ok_of_any_toOption hgives
    obtain ⟨-, hassigned⟩ := hrouting _ _ _ rfl (by decide +kernel) hrun
    obtain ⟨type, htype, -, -, hone⟩ := hassigned
      ⟨"Foo", "Foo.rb", [⟨[], "def ping"⟩]⟩ (by decide +kernel)
      ⟨[], "def ping"⟩ (by decide +kernel)
    have hexpected : (Template.ofText Settings.defaults.template).render (Runtime.typing "Foo")
        "Foo" = .ok "::Line::Bot::V2::Foo::ApiClient" := by decide +kernel
    have hidentifier : identifier "Foo" = "@foo_client" := by decide +kernel
    obtain rfl : type = "::Line::Bot::V2::Foo::ApiClient" :=
      Except.ok.inj (htype.symm.trans hexpected)
    dsimp only at hone
    rw [hidentifier] at hone
    exact ⟨_, hrun, hone⟩

def strictSettings : Settings := { Aggregator.addressSettings with strict := true }

/-- With an address in a type the variable of a delegate is not assigned the type that is made for
the name in the second source. -/
theorem not_forall_assigned_type_is_own_type :
    ¬ ∀ (settings : Settings) (sources : List Source) (text : Text), settings.Accepted →
      settings.strict = true →
      ((Aggregator.ofSettings settings).facadeOf sources).OneLineTypes →
      ((Aggregator.ofSettings settings).run sources).outcome = .ok text →
      ∀ extraction ∈ (Aggregator.ofSettings settings).extractions sources,
        ∀ objects type,
          (Template.ofText settings.template).render objects extraction.submodule = .ok type →
            assignmentsTo (identifier extraction.submodule) text =
              [⟨identifier extraction.submodule, type⟩] := by
  intro h
  have hgives : ((Aggregator.ofSettings strictSettings).run
      [pingSource "Foo", pingSource "Foo"]).outcome.toOption.any (fun _ => true) = true := by
    decide +kernel
  obtain ⟨text, hrun, -⟩ := exists_ok_of_any_toOption hgives
  have hsubmodules : ((Aggregator.ofSettings strictSettings).facadeOf
      [pingSource "Foo", pingSource "Foo"]).submodules = ["Foo", "Foo"] := by decide +kernel
  have hshown : (Template.ofText strictSettings.template).render (Runtime.typing "Foo") "Foo" =
      .ok "Foo<method-wrapper '__add__' of str object at 0x7f0000002000>" := by decide +kernel
  have htypes : ((Aggregator.ofSettings strictSettings).facadeOf
      [pingSource "Foo", pingSource "Foo"]).OneLineTypes := by
    intro submodule hmem type htype
    rw [hsubmodules] at hmem
    obtain rfl : submodule = "Foo" := by simpa using hmem
    rw [← Except.ok.inj (hshown.symm.trans htype)]
    decide
  have hown := h strictSettings _ _ (Aggregator.accepted_addressSettings.override [] (some true))
    rfl htypes hrun ⟨"Foo", "Foo.rb", [⟨[], "def ping"⟩]⟩ (by decide +kernel)
  have hother : (Template.ofText strictSettings.template).render (Aggregator.elsewhere "Foo")
      "Foo" = .ok "Foo<method-wrapper '__add__' of str object at 0x560000002000>" := by
    decide +kernel
  have hsame := (hown _ _ hshown).symm.trans (hown _ _ hother)
  exact absurd (congrArg Assignment.type (List.cons.inj hsame).1) (by decide)

end Examples

end Facade

end ClientFacade
