import ClientFacade.Proofs.Aggregation
import ClientFacade.Proofs.Facade.Collision

/-!
# What the constructor assigns

The assignments of the constructor are read off the text of a facade: the lines behind the header of
the constructor, up to the line that ends it, and of them those that assign to an instance variable.
There is one assignment for each distinct submodule, so that several of them go to one variable just
where submodules collide. A strict run therefore never sends a call to the wrong sub-client.
-/

namespace ClientFacade

structure Assignment where
  variable_ : Text
  type : Text
  deriving DecidableEq, Repr

/-- What stands before the parenthesis that opens the arguments of a constructor. -/
def beforeArguments? (value : Text) : Option Text :=
  if value.endsWith ".new(" then some (value.rdrop 5) else none

def Assignment.ofLine? (line : Text) : Option Assignment :=
  let statement := line.trimLeft
  if statement.head? = some '@' then
    ((Text.dropBeginning? " = " (statement.dropWhile (!isBlank ·))).bind beforeArguments?).map
      fun type => ⟨statement.takeWhile (!isBlank ·), type⟩
  else none

namespace Facade

/-- The lines of the last constructor with the header of the synthesized one. -/
def constructorTexts (text : Text) : List Text :=
  (text.lines.rtakeWhile (·.trim ≠ constructorSignature)).takeWhile (·.trim ≠ closing)

/-- What the constructor in a text of a facade assigns, in order. -/
def assignments (text : Text) : List Assignment :=
  (constructorTexts text).filterMap Assignment.ofLine?

end Facade

theorem rtakeWhile_append_cons {α : Type} {p : α → Bool} {mark : α} {after : List α}
    (hmark : ¬ p mark = true) (hafter : ∀ item ∈ after, p item = true) (before : List α) :
    (before ++ mark :: after).rtakeWhile p = after := by
  have hreverse : ∀ item ∈ after.reverse, p item = true := by simpa using hafter
  rw [List.rtakeWhile, List.reverse_append, List.reverse_cons, List.append_assoc,
    List.takeWhile_append_of_pos hreverse, List.singleton_append,
    List.takeWhile_cons_of_neg hmark, List.append_nil, List.reverse_reverse]

namespace Assignment

theorem ofLine?_indented (depth : Nat) (text : Text) :
    ofLine? (Line.indentation Line.defaultIndent depth ++ text) = ofLine? text := by
  rw [ofLine?, Text.trimLeft_append Line.isBlank_of_mem_indentation, ofLine?]

theorem beforeArguments?_append (type : Text) :
    beforeArguments? (type ++ ".new(") = some type := by
  have hending : Text.endsWith (type ++ ".new(") ".new(" = true :=
    List.isSuffixOf_iff_suffix.mpr (List.suffix_append type _)
  rw [beforeArguments?, if_pos hending, List.rdrop_eq_reverse_drop_reverse, List.reverse_append]
  simp

theorem ofLine?_construction {submodule : Text} (h : IsWord submodule) (type : Text) :
    ofLine? (identifier submodule ++ " = " ++ type ++ ".new(") =
      some ⟨identifier submodule, type⟩ := by
  have hstatement : (identifier submodule ++ " = " ++ type ++ ".new(").trimLeft =
      identifier submodule ++ ' ' :: ("= " ++ (type ++ ".new(")) := by
    rw [List.append_assoc, List.append_assoc]
    exact Text.trimLeft_cons (by decide) _
  have hvalue : Text.dropBeginning? " = " (' ' :: ("= " ++ (type ++ ".new("))) =
      some (type ++ ".new(") := Text.dropBeginning?_append " = " _
  have hhead : (identifier submodule ++ ' ' :: ("= " ++ (type ++ ".new("))).head? = some '@' := rfl
  rw [ofLine?, hstatement, if_pos hhead, Text.takeWhile_word (noBlank_identifier h) (by decide),
    Text.dropWhile_word (noBlank_identifier h) (by decide), hvalue, Option.bind_some,
    beforeArguments?_append, Option.map_some]

theorem ofLine?_read {text : Text} (hne : text ≠ []) (hlast : text.getLast? ≠ some '\r')
    (depth : Nat) : ofLine? (Line.code depth text).read = ofLine? text := by
  rw [Line.read_code hne, Text.dropReturn_eq_self hlast, ofLine?_indented]

/-- Of the lines that build a sub-client only the first one is an assignment. -/
theorem filterMap_construction {submodule : Text} (h : IsWord submodule) (depth : Nat)
    (type : Text) :
    ((Facade.construction depth submodule type).map Line.read).filterMap ofLine? =
      [⟨identifier submodule, type⟩] := by
  have hargument : ∀ text ∈ Facade.argumentTexts,
      text ≠ [] ∧ text.getLast? ≠ some '\r' ∧ ofLine? text = none := by decide
  have hfirst : ofLine? (Line.code depth (identifier submodule ++ " = " ++ type ++ ".new(")).read =
      some ⟨identifier submodule, type⟩ := by
    have hlast : (identifier submodule ++ " = " ++ type ++ ".new(").getLast? ≠ some '\r' := by
      rw [List.getLast?_append_of_ne_nil _ (by decide)]
      decide
    rw [ofLine?_read (by simp) hlast, ofLine?_construction h]
  have hrest : ((Facade.constructionArguments depth).map Line.read).filterMap ofLine? = [] := by
    refine List.filterMap_eq_nil_iff.mpr fun text htext => ?_
    obtain ⟨line, hline, rfl⟩ := List.mem_map.mp htext
    obtain ⟨depth, argument, hmem, rfl⟩ := Facade.mem_constructionArguments hline
    obtain ⟨hne, hlast, hnone⟩ := hargument argument hmem
    rw [ofLine?_read hne hlast, hnone]
  rw [Facade.construction_eq, List.map_cons, List.filterMap_cons_some hfirst, hrest]

end Assignment

namespace Method.Sound

variable {method : Method}

/-- No delegate has the header of the synthesized constructor, because no constructor is
delegated. -/
theorem trim_declaration_ne (h : method.Sound) (hother : method.isConstructor = false) :
    method.declaration.trim ≠ Facade.constructorSignature := by
  intro heq
  by_cases hcall : method.call = []
  · rw [declaration, hcall] at heq
    exact absurd heq (by decide)
  · rw [(h.declaration_trimmed hcall).trim_eq] at heq
    have hcall' : method.call = Facade.constructorSignature.drop 4 := by
      rw [← heq]
      rfl
    have hname : method.name ≠ [] := by
      intro hname
      have hhead : method.call.head? = some 'i' := by
        rw [hcall']
        rfl
      rw [call, hname, Facade.withParameters] at hhead
      split_ifs at hhead <;> simp at hhead
    have hheader := h.ofBody_call hname
    rw [hcall'] at hheader
    have hconstructor : method.name = constructorName := by
      rw [Method.name, ← hheader]
      decide
    rw [isConstructor, hconstructor] at hother
    exact absurd hother (by decide)

end Method.Sound

namespace Facade

open Line

theorem trim_read_ne_of_not_isHeader {line : Line} (h : ¬ IsHeader line.body) :
    line.read.trim ≠ constructorSignature := by
  intro heq
  rw [trim_read] at heq
  refine h ?_
  rw [IsHeader, heq]
  decide

theorem trim_constructorBody_ne [Runtime] {facade : Facade} {depth : Nat} :
    ∀ line ∈ facade.constructorBody depth, line.read.trim ≠ closing := by
  have hargument : ∀ text ∈ argumentTexts, text.trim ≠ closing := by decide
  intro line hline
  obtain ⟨submodule, -, hmem⟩ := List.mem_flatMap.mp hline
  rw [construction_eq] at hmem
  rw [trim_read]
  rcases List.mem_cons.mp hmem with rfl | hrest
  · have htrim : (identifier submodule ++ " = " ++ facade.typeOf submodule ++ ".new(").trim =
        '@' :: (submodule.lower ++ "_client" ++ " = " ++ facade.typeOf submodule ++
          ".new(").trimRight := Text.trim_cons (by decide) _
    rw [Line.body, htrim]
    simp [closing]
  · obtain ⟨depth, text, htext, rfl⟩ := mem_constructionArguments hrest
    exact hargument text htext

namespace Readable

variable {facade : Facade}

/-- The lines behind the header of the constructor. -/
theorem lines_eq_append [Runtime] (h : facade.Readable) :
    Text.lines (Line.render defaultIndent facade.layout) =
      (facade.openingTexts ++ (constructorDocs.map (code (facade.classDepth + 1))).map read) ++
        (code (facade.classDepth + 1) constructorSignature).read ::
          ((facade.constructorBody (facade.classDepth + 2)).map read ++
            (code (facade.classDepth + 1) closing).read ::
              ((.blank :: facade.delegateLines (facade.classDepth + 1) ++
                closingLines facade.classDepth).map read ++ [[]])) := by
  rw [h.lines_layout, bodyLines, constructorLines]
  simp

theorem trim_ne_behind [Runtime] (h : facade.Readable) {depth : Nat} :
    ∀ line ∈ facade.delegateLines depth ++ closingLines facade.classDepth,
      line.read.trim ≠ constructorSignature := by
  intro line hline
  rcases List.mem_append.mp hline with hdelegate | hclosing
  · rcases h.mem_delegateLines_cases hdelegate with hcomment | hplain | ⟨method, hmem, rfl⟩
    · exact trim_read_ne_of_not_isHeader (not_isHeader_of_isComment hcomment)
    · exact trim_read_ne_of_not_isHeader hplain.2
    · obtain ⟨hsound, hother⟩ := h.sound_of_mem_delegatedMethods hmem
      rw [trim_read]
      exact hsound.trim_declaration_ne hother
  · exact trim_read_ne_of_not_isHeader (plain_closingLines line hclosing).2

theorem constructorTexts_layout [Runtime] (h : facade.Readable) :
    constructorTexts (Line.render defaultIndent facade.layout) =
      (facade.constructorBody (facade.classDepth + 2)).map read := by
  have hmark : (code (facade.classDepth + 1) constructorSignature).read.trim =
      constructorSignature := by
    rw [trim_read, Line.body, trim_constructorSignature]
  have hend : (code (facade.classDepth + 1) closing).read.trim = closing := by
    rw [trim_read, Line.body]
    decide
  have hbody : ∀ text ∈ (facade.constructorBody (facade.classDepth + 2)).map read,
      text.trim ≠ closing ∧ text.trim ≠ constructorSignature := by
    intro text htext
    obtain ⟨line, hline, rfl⟩ := List.mem_map.mp htext
    exact ⟨trim_constructorBody_ne line hline,
      trim_read_ne_of_not_isHeader (plain_constructorBody line hline).2⟩
  have hlater : ∀ text ∈ (facade.constructorBody (facade.classDepth + 2)).map read ++
      (code (facade.classDepth + 1) closing).read ::
        ((.blank :: facade.delegateLines (facade.classDepth + 1) ++
          closingLines facade.classDepth).map read ++ [[]]),
      decide (text.trim ≠ constructorSignature) = true := by
    simp only [decide_eq_true_eq, List.forall_mem_append, List.forall_mem_cons]
    refine ⟨fun text htext => (hbody text htext).2, ?_, ?_, by decide, by simp⟩
    · rw [hend]
      decide
    · intro text htext
      obtain ⟨line, hline, rfl⟩ := List.mem_map.mp htext
      rcases List.mem_cons.mp hline with rfl | hline
      · exact trim_read_ne_of_not_isHeader plain_blank.2
      · exact h.trim_ne_behind line hline
  rw [constructorTexts, h.lines_eq_append, rtakeWhile_append_cons (by simp [hmark]) hlater,
    List.takeWhile_append_of_pos (by simpa using fun text htext => (hbody text htext).1),
    List.takeWhile_cons_of_neg (by simp [hend]), List.append_nil]

theorem assignments_layout [Runtime] (h : facade.Readable) :
    assignments (Line.render defaultIndent facade.layout) =
      facade.clients.map fun submodule => ⟨identifier submodule, facade.typeOf submodule⟩ := by
  rw [assignments, h.constructorTexts_layout, constructorBody, List.map_flatMap,
    List.filterMap_flatMap, List.map_eq_flatMap]
  refine List.flatMap_congr fun submodule hmem => ?_
  exact Assignment.filterMap_construction (h.isWord hmem) _ _

end Readable

end Facade

end ClientFacade
