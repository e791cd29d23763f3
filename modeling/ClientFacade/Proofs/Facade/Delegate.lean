import ClientFacade.Facade.Render
import ClientFacade.Proofs.Source.Extraction

/-!
# The header of a delegate

A delegate repeats the header of its method in one spelling: the keyword, one space, the name and
the parameters in parentheses, if there are any. Reading this header gives back what was read from
the original one, unless the name is empty.
-/

namespace ClientFacade

namespace Header

theorem shape_withParameters {name parameters : Text} (hne : name ≠ []) (hopen : '(' ∉ name)
    (hname : name.Trimmed) (hparameters : parameters.Trimmed) (hline : '\n' ∉ parameters) :
    Shape (Facade.withParameters name parameters) ⟨name, parameters, true⟩ := by
  by_cases hempty : parameters = []
  · have hplain := Shape.plain hne hopen
    rw [hname.trim_eq] at hplain
    rwa [hempty, Facade.withParameters, if_pos rfl]
  · have hclosed := Shape.closed hne hopen (parameters?_eq_some hline)
    rw [hname.trim_eq, hparameters.trim_eq] at hclosed
    have htext : Facade.withParameters name parameters = name ++ '(' :: (parameters ++ [')']) := by
      simp [Facade.withParameters, hempty]
    rwa [htext]

/-- The written form of a header has the shape that gives this header. An unclosed parameter list
stays unclosed, because it goes into the name as it is. -/
theorem Shape.written {body : Text} {header : Header} (h : Shape body header)
    (hline : '\n' ∉ body) (hname : header.name ≠ []) :
    Shape (Facade.withParameters header.name header.parameters) header := by
  have hparameters : '\n' ∉ header.parameters := fun hm => hline (h.parameters_subset hm)
  cases h with
  | empty => exact absurd rfl hname
  | plain hne hopen =>
    have hopen' := (Shape.plain hne hopen).open_not_mem_name rfl
    exact shape_withParameters hname hopen' (Text.trimmed_trim _)
      (Shape.plain hne hopen).parameters_trimmed hparameters
  | closed hne hopen hinside =>
    have hopen' := (Shape.closed hne hopen hinside).open_not_mem_name rfl
    exact shape_withParameters hname hopen' (Text.trimmed_trim _) (Text.trimmed_trim _) hparameters
  | @unclosed before tail hopen hreason =>
    have htrim : (before ++ '(' :: tail).trimLeft = before.trimLeft ++ '(' :: tail :=
      Text.trimLeft_append_cons (by decide) before tail
    have hopen' : '(' ∉ before.trimLeft := fun hm => hopen ((Text.trimLeft_suffix _).subset hm)
    have hreason' : before.trimLeft = [] ∨ parameters? tail = none := by
      refine hreason.imp_left ?_
      rintro rfl
      rfl
    have hagain := Shape.unclosed hopen' hreason'
    rw [← htrim, Text.trimLeft_trimLeft] at hagain
    simpa only [unrecognised, Facade.withParameters, if_pos] using hagain

end Header

namespace Method

/-- The name with the parameters, as a delegate declares and calls it. -/
def call (method : Method) : Text := Facade.withParameters method.name method.parameters

def declaration (method : Method) : Text := "def " ++ method.call

namespace Sound

variable {method : Method}

theorem ofBody_call (h : method.Sound) (hname : method.name ≠ []) :
    Header.ofBody method.call = method.header := by
  obtain ⟨body, -, hshape, hline, -⟩ := h.exists_shape
  exact (hshape.written hline hname).ofBody_eq

theorem feed_not_mem_call (h : method.Sound) : '\n' ∉ method.call := by
  unfold call Facade.withParameters
  split_ifs
  · exact h.feed_not_mem_name
  · simp [h.feed_not_mem_name, h.feed_not_mem_parameters]

theorem call_ne_nil (hname : method.name ≠ []) : method.call ≠ [] := by
  unfold call Facade.withParameters
  split_ifs <;> simp [hname]

/-- The declaration ends in a parenthesis or in the last character of the name. -/
theorem call_last (h : method.Sound) : ∀ c ∈ method.call.getLast?, isBlank c = false := by
  intro c hc
  unfold call Facade.withParameters at hc
  split_ifs at hc
  · exact h.name_trimmed.last c hc
  · rw [List.getLast?_append_of_ne_nil _ (by decide)] at hc
    have hclose : c = ')' := by simpa using hc.symm
    rw [hclose]
    decide

theorem declaration_trimmed (h : method.Sound) (hcall : method.call ≠ []) :
    method.declaration.Trimmed where
  head c hc := by
    have hd : c = 'd' := by simpa [declaration] using hc.symm
    rw [hd]
    decide
  last c hc := by
    rw [declaration, List.getLast?_append_of_ne_nil _ hcall] at hc
    exact h.call_last c hc

theorem trim_declaration (h : method.Sound) (hname : method.name ≠ []) :
    method.declaration.trim = method.declaration :=
  (h.declaration_trimmed (call_ne_nil hname)).trim_eq

theorem isHeader_declaration (h : method.Sound) (hname : method.name ≠ []) :
    IsHeader method.declaration := by
  rw [IsHeader, h.trim_declaration hname]
  exact List.prefix_append _ _

end Sound

end Method

end ClientFacade
