import ClientFacade.Proofs.Source.Extraction

/-!
# Headers written as constructors

A header is written as a constructor if the word behind its keyword is `initialize`, whatever
follows: nothing, a parenthesis, or a blank and anything else. The name that is read off such a
header need not be `initialize` alone. It takes the parameters in if they stand without parentheses
or if their list is not closed on the line.
-/

namespace ClientFacade

/-- Whether the first word of a text is the name of constructors. -/
def namesConstructor (text : Text) : Bool :=
  match Text.dropBeginning? Method.constructorName text with
  | some [] => true
  | some (c :: _) => isBlank c || c = '('
  | none => false

theorem namesConstructor_append (rest : Text) :
    namesConstructor (Method.constructorName ++ rest) = true ↔
      ∀ c ∈ rest.head?, isBlank c = true ∨ c = '(' := by
  rw [namesConstructor, Text.dropBeginning?_append]
  cases rest <;> simp

theorem namesConstructor_iff {text : Text} :
    namesConstructor text = true ↔ ∃ rest, text = Method.constructorName ++ rest ∧
      ∀ c ∈ rest.head?, isBlank c = true ∨ c = '(' := by
  constructor
  · intro h
    cases hdrop : Text.dropBeginning? Method.constructorName text with
    | none => simp [namesConstructor, hdrop] at h
    | some rest =>
      obtain rfl := Text.dropBeginning?_eq_some_iff.mp hdrop
      exact ⟨rest, rfl, (namesConstructor_append rest).mp h⟩
  · rintro ⟨rest, rfl, hhead⟩
    exact (namesConstructor_append rest).mpr hhead

/-- A parenthesis ends a word, so that nothing behind it matters. -/
theorem namesConstructor_append_open (text tail : Text) :
    namesConstructor (text ++ '(' :: tail) = namesConstructor text := by
  rw [Bool.eq_iff_iff, namesConstructor_iff, namesConstructor_iff]
  constructor
  · rintro ⟨rest, hrest, hhead⟩
    rcases List.append_eq_append_iff.mp hrest with ⟨middle, hname, htail⟩ | ⟨middle, rfl, rfl⟩
    · cases middle with
      | nil => exact ⟨[], by simpa using hname.symm, by simp⟩
      | cons c others =>
        have hopen : '(' ∈ Method.constructorName := by
          rw [hname, (List.cons.inj htail).1]
          simp
        exact absurd hopen (by decide)
    · refine ⟨middle, rfl, fun c hc => hhead c ?_⟩
      cases middle <;> simp_all
  · rintro ⟨rest, rfl, hhead⟩
    refine ⟨rest ++ '(' :: tail, by simp, fun c hc => ?_⟩
    cases rest with
    | nil => exact Or.inr (Option.some.inj hc).symm
    | cons d others => exact hhead c hc

theorem namesConstructor_trimRight (text : Text) :
    namesConstructor text.trimRight = namesConstructor text := by
  rw [Bool.eq_iff_iff, namesConstructor_iff, namesConstructor_iff]
  constructor
  · rintro ⟨rest, hrest, hhead⟩
    obtain ⟨blanks, htext, hblanks⟩ := Text.exists_blanks_of_trimRight text
    refine ⟨rest ++ blanks, by rw [htext, hrest, List.append_assoc], fun c hc => ?_⟩
    cases rest with
    | nil => exact Or.inl (hblanks c (List.mem_of_mem_head? hc))
    | cons d others => exact hhead c hc
  · rintro ⟨rest, rfl, hhead⟩
    refine ⟨rest.trimRight, ?_, fun c hc => hhead c ?_⟩
    · exact Text.trimRight_append (by decide) "initializ" rest
    · obtain ⟨after, hafter⟩ := Text.trimRight_prefix_self rest
      cases htrim : rest.trimRight with
      | nil => simp [htrim] at hc
      | cons d others =>
        rw [htrim] at hc hafter
        rw [← hafter]
        exact hc

namespace Method

def writtenAsConstructor (method : Method) : Bool :=
  namesConstructor (Text.trimLeft (method.signature.drop 4))

end Method

/-- The constructors that are left out: those without parameters, and those with a list of
parameters that is closed on the line of the header. -/
theorem Method.Sound.isConstructor_iff {method : Method} (h : method.Sound) :
    method.isConstructor = true ↔ ∃ body, method.signature = "def " ++ body ∧
      (body.trim = Method.constructorName ∨ ∃ before tail, body = before ++ '(' :: tail ∧
        before.trim = Method.constructorName ∧ ')' ∈ tail) := by
  have hopen : ∀ {text : Text}, text.trim = Method.constructorName → '(' ∉ text := by
    intro text htrim hmem
    have hname : '(' ∈ Method.constructorName := htrim ▸ Text.mem_trim (by decide) hmem
    exact absurd hname (by decide)
  have hne : ∀ {text : Text}, text.trim = Method.constructorName → text ≠ [] := by
    rintro text htrim rfl
    exact absurd htrim (by decide)
  rw [isConstructor, decide_eq_true_eq, Method.name]
  obtain ⟨body, hsignature, hshape, hfeed, -⟩ := h.exists_shape
  constructor
  · intro hname
    refine ⟨body, hsignature, ?_⟩
    generalize method.header = header at hshape hname
    cases hshape with
    | empty => exact absurd hname (by decide)
    | plain => exact Or.inl hname
    | @closed before tail inside _ _ hinside =>
      have htail : '\n' ∉ tail := fun hm => hfeed (by simp [hm])
      exact Or.inr ⟨before, tail, rfl, hname,
        (Header.exists_parameters?_iff htail).mp ⟨inside, hinside⟩⟩
    | @unclosed before tail =>
      have hmem : '(' ∈ (before ++ '(' :: tail).trimLeft := by
        rw [Text.trimLeft_append_cons (by decide)]
        simp
      have hname' : '(' ∈ Method.constructorName := hname ▸ hmem
      exact absurd hname' (by decide)
  · rintro ⟨other, hother, hcases⟩
    obtain rfl : other = body := List.append_cancel_left (hother.symm.trans hsignature)
    rcases hcases with htrim | ⟨before, tail, rfl, htrim, hclose⟩
    · rw [← hshape.ofBody_eq, Header.ofBody_plain (hne htrim) (hopen htrim)]
      exact htrim
    · have htail : '\n' ∉ tail := fun hm => hfeed (by simp [hm])
      obtain ⟨inside, hinside⟩ := (Header.exists_parameters?_iff htail).mpr hclose
      rw [← hshape.ofBody_eq, Header.ofBody_closed (hne htrim) (hopen htrim) hinside]
      exact htrim

/-- What a header is written as shows in the name that is read off it, however it is read. -/
theorem Header.Shape.namesConstructor_name {body : Text} {header : Header}
    (h : Header.Shape body header) :
    namesConstructor header.name = namesConstructor body.trimLeft := by
  cases h with
  | empty => rfl
  | plain => exact namesConstructor_trimRight _
  | closed =>
    rw [Text.trimLeft_append_cons (by decide), namesConstructor_append_open]
    exact namesConstructor_trimRight _
  | unclosed => rfl

theorem Method.Sound.writtenAsConstructor_eq {method : Method} (h : method.Sound) :
    method.writtenAsConstructor = namesConstructor method.name := by
  obtain ⟨body, hsignature, hshape, -, -⟩ := h.exists_shape
  have hbody : method.signature.drop 4 = body := by
    rw [hsignature]
    rfl
  rw [writtenAsConstructor, hbody]
  exact hshape.namesConstructor_name.symm

end ClientFacade
