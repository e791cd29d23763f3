import ClientFacade.Path
import ClientFacade.Proofs.Text.Marks

/-!
# Paths as texts

The names of a path that comes from a text are not empty, not a dot and hold no slash. Such a path
is the one that its own text leads to, so that it may be written and read again any number of times.
Paths seen from another one and directories of paths have names of this kind as well.
-/

namespace ClientFacade.Path

/-- The names are those that a text between slashes can give. -/
def Wellformed (path : Path) : Prop := ∀ name ∈ path.names, isName name = true ∧ '/' ∉ name

theorem wellformed_ofText (text : Text) : (ofText text).Wellformed := by
  intro name hname
  obtain ⟨hpiece, hisName⟩ := List.mem_filter.mp hname
  exact ⟨hisName, Text.not_mem_of_mem_pieces hpiece⟩

theorem Wellformed.under {base path : Path} (hbase : base.Wellformed) (hpath : path.Wellformed) :
    (base.under path).Wellformed := by
  unfold Path.under
  split_ifs
  · exact hpath
  · intro name hname
    exact (List.mem_append.mp hname).elim (hbase name) (hpath name)

theorem Wellformed.parent {path : Path} (h : path.Wellformed) : path.parent.Wellformed :=
  fun name hname => h name (List.dropLast_subset _ hname)

theorem takeWhile_join_names {names : List Text}
    (h : ∀ name ∈ names, isName name = true ∧ '/' ∉ name) :
    (Text.join ['/'] names).takeWhile (· = '/') = [] := by
  cases names with
  | nil => rfl
  | cons name rest =>
    obtain ⟨hname, hslash⟩ := h name List.mem_cons_self
    cases name with
    | nil => exact absurd hname (by decide)
    | cons c name =>
      have hc : c ≠ '/' := fun he => hslash (he ▸ List.mem_cons_self)
      cases rest <;> simp [Text.join, hc]

theorem ofText_append {root : Root} {names : List Text} (hne : names ≠ [])
    (h : ∀ name ∈ names, isName name = true ∧ '/' ∉ name) :
    ofText (root.text ++ Text.join ['/'] names) = ⟨root, names⟩ := by
  have hpieces : (Text.join ['/'] names).pieces '/' = names :=
    Text.pieces_join hne fun name hname => (h name hname).2
  have hnames : names.filter isName = names := List.filter_eq_self.mpr fun name hname =>
    (h name hname).1
  have hstart := takeWhile_join_names h
  have hempty : isName [] = false := rfl
  cases root with
  | relative => simp [ofText, rootOf, Root.text, hpieces, hnames, hstart]
  | absolute => simp [ofText, rootOf, Root.text, Text.pieces_mark, hpieces, hnames, hstart, hempty]
  | doubled => simp [ofText, rootOf, Root.text, Text.pieces_mark, hpieces, hnames, hstart, hempty]

theorem ofText_text {path : Path} (h : path.Wellformed) : ofText path.text = path := by
  obtain ⟨root, names⟩ := path
  cases names with
  | nil => cases root <;> rfl
  | cons name rest =>
    have htext : text ⟨root, name :: rest⟩ = root.text ++ Text.join ['/'] (name :: rest) := by
      cases root <;> rfl
    rw [htext, ofText_append (List.cons_ne_nil name rest) h]

example : Path.ofText ".//lib/./../a.rb" = ⟨.relative, ["lib", "..", "a.rb"]⟩ := by decide

theorem under_workingDirectory (path : Path) : under ⟨.relative, []⟩ path = path := by
  obtain ⟨root, names⟩ := path
  cases root <;> rfl

end ClientFacade.Path
