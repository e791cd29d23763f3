import ClientFacade.Text.Basic

/-!
# Paths

A path is a root and the names below it. Empty names and single dots are dropped, double dots are
kept. Two leading slashes make a root of their own, one or more than two are the plain root. The
empty path is the working directory and is written as a dot.
-/

namespace ClientFacade

inductive Root
  | relative
  | absolute
  | doubled
  deriving DecidableEq, Repr

def Root.text : Root → Text
  | .relative => []
  | .absolute => ['/']
  | .doubled => ['/', '/']

structure Path where
  root : Root
  names : List Text
  deriving DecidableEq, Repr

namespace Path

def rootOf (text : Text) : Root :=
  match (text.takeWhile (· = '/')).length with
  | 0 => .relative
  | 2 => .doubled
  | _ => .absolute

def isName (part : Text) : Bool := part ≠ [] && part ≠ ['.']

def ofText (text : Text) : Path := ⟨rootOf text, (text.pieces '/').filter isName⟩

def text (path : Path) : Text :=
  match path with
  | ⟨.relative, []⟩ => ['.']
  | ⟨root, names⟩ => root.text ++ Text.join ['/'] names

def isAbsolute (path : Path) : Bool := path.root ≠ .relative

def under (base path : Path) : Path :=
  if path.isAbsolute then path else ⟨base.root, base.names ++ path.names⟩

/-- The directory of a path. A root and the working directory are their own. -/
def parent (path : Path) : Path := ⟨path.root, path.names.dropLast⟩

end Path

end ClientFacade
