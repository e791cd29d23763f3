import ClientFacade.Text.Lowercase

/-!
# Sub-client identifiers

The facade keeps the sub-client of a submodule in an instance variable named after the submodule in
lower case. Two submodules whose names differ only in case therefore share one variable. Such a
collision is reported as the variable with all the names that fold onto it.
-/

namespace ClientFacade

def identifier (submodule : Text) : Text := "@" ++ submodule.lower ++ "_client"

/-- An identifier together with the names that fold onto it, in the order of their first
occurrence. -/
structure NameGroup where
  identifier : Text
  names : List Text
  deriving DecidableEq, Repr

namespace NameGroup

/-- Adds a name to the group of its identifier, or opens a group at the end. -/
def insert (name : Text) : List NameGroup → List NameGroup
  | [] => [⟨ClientFacade.identifier name, [name]⟩]
  | group :: groups =>
    if group.identifier = ClientFacade.identifier name then
      (if name ∈ group.names then group
        else { group with names := group.names ++ [name] }) :: groups
    else group :: insert name groups

def ofNames (names : List Text) : List NameGroup :=
  names.foldl (fun groups name => insert name groups) []

def collisions (names : List Text) : List NameGroup :=
  (ofNames names).filter fun group => 1 < group.names.length

end NameGroup

end ClientFacade
