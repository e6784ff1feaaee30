/-!
# Names for the values of a finite type

A status or a mode has a name, in stored rows and on the wire. The naming of a type lists its values
and gives each its name; a name is read back by looking for the value that has it.
-/

namespace ShelterLine

/-- The values of a type, what one of them is called in messages, and the name of each. -/
structure Naming (α : Type) where
  kind : String
  values : List α
  name : α → String

/-- A name that no value has. -/
structure UnknownName where
  kind : String
  name : String
deriving DecidableEq, Repr

/-- What is said about a name that no value has. -/
def UnknownName.message (e : UnknownName) : String := s!"Unknown {e.kind}: {e.name}"

/-- The value with a name. -/
def Naming.find? {α : Type} (n : Naming α) (name : String) : Option α :=
  n.values.find? fun a => n.name a = name

/-- The value with a name, or what is wrong with it. -/
def Naming.read {α : Type} (n : Naming α) (name : String) : Except UnknownName α :=
  match n.find? name with
  | some a => .ok a
  | none => .error ⟨n.kind, name⟩

end ShelterLine
