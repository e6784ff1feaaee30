/-!
# Tables

A table is a list of rows in the order in which they came. A row may have a key, and no two rows
have the same one: a row whose key is taken is settled with the row that has it. A query takes rows
in the order of one of their texts, by code points.
-/

namespace ShelterLine.Table

variable {ρ : Type}

/-- Puts a row into a table. Where its key is taken, `settle old new` stays. -/
def put (key : ρ → Option String) (settle : ρ → ρ → ρ) (new : ρ) : List ρ → List ρ
  | [] => [new]
  | r :: rs =>
    if (key new).isSome && key r = key new then settle r new :: rs
    else r :: put key settle new rs

/-- Whether a key is taken. -/
def taken (key : ρ → Option String) (new : ρ) (rows : List ρ) : Bool :=
  rows.any fun r => (key new).isSome && key r = key new

/-- The first rows in the falling order of a text. -/
def newest (text : ρ → String) (limit : Nat) (rows : List ρ) : List ρ :=
  (rows.mergeSort fun a b => text b ≤ text a).take limit

end ShelterLine.Table
