import ShelterLine.Phone

/-!
# Blocked numbers

The block list holds numbers in canonical form, in the order of their texts, so that every spelling
of a blocked number is blocked. Text without a digit is never blocked.
-/

namespace ShelterLine

/-- The blocked numbers, sorted. -/
structure BlockList where
  numbers : List String := []
deriving DecidableEq, Repr

/-- What a change of the block list did: whether membership changed, and the canonical number. -/
structure BlockChange where
  changed : Bool
  number : Option String
deriving DecidableEq, Repr

namespace BlockList

/-- Puts a number where the order wants it. -/
def insertSorted (n : String) : List String → List String
  | [] => [n]
  | m :: ms => if n < m then n :: m :: ms else if n = m then m :: ms else m :: insertSorted n ms

/-- Blocks a canonical number. -/
def insert (b : BlockList) (n : String) : BlockList := ⟨insertSorted n b.numbers⟩

/-- The numbers of a list of spellings. -/
def ofRaw (raws : List String) : BlockList :=
  (raws.filterMap Phone.canonical?).foldl insert {}

/-- Whether a canonical number is blocked. -/
def contains (b : BlockList) (n : String) : Bool := b.numbers.contains n

/-- Whether a spelling of a number is blocked. -/
def blocks (b : BlockList) (raw : String) : Bool :=
  match Phone.canonical? raw with
  | some n => b.contains n
  | none => false

/-- Blocks a number, however it is spelled. -/
def add (b : BlockList) (raw : String) : BlockChange × BlockList :=
  match Phone.canonical? raw with
  | none => (⟨false, none⟩, b)
  | some n => (⟨!b.contains n, some n⟩, b.insert n)

/-- Unblocks a number, however it is spelled. -/
def remove (b : BlockList) (raw : String) : BlockChange × BlockList :=
  match Phone.canonical? raw with
  | none => (⟨false, none⟩, b)
  | some n => (⟨b.contains n, some n⟩, ⟨b.numbers.filter (· ≠ n)⟩)

end BlockList

end ShelterLine
