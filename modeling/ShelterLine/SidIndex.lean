import ShelterLine.Dictionary

/-!
# The index of call identifiers

The telephone provider names each call by an identifier of its own, a SID, and its callbacks carry
nothing else. The index says which record a SID belongs to and, the other way round, which SID a
record has; both directions are kept, each in a dictionary. The last binding wins, and the index
reports what it displaced.
-/

namespace ShelterLine

/-- What a binding changed. -/
inductive Rebind (κ : Type) where
  /-- Neither side was bound. -/
  | fresh
  /-- The two were bound to each other already. -/
  | unchanged
  /-- The owner had another SID, which is free now. -/
  | replacedSid (previous : String)
  /-- The SID belonged to another owner, which has none now. -/
  | movedFrom (previous : κ)
deriving DecidableEq, Repr

/-- Whether something was displaced, which a well-behaved provider never causes. -/
def Rebind.isAnomaly {κ : Type} : Rebind κ → Bool
  | replacedSid _ | movedFrom _ => true
  | fresh | unchanged => false

/-- The owner of each SID, and the SID of each owner. -/
structure SidIndex (κ : Type) where
  bySid : Dictionary String κ := .empty
  byOwner : Dictionary κ String := .empty
deriving DecidableEq, Repr

namespace SidIndex

variable {κ : Type} [DecidableEq κ]

/-- The owner of a SID. -/
def owner? (ix : SidIndex κ) (sid : String) : Option κ := ix.bySid.get? sid

/-- The SID of an owner. -/
def sid? (ix : SidIndex κ) (owner : κ) : Option String := ix.byOwner.get? owner

/-- The number of bound SIDs. -/
def size (ix : SidIndex κ) : Nat := ix.bySid.size

/-- What binding a SID to an owner is going to change. -/
def rebind (ix : SidIndex κ) (sid : String) (owner : κ) : Rebind κ :=
  match ix.owner? sid with
  | some o => if o = owner then .unchanged else .movedFrom o
  | none => match ix.sid? owner with
    | some s => .replacedSid s
    | none => .fresh

/-- Takes a SID from whoever has it. -/
def freeSid (ix : SidIndex κ) (sid : String) : SidIndex κ :=
  match ix.owner? sid with
  | some o => ⟨ix.bySid.erase sid, ix.byOwner.erase o⟩
  | none => ix

/-- Drops the SID of an owner from the direction that starts at SIDs. -/
def dropSidOf (ix : SidIndex κ) (owner : κ) : SidIndex κ :=
  match ix.sid? owner with
  | some s => { ix with bySid := ix.bySid.erase s }
  | none => ix

/-- Binds a SID to an owner. What either of them was bound to before is displaced. -/
def bind (ix : SidIndex κ) (sid : String) (owner : κ) : SidIndex κ :=
  if ix.owner? sid = some owner then ix
  else
    let free := (ix.freeSid sid).dropSidOf owner
    ⟨free.bySid.insert sid owner, free.byOwner.insert owner sid⟩

/-- Keeps the bindings whose owner passes a test. -/
def retain (ix : SidIndex κ) (keep : κ → Bool) : SidIndex κ :=
  ⟨ix.bySid.filter fun b => keep b.2, ix.byOwner.filter fun b => keep b.1⟩

end SidIndex

end ShelterLine
