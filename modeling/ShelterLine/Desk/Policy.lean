import ShelterLine.Desk.Basic

/-!
# Policy and lifecycle

Blocking and unblocking take effect at once and are kept when they changed something.
A reset forgets all jobs and transfers. A restart takes records in from storage; what
is in memory already stays.
-/

namespace ShelterLine.Desk

/-- Blocks a number. -/
def block (raw : String) (d : Desk) : BlockChange × Desk :=
  let (change, blocked) := d.gate.blocked.add raw
  let d := { d with gate.blocked := blocked }
  match change with
  | ⟨true, some number⟩ => (change, d.note (.keep (.block number)))
  | _ => (change, d)

/-- Unblocks a number. -/
def unblock (raw : String) (d : Desk) : BlockChange × Desk :=
  let (change, blocked) := d.gate.blocked.remove raw
  let d := { d with gate.blocked := blocked }
  match change with
  | ⟨true, some number⟩ => (change, d.note (.keep (.unblock number)))
  | _ => (change, d)

/-- Forgets all jobs and transfers. -/
def reset (d : Desk) : Desk := { d with jobs := {}, transfers := {} }

/-- Takes items in one after the other and counts those that changed something. -/
def takeIn {σ α : Type} (take : σ → α → Bool × σ) (state : σ) : List α → Nat × σ
  | [] => (0, state)
  | a :: as =>
    let (changed, state) := take state a
    let (n, state) := takeIn take state as
    ((if changed then 1 else 0) + n, state)

/-- Takes stored records in. Nothing is kept or published again. -/
def restore (stored : Stored) (d : Desk) : Restored × Desk :=
  let (blockedCount, blocked) := takeIn (fun b raw => ((b.add raw).1.changed, (b.add raw).2))
    d.gate.blocked stored.blocked
  let (jobCount, jobs) := takeIn JobRegister.restore d.jobs stored.jobs
  let (transferCount, transfers) := takeIn TransferRegister.restore d.transfers stored.sessions
  let gate := { d.gate with blocked }.seed stored.escalations
  (⟨jobCount, transferCount, stored.escalations.length, blockedCount⟩,
    { d with gate, jobs, transfers })

end ShelterLine.Desk
