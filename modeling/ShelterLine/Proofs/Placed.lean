import ShelterLine.Proofs.Convergence

/-!
# The calls that have been placed

Calls are read off the trace in the order in which they were placed. Only `placeCall` places any,
and it places one; whatever happens meanwhile places none, and counts nothing.
-/

namespace ShelterLine

/-- The call that an effect places, if it places one. -/
def Effect.call? : Effect → Option (Mode × CallPurpose × CallOrder)
  | .call line purpose order => some (line, purpose, order)
  | .message _ | .question _ | .keep _ | .publish _ => none

namespace Desk

variable {s : Surroundings} {d d' : Desk}

/-- The calls that a desk has placed, in order. -/
def calls (d : Desk) : List (Mode × CallPurpose × CallOrder) :=
  (d.trace.filterMap Effect.call?).reverse

theorem call?_of_quiet {e : Effect} (h : e.Quiet) : e.call? = none := by
  cases e with
  | call line purpose order => cases h
  | message | question | keep | publish => rfl

/-- What reaches nobody places no call. -/
theorem Grows.calls_eq (h : Grows Effect.Quiet d d') : d'.calls = d.calls := by
  obtain ⟨own, htrace, hown⟩ := h.trace
  have hnone : own.filterMap Effect.call? = [] :=
    List.filterMap_eq_nil_iff.2 fun e he => call?_of_quiet (hown e he)
  unfold calls
  rw [htrace, List.filterMap_append, hnone, List.nil_append]

theorem calls_note_call (d : Desk) (line : Mode) (purpose : CallPurpose) (order : CallOrder) :
    (d.note (.call line purpose order)).calls = d.calls ++ [(line, purpose, order)] := by
  unfold calls note
  exact List.reverse_cons

theorem interrupt_made (s : Surroundings) (d : Desk) (i : Interruption) :
    (interrupt s d i).made = d.made := by
  cases i with
  | reset => rfl
  | block raw =>
    obtain ⟨_, _, h⟩ := block_eq raw d
    change (d.block raw).2.made = d.made
    rw [h]
  | status r => exact status_made s r d

theorem interrupts_made (s : Surroundings) (is : List Interruption) (d : Desk) :
    (is.foldl (interrupt s) d).made = d.made :=
  List.foldlRecOn (motive := fun d' => d'.made = d.made) is (interrupt s) rfl
    fun d' hd' i _ => (interrupt_made s d' i).trans hd'

/-- One call is placed, whatever happens meanwhile. -/
theorem placeCall_calls_eq (s : Surroundings) (line : Mode) (purpose : CallPurpose)
    (order : CallOrder) (d : Desk) :
    (d.placeCall s line purpose order).2.calls = d.calls ++ [(line, purpose, order)] :=
  List.foldlRecOn (motive := fun d' : Desk => d'.calls = d.calls ++ [(line, purpose, order)])
    (s.meanwhile d.made.calls line) (interrupt s) (calls_note_call _ line purpose order)
    fun d' hd' _ hi => (interrupt_calls hi d').toGrows.calls_eq.trans hd'

/-- One call is counted. -/
theorem placeCall_made (s : Surroundings) (line : Mode) (purpose : CallPurpose) (order : CallOrder)
    (d : Desk) :
    (d.placeCall s line purpose order).2.made = { d.made with calls := d.made.calls + 1 } :=
  interrupts_made s _ _

end Desk

end ShelterLine
