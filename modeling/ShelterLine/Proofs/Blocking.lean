import ShelterLine.Proofs.Contact

/-!
# Blocked numbers are not contacted

The checks are spread over four paths and some of them look at a number as it was given,
others at its canonical form; all agree because spellings of one number are blocked together.
What was blocked stays so until it is unblocked: no operation takes a number off the list but
the one that is meant to.
-/

namespace ShelterLine

/-! ## Block lists -/

namespace BlockList

theorem mem_insertSorted {n m : String} : ∀ {ms : List String},
    m ∈ insertSorted n ms ↔ m = n ∨ m ∈ ms
  | [] => by simp [insertSorted]
  | k :: ms => by
    unfold insertSorted
    split
    · simp
    · split
      · rename_i h
        simp [h]
      · rw [List.mem_cons, mem_insertSorted, List.mem_cons]
        exact or_left_comm

theorem blocks_eq_true_iff {b : BlockList} {raw : String} :
    b.blocks raw = true ↔ ∃ n, Phone.canonical? raw = some n ∧ n ∈ b.numbers := by
  unfold blocks
  cases Phone.canonical? raw <;> simp [contains]

/-- Blocking takes nothing off the list. -/
theorem blocks_add {b : BlockList} {raw : String} (h : b.blocks raw = true) (other : String) :
    (b.add other).2.blocks raw = true := by
  unfold add
  split
  · exact h
  · obtain ⟨n, hn, hmem⟩ := blocks_eq_true_iff.1 h
    exact blocks_eq_true_iff.2 ⟨n, hn, mem_insertSorted.2 (Or.inr hmem)⟩

/-- Blocking a number blocks all of its spellings. -/
theorem blocks_add_self {b : BlockList} {raw n : String} (h : Phone.canonical? raw = some n) :
    (b.add raw).2.blocks raw = true := by
  refine blocks_eq_true_iff.2 ⟨n, h, ?_⟩
  simp only [add, h]
  exact mem_insertSorted.2 (Or.inl rfl)

/-- Unblocking takes off the list no number but the one that is meant. -/
theorem blocks_remove {b : BlockList} {raw other : String} (h : b.blocks raw = true)
    (hne : Phone.canonical? other ≠ Phone.canonical? raw) :
    (b.remove other).2.blocks raw = true := by
  unfold remove
  split
  · exact h
  · rename_i m hm
    obtain ⟨n, hn, hmem⟩ := blocks_eq_true_iff.1 h
    refine blocks_eq_true_iff.2 ⟨n, hn, ?_⟩
    -- what is taken off is another number
    have hnm : n ≠ m := fun he => hne (by rw [hm, hn, he])
    simp [hmem, hnm]

end BlockList

namespace Desk

/-! ## What stays blocked -/

/-- The number that an operation unblocks is not this one. -/
def Spares (raw : String) (op : Operation) : Prop :=
  ∀ other, op = .unblock other → Phone.canonical? other ≠ Phone.canonical? raw

theorem block_blocked (raw : String) (d : Desk) :
    (d.block raw).2.gate.blocked = (d.gate.blocked.add raw).2 := by
  unfold block
  dsimp only
  split <;> rfl

theorem unblock_blocked (raw : String) (d : Desk) :
    (d.unblock raw).2.gate.blocked = (d.gate.blocked.remove raw).2 := by
  unfold unblock
  dsimp only
  split <;> rfl

/-- A blocked number stays blocked unless the operation unblocks it. -/
theorem perform_blocks {s : Surroundings} {d : Desk} {op : Operation} {raw : String}
    (hs : BlocksNothing s) (hspares : Spares raw op) (h : d.gate.blocked.blocks raw = true) :
    (d.perform s op).2.gate.blocked.blocks raw = true := by
  have hkeep : ∀ {d'}, Acts s d d' → d'.gate.blocked.blocks raw = true := fun ha =>
    (ha.blocked hs).symm ▸ h
  cases op with
  | startJob r =>
    rcases startJob_acts s r d with heq | ha
    · exact congrArg (·.gate.blocked.blocks raw) heq ▸ h
    · exact (ha.blocked hs).symm ▸ h
  | startTransfer r => exact hkeep (startTransfer_acts s r d)
  | status r => exact hkeep (status_notes s r d).acts
  | recording sid url => exact hkeep (recording_notes s sid url d).acts
  | transcript sid text => exact hkeep (transcript_acts s sid text d)
  | gather ref speech => exact hkeep (gather_notes s ref speech d).acts
  | block other =>
    have hadd := BlockList.blocks_add h other
    rw [← block_blocked] at hadd
    exact hadd
  | unblock other =>
    have hremove := BlockList.blocks_remove h (hspares other rfl)
    rw [← unblock_blocked] at hremove
    exact hremove
  | reset => exact h
  | restore stored =>
    refine takeIn_keeps (I := fun b => b.blocks raw = true) ?_ stored.blocked d.gate.blocked h
    exact fun b other hb => BlockList.blocks_add hb other

theorem run_blocks {raw : String} : ∀ (ops : List (Surroundings × Operation)) (d : Desk),
    (∀ p ∈ ops, BlocksNothing p.1 ∧ Spares raw p.2) → d.gate.blocked.blocks raw = true →
    (d.run ops).gate.blocked.blocks raw = true
  | [], _, _, h => h
  | p :: ops, d, hops, h => by
    have hp := hops p (by simp)
    exact run_blocks ops _ (fun q hq => hops q (by simp [hq])) (perform_blocks hp.1 hp.2 h)

/-! ## Contacts -/

/-- Whoever an operation contacts was not blocked when it began, and the block list stays
as it is until it ends. -/
theorem perform_contact {s : Surroundings} {d : Desk} {op : Operation} {e : Effect}
    {earlier : List Effect} {number : String} (hs : BlocksNothing s)
    (he : e :: earlier <:+ (d.perform s op).2.trace) (hnew : ¬ e :: earlier <:+ d.trace)
    (hnumber : e.contact? = some number) :
    d.trace <:+ earlier ∧ d.gate.blocked.blocks number = false ∧
      (d.perform s op).2.gate.blocked = d.gate.blocked := by
  have hc : ¬ e.Quiet := by simp [Effect.Quiet, hnumber]
  by_cases hquiet : Grows Effect.Quiet d (d.perform s op).2
  · exact absurd (hquiet.effect he hnew).1 hc
  · cases op with
    | startJob r =>
      obtain ⟨own, id, order, rfl, rfl, hpermitted⟩ := startJob_contact he hnew hc
      obtain rfl : order.number = number := Option.some.inj hnumber
      refine ⟨List.suffix_append .., hpermitted.free hs, ?_⟩
      rcases startJob_acts s r d with h | h
      · exact congrArg (·.gate.blocked) h
      · exact h.blocked hs
    | startTransfer r =>
      obtain ⟨own, j, ref, order, rfl, -, rfl, hpermitted⟩ := startTransfer_contact he hnew hc
      obtain rfl : order.number = number := Option.some.inj hnumber
      exact ⟨List.suffix_append .., hpermitted.free hs, (startTransfer_acts s r d).blocked hs⟩
    | transcript sid text =>
      obtain ⟨own, j, a, order, rfl, -, -, rfl, -, hpermitted⟩ := transcript_contact he hnew hc
      obtain rfl : order.number = number := Option.some.inj hnumber
      exact ⟨List.suffix_append .., hpermitted.free hs, (transcript_acts s sid text d).blocked hs⟩
    | _ => exact absurd (perform_quiet s d (by simp) (by simp) (by simp)) hquiet

/-- **Nobody is contacted at a blocked number.** Provided that operations run to completion, the
number of a call or a message is not blocked, under any spelling, at the operation that contacts it,
during which the block list does not change. So a number is not contacted once it was blocked,
whenever that was, until it is unblocked. -/
theorem contact_not_blocked (c : SafetyConfig) (ops : List (Surroundings × Operation))
    (hcomplete : ∀ p ∈ ops, BlocksNothing p.1) (e : Effect) (earlier : List Effect)
    (number : String) (he : e :: earlier <:+ ((ofConfig c).run ops).trace)
    (hnumber : e.contact? = some number) :
    ∃ before s op after, ops = before ++ (s, op) :: after ∧
      ((ofConfig c).run before).trace <:+ earlier ∧
      (((ofConfig c).run before).perform s op).2.gate.blocked =
        ((ofConfig c).run before).gate.blocked ∧
      (∀ raw, Phone.canonical? raw = Phone.canonical? number →
        ((ofConfig c).run before).gate.blocked.blocks raw = false) ∧
      ∀ past since raw, before = past ++ since → (∀ p ∈ since, Spares raw p.2) →
        ((ofConfig c).run past).gate.blocked.blocks raw = true →
        Phone.canonical? raw ≠ Phone.canonical? number := by
  rcases run_effect he with hnone | ⟨before, s, op, after, rfl, he, hnew⟩
  · exact absurd (List.suffix_nil.1 hnone) (by simp)
  · obtain ⟨hbefore, hfree, hblocked⟩ :=
      perform_contact (hcomplete (s, op) (by simp)) he hnew hnumber
    have hspellings : ∀ raw, Phone.canonical? raw = Phone.canonical? number →
        ((ofConfig c).run before).gate.blocked.blocks raw = false := by
      intro raw hraw
      rw [BlockList.blocks_congr hraw]
      exact hfree
    refine ⟨before, s, op, after, rfl, hbefore, hblocked, hspellings, ?_⟩
    rintro past since raw rfl hspares hpast hraw
    -- had it been blocked, it would be blocked still
    have hstill := run_blocks since _
      (fun p hp => ⟨hcomplete p (by simp [hp]), hspares p hp⟩) hpast
    rw [← run_append, hspellings raw hraw] at hstill
    exact Bool.false_ne_true hstill

/-- A job for a survivor who calls from one number and a shelter with another. -/
def callbackJob : StartJob where
  mode := .live
  survivorContext := "Needs a bed tonight."
  callbackNumber := some "555-010-0199"
  anonymous := false
  approved := false
  targets := [⟨1, "Harbor House", some "555-010-0100", none, none⟩]

/-- With another number blocked the shelter of such a job is called, and its number is
not that one. -/
theorem contact_not_blocked_callbackJob : ∃ order : CallOrder,
    .call .live (.attempt ⟨.ofNat 0, .ofNat 0⟩) order ∈
        ((ofConfig { blockedNumbers := ["555 010 0123"] }).run
          [(.calm, .startJob callbackJob)]).trace ∧
      Phone.canonical? "(555) 010-0123" ≠ Phone.canonical? order.number := by
  have htrace : ∃ kept published order earlier,
      ((ofConfig { blockedNumbers := ["555 010 0123"] }).run
          [(.calm, .startJob callbackJob)]).trace =
        published :: kept :: .call .live (.attempt ⟨.ofNat 0, .ofNat 0⟩) order :: earlier :=
    ⟨_, _, _, _, rfl⟩
  obtain ⟨kept, published, order, earlier, htrace⟩ := htrace
  have hcomplete : ∀ p ∈ [(Surroundings.calm, Operation.startJob callbackJob)],
      BlocksNothing p.1 := by
    intro p hp n line i hi
    rw [List.mem_singleton.1 hp] at hi
    exact absurd hi List.not_mem_nil
  obtain ⟨before, s, op, after, hops, -, -, -, hpast⟩ :=
    contact_not_blocked _ _ hcomplete _ earlier _ ⟨[published, kept], htrace.symm⟩ rfl
  have hbefore : before = [] := by
    cases before with
    | nil => rfl
    | cons b bs => simp at hops
  exact ⟨order, by rw [htrace]; simp, hpast [] [] _ hbefore (by simp) rfl⟩

end Desk

end ShelterLine
