import ShelterLine.Proofs.EscalationHistory
import ShelterLine.Proofs.Newcomers

/-!
# Taking the same records in twice

What a desk has taken in it passes over the next time, so taking in the same records again changes
nothing. For the registers and the block list this is so because what has been taken in stays. The
log is different: a merge cuts it to the newest thousand, so the second merge sees some escalations
again that the first one dropped.

Merging is putting the stored escalations before those of the log, in the order of their times, and
keeping what comes first. `newest_without` says which escalations make no difference to the result:
one that has a version as new before it, and one that has a thousand others as new before it.
Everything that the first merge drops is of this kind, and so is everything that is given twice.
-/

namespace ShelterLine

namespace EscalationLog

variable {seen : List Uuid} {es kept before after log stored : List Escalation} {e : Escalation}

/-! ## The order of the log -/

/-- The newest first, and those with one time as they came. -/
def ordered (es : List Escalation) : List Escalation :=
  es.mergeSort fun a b => b.createdAt ≤ a.createdAt

theorem newestFirst_ordered (es : List Escalation) : NewestFirst (ordered es) :=
  newestFirst_merged es []

theorem ordered_of_newestFirst (h : NewestFirst es) : ordered es = es :=
  List.mergeSort_of_pairwise (h.imp decide_eq_true)

/-- One that comes first is put behind all newer ones and before all others. -/
theorem exists_ordered_cons (e : Escalation) (es : List Escalation) :
    ∃ newer others, ordered (e :: es) = newer ++ e :: others ∧ ordered es = newer ++ others ∧
      (∀ x ∈ newer, ¬ x.createdAt ≤ e.createdAt) ∧ ∀ x ∈ others, x.createdAt ≤ e.createdAt := by
  obtain ⟨newer, others, hwith, hwithout, hnewer⟩ :=
    List.mergeSort_cons newer_trans newer_total e es
  have hsorted := newestFirst_ordered (e :: es)
  unfold ordered at hsorted
  rw [hwith] at hsorted
  refine ⟨newer, others, hwith, hwithout, fun x hx => ?_, ?_⟩
  · simpa using hnewer x hx
  · exact (List.pairwise_cons.1 (List.pairwise_append.1 hsorted).2.1).1

/-- The place of one that comes first depends on the order of the others only. -/
theorem ordered_cons (e : Escalation) (es : List Escalation) : ordered (e :: es) =
    (ordered es).filter (fun x => ¬ x.createdAt ≤ e.createdAt) ++
      e :: (ordered es).filter (·.createdAt ≤ e.createdAt) := by
  obtain ⟨newer, others, hwith, hwithout, hnewer, hothers⟩ := exists_ordered_cons e es
  rw [hwith, hwithout, List.filter_append, List.filter_append,
    List.filter_eq_self.2 fun x hx => decide_eq_true (hnewer x hx),
    List.filter_eq_nil_iff.2 fun x hx => by simpa using hothers x hx,
    List.filter_eq_nil_iff.2 fun x hx => by simpa using hnewer x hx,
    List.filter_eq_self.2 fun x hx => decide_eq_true (hothers x hx), List.append_nil,
    List.nil_append]

/-- It does not matter whether the later ones are in order already. -/
theorem ordered_append_ordered (before after : List Escalation) :
    ordered (before ++ ordered after) = ordered (before ++ after) := by
  induction before with
  | nil => exact ordered_of_newestFirst (newestFirst_ordered after)
  | cons b before ih => rw [List.cons_append, List.cons_append, ordered_cons, ordered_cons, ih]

/-- Without one the others are ordered as they are with it, and those that came before it and are
as new stay before it. -/
theorem exists_ordered_append (e : Escalation) (before after : List Escalation) :
    ∃ front back, ordered (before ++ e :: after) = front ++ e :: back ∧
      ordered (before ++ after) = front ++ back ∧
      ∀ x ∈ before, e.createdAt ≤ x.createdAt → x ∈ front := by
  induction before with
  | nil =>
    obtain ⟨newer, others, hwith, hwithout, -, -⟩ := exists_ordered_cons e after
    exact ⟨newer, others, hwith, hwithout, fun x hx => absurd hx List.not_mem_nil⟩
  | cons b before ih =>
    obtain ⟨front, back, hwith, hwithout, hfront⟩ := ih
    have hsorted := newestFirst_ordered (before ++ e :: after)
    rw [hwith] at hsorted
    obtain ⟨-, hback, hbefore⟩ := List.pairwise_append.1 hsorted
    rw [List.cons_append, List.cons_append, ordered_cons, ordered_cons, hwith, hwithout]
    simp only [List.filter_append]
    by_cases he : e.createdAt ≤ b.createdAt
    · -- nothing behind `e` is newer than `b`, so `b` is put before `e`
      have hnone : back.filter (fun x => ¬ x.createdAt ≤ b.createdAt) = [] := by
        refine List.filter_eq_nil_iff.2 fun x hx => ?_
        have hle : x.createdAt ≤ e.createdAt := (List.pairwise_cons.1 hback).1 x hx
        simpa using Instant.le_trans hle he
      refine ⟨front.filter (fun x => ¬ x.createdAt ≤ b.createdAt) ++
        b :: front.filter (·.createdAt ≤ b.createdAt), back.filter (·.createdAt ≤ b.createdAt),
        ?_, ?_, fun x hx hle => ?_⟩
      · rw [List.filter_cons_of_neg (by simpa using he), hnone, List.filter_cons_of_pos
          (by simpa using he)]
        simp
      · rw [hnone]
        simp
      · rcases List.mem_cons.1 hx with rfl | hx
        · simp
        · have hmem := hfront x hx hle
          by_cases hb : x.createdAt ≤ b.createdAt
          · simp [hmem, hb]
          · simp [hmem, hb]
    · -- everything before `e` is as new as `e`, so `b` is put behind `e`
      have hnew : ∀ x ∈ front, ¬ x.createdAt ≤ b.createdAt := by
        intro x hx hle
        exact he (Instant.le_trans (hbefore x hx e List.mem_cons_self) hle)
      have hall : front.filter (fun x => ¬ x.createdAt ≤ b.createdAt) = front :=
        List.filter_eq_self.2 fun x hx => decide_eq_true (hnew x hx)
      have hnone : front.filter (·.createdAt ≤ b.createdAt) = [] :=
        List.filter_eq_nil_iff.2 fun x hx => by simpa using hnew x hx
      refine ⟨front, back.filter (fun x => ¬ x.createdAt ≤ b.createdAt) ++
        b :: back.filter (·.createdAt ≤ b.createdAt), ?_, ?_, fun x hx hle => ?_⟩
      · rw [List.filter_cons_of_pos (by simpa using he), List.filter_cons_of_neg
          (by simpa using he), hall, hnone]
        simp
      · rw [hall, hnone]
        simp
      · rcases List.mem_cons.1 hx with rfl | hx
        · exact absurd hle he
        · exact hfront x hx hle

/-! ## What makes no difference -/

/-- An escalation is dropped when its identifier has come before. -/
theorem dropRepeated_without {front back : List Escalation}
    (h : e.id ∈ seen ∨ e.id ∈ front.map (·.id)) :
    dropRepeated seen (front ++ e :: back) = dropRepeated seen (front ++ back) := by
  induction front generalizing seen with
  | nil =>
    have hseen : e.id ∈ seen := h.resolve_right List.not_mem_nil
    rw [List.nil_append, List.nil_append, dropRepeated, if_pos hseen]
  | cons x front ih =>
    rw [List.cons_append, List.cons_append, dropRepeated, dropRepeated]
    by_cases hx : x.id ∈ seen
    · rw [if_pos hx, if_pos hx]
      refine ih ?_
      rcases h with hseen | hmem
      · exact Or.inl hseen
      · rcases List.mem_cons.1 hmem with hid | hmem
        · exact Or.inl (hid ▸ hx)
        · exact Or.inr hmem
    · rw [if_neg hx, if_neg hx]
      refine congrArg (x :: ·) (ih ?_)
      rcases h with hseen | hmem
      · exact Or.inl (List.mem_cons_of_mem _ hseen)
      · rcases List.mem_cons.1 hmem with hid | hmem
        · exact Or.inl (hid ▸ List.mem_cons_self)
        · exact Or.inr hmem

/-- What comes later is kept, if at all, after what came first. -/
theorem dropRepeated_prefix (seen : List Uuid) (front back : List Escalation) :
    dropRepeated seen front <+: dropRepeated seen (front ++ back) := by
  induction front generalizing seen with
  | nil => exact List.nil_prefix
  | cons x front ih =>
    rw [List.cons_append, dropRepeated, dropRepeated]
    split
    · exact ih seen
    · exact List.cons_prefix_cons.2 ⟨rfl, ih (x.id :: seen)⟩

/-- The newest thousand: what a merge makes of everything that takes part in it. -/
def newest (es : List Escalation) : List Escalation := (dropRepeated [] (ordered es)).take capacity

theorem seed_eq_newest (log stored : List Escalation) : seed log stored = newest (stored ++ log) :=
  rfl

/-- A thousand escalations with different identifiers. -/
structure Full (es : List Escalation) : Prop where
  distinct : (es.map (·.id)).Nodup
  length_eq : es.length = capacity

/-- **What makes no difference.** An escalation is not kept, and nothing is kept or dropped because
of it, if a version of it came before that is as new, or if a thousand others did. -/
theorem newest_without (h : (∃ x ∈ before, x.id = e.id ∧ e.createdAt ≤ x.createdAt) ∨
      ∃ full, Full full ∧ ∀ x ∈ full, x ∈ before ∧ e.createdAt ≤ x.createdAt) :
    newest (before ++ e :: after) = newest (before ++ after) := by
  obtain ⟨front, back, hwith, hwithout, hfront⟩ := exists_ordered_append e before after
  unfold newest
  rw [hwith, hwithout]
  rcases h with ⟨x, hx, hid, hle⟩ | ⟨full, hfull, hbefore⟩
  · have hmem : e.id ∈ front.map (·.id) := List.mem_map.2 ⟨x, hfront x hx hle, hid⟩
    rw [dropRepeated_without (Or.inr hmem)]
  · -- the thousand are in front, so the log is full before it is the turn of `e`
    have hsorted : NewestFirst front := by
      have hall := newestFirst_ordered (before ++ after)
      rw [hwithout] at hall
      exact hall.sublist (List.sublist_append_left front back)
    have hmany : capacity ≤ (dropRepeated [] front).length := by
      have hids : full.map (·.id) ⊆ (dropRepeated [] front).map (·.id) := by
        intro id hid
        obtain ⟨x, hx, rfl⟩ := List.mem_map.1 hid
        obtain ⟨hmem, hle⟩ := hbefore x hx
        obtain ⟨k, hk, hkid, -⟩ :=
          exists_mem_dropRepeated hsorted (hfront x hmem hle) List.not_mem_nil
        exact List.mem_map.2 ⟨k, hk, hkid⟩
      have hcount := (List.subperm_of_subset hfull.distinct hids).length_le
      rwa [List.length_map, List.length_map, hfull.length_eq] at hcount
    obtain ⟨rest, hrest⟩ := dropRepeated_prefix [] front (e :: back)
    obtain ⟨rest', hrest'⟩ := dropRepeated_prefix [] front back
    rw [← hrest, ← hrest', List.take_append_of_le_length hmany, List.take_append_of_le_length hmany]

/-! ## What a merge drops -/

/-- What was given before may be given again. -/
theorem newest_repeated : ∀ {again : List Escalation}, (∀ e ∈ again, e ∈ before) →
    newest (before ++ (again ++ after)) = newest (before ++ after)
  | [], _ => rfl
  | e :: again, h => by
    have hsame : ∃ x ∈ before, x.id = e.id ∧ e.createdAt ≤ x.createdAt :=
      ⟨e, h e List.mem_cons_self, rfl, Instant.le_refl _⟩
    rw [List.cons_append, newest_without (Or.inl hsame)]
    exact newest_repeated fun x hx => h x (List.mem_cons_of_mem e hx)

/-- What repeats an identifier may be dropped at once. `kept` is what has not been
dropped so far. -/
theorem newest_dropRepeated (before : List Escalation) :
    ∀ {es kept : List Escalation} {seen : List Uuid}, NewestFirst (kept ++ es) →
      (∀ id ∈ seen, ∃ k ∈ kept, k.id = id) →
      newest (before ++ (kept ++ dropRepeated seen es)) = newest (before ++ (kept ++ es))
  | [], _, _, _, _ => rfl
  | e :: es, kept, seen, hsorted, hseen => by
    obtain ⟨-, hes, hkept⟩ := List.pairwise_append.1 hsorted
    rw [dropRepeated]
    by_cases he : e.id ∈ seen
    · obtain ⟨k, hk, hid⟩ := hseen e.id he
      have hsame : ∃ x ∈ before ++ kept, x.id = e.id ∧ e.createdAt ≤ x.createdAt :=
        ⟨k, List.mem_append_right _ hk, hid, hkept k hk e List.mem_cons_self⟩
      have hsorted' : NewestFirst (kept ++ es) :=
        hsorted.sublist ((List.Sublist.refl kept).append (List.sublist_cons_self e es))
      rw [if_pos he, newest_dropRepeated before hsorted' hseen,
        ← List.append_assoc before kept (e :: es), newest_without (Or.inl hsame), List.append_assoc]
    · rw [List.append_cons] at hsorted
      rw [if_neg he, List.append_cons kept e (dropRepeated _ es), List.append_cons kept e es]
      refine newest_dropRepeated before hsorted fun id hid => ?_
      rcases List.mem_cons.1 hid with rfl | hid
      · exact ⟨e, by simp, rfl⟩
      · obtain ⟨k, hk, hkid⟩ := hseen id hid
        exact ⟨k, List.mem_append_left _ hk, hkid⟩

/-- What is behind a thousand others may be dropped at once. -/
theorem newest_append_full (before : List Escalation) (hfull : Full kept) :
    ∀ {es : List Escalation}, NewestFirst (kept ++ es) →
      newest (before ++ kept) = newest (before ++ (kept ++ es))
  | [], _ => by rw [List.append_nil]
  | e :: es, hsorted => by
    have hbefore : ∀ x ∈ kept, x ∈ before ++ kept ∧ e.createdAt ≤ x.createdAt := fun x hx =>
      ⟨List.mem_append_right _ hx, (List.pairwise_append.1 hsorted).2.2 x hx e List.mem_cons_self⟩
    have hsorted' : NewestFirst (kept ++ es) :=
      hsorted.sublist ((List.Sublist.refl kept).append (List.sublist_cons_self e es))
    rw [newest_append_full before hfull hsorted', ← List.append_assoc before kept (e :: es),
      newest_without (Or.inr ⟨kept, hfull, hbefore⟩), List.append_assoc]

/-- What is cut off is behind a thousand others. -/
theorem newest_append_take (before : List Escalation) (hdistinct : (es.map (·.id)).Nodup)
    (hsorted : NewestFirst es) : newest (before ++ es.take capacity) = newest (before ++ es) := by
  rcases Nat.lt_or_ge es.length capacity with hroom | hmany
  · rw [List.take_of_length_le (Nat.le_of_lt hroom)]
  · have hfull : Full (es.take capacity) := by
      refine ⟨hdistinct.sublist ((List.take_sublist capacity es).map _), ?_⟩
      rw [List.length_take]
      omega
    have hsplit : NewestFirst (es.take capacity ++ es.drop capacity) →
        newest (before ++ es.take capacity) =
          newest (before ++ (es.take capacity ++ es.drop capacity)) :=
          newest_append_full before hfull
    rw [List.take_append_drop] at hsplit
    exact hsplit hsorted

/-- **It does not matter whether the later ones were merged before**, though that dropped some. -/
theorem newest_append_newest (before after : List Escalation) :
    newest (before ++ newest after) = newest (before ++ after) := by
  have hsorted := newestFirst_ordered after
  have hkept : NewestFirst (dropRepeated [] (ordered after)) :=
    hsorted.sublist (sublist_dropRepeated [] (ordered after))
  have hdropped : newest (before ++ ([] ++ dropRepeated [] (ordered after))) =
      newest (before ++ ([] ++ ordered after)) := newest_dropRepeated before hsorted (by simp)
  have hordered : newest (before ++ ordered after) = newest (before ++ after) := by
    unfold newest
    rw [ordered_append_ordered]
  calc newest (before ++ newest after)
      = newest (before ++ dropRepeated [] (ordered after)) :=
        newest_append_take before (nodup_dropRepeated [] _) hkept
    _ = newest (before ++ ordered after) := hdropped
    _ = newest (before ++ after) := hordered

/-- **Merging the same escalations a second time changes nothing.** -/
theorem seed_seed (log stored : List Escalation) :
    seed (seed log stored) stored = seed log stored := by
  rw [seed_eq_newest, seed_eq_newest, newest_append_newest]
  exact newest_repeated fun e he => he

end EscalationLog

/-! ## What has been taken in is passed over -/

/-- Whoever comes is known or a newcomer, or goes by the identifier of one. -/
theorem exists_known_or_newcomer {σ : Type} {id : σ → Uuid} {known : List Uuid}
    {xs : List σ} {x : σ} (hx : x ∈ xs) :
    id x ∈ known ∨ ∃ y ∈ newcomers id known xs, id y = id x := by
  induction xs generalizing known with
  | nil => exact absurd hx List.not_mem_nil
  | cons z xs ih =>
    unfold newcomers
    by_cases hz : id z ∈ known
    · rw [if_pos hz]
      rcases List.mem_cons.1 hx with rfl | hx
      · exact Or.inl hz
      · exact ih hx
    · rw [if_neg hz]
      rcases List.mem_cons.1 hx with rfl | hx
      · exact Or.inr ⟨x, List.mem_cons_self, rfl⟩
      · have hlater : id x ∈ id z :: known ∨ ∃ y ∈ newcomers id (id z :: known) xs,
            id y = id x := ih hx
        rcases hlater with hknown | ⟨y, hy, hid⟩
        · rcases List.mem_cons.1 hknown with hsame | hknown
          · exact Or.inr ⟨z, List.mem_cons_self, hsame.symm⟩
          · exact Or.inl hknown
        · exact Or.inr ⟨y, List.mem_cons_of_mem z hy, hid⟩

/-- In the end each of them is there. -/
theorem exists_of_newcomers {σ : Type} {id : σ → Uuid} {xs ys : List σ} :
    ∀ x ∈ xs, ∃ y ∈ (newcomers id (ys.map id) xs).reverse ++ ys, id y = id x := by
  intro x hx
  have hcases : id x ∈ ys.map id ∨ ∃ y ∈ newcomers id (ys.map id) xs, id y = id x :=
    exists_known_or_newcomer hx
  rcases hcases with hknown | ⟨y, hy, hid⟩
  · obtain ⟨y, hy, hid⟩ := List.mem_map.1 hknown
    exact ⟨y, List.mem_append_right _ hy, hid⟩
  · exact ⟨y, List.mem_append_left _ (List.mem_reverse.2 hy), hid⟩

theorem JobRegister.takeIn_restore_twice (r : JobRegister) (js : List Job) :
    Desk.takeIn restore (Desk.takeIn restore r js).2 js = (0, (Desk.takeIn restore r js).2) := by
  rw [takeIn_restore_eq r js]
  exact takeIn_restore_same exists_of_newcomers

theorem TransferRegister.takeIn_restore_twice (r : TransferRegister) (ts : List Session) :
    Desk.takeIn restore (Desk.takeIn restore r ts).2 ts = (0, (Desk.takeIn restore r ts).2) := by
  rw [takeIn_restore_eq r ts]
  exact takeIn_restore_same exists_of_newcomers

theorem BlockList.takeIn_add_twice {b : BlockList} (hs : b.Sorted) (raws : List String) :
    Desk.takeIn (fun b raw => ((b.add raw).1.changed, (b.add raw).2))
        (Desk.takeIn (fun b raw => ((b.add raw).1.changed, (b.add raw).2)) b raws).2 raws =
      (0, (Desk.takeIn (fun b raw => ((b.add raw).1.changed, (b.add raw).2)) b raws).2) := by
  refine Desk.takeIn_same fun raw hraw => ?_
  rw [add_known (Desk.takeIn_keeps (fun b raw (hb : b.Sorted) => hb.add raw) raws b hs)]
  intro n hn
  exact mem_takeIn_add (Or.inr ⟨raw, hraw, hn⟩)

/-! ## The desk -/

namespace Desk

variable {s : Surroundings} {d d' : Desk} {c : SafetyConfig}

/-- A desk whose block list is in order takes nothing in the second time. -/
theorem restore_restore (hs : d.gate.blocked.Sorted) (stored : Stored) :
    (d.restore stored).2.restore stored =
      (⟨0, 0, stored.escalations.length, 0⟩, (d.restore stored).2) := by
  have hblocked := BlockList.takeIn_add_twice hs stored.blocked
  have hjobs := JobRegister.takeIn_restore_twice d.jobs stored.jobs
  have hsessions := TransferRegister.takeIn_restore_twice d.transfers stored.sessions
  have hlog := EscalationLog.seed_seed d.gate.escalations stored.escalations
  unfold restore
  dsimp only [Gate.seed]
  rw [hblocked, hjobs, hsessions, hlog]

theorem Change.sorted (h : Change s d d') (hs : d.gate.blocked.Sorted) :
    d'.gate.blocked.Sorted := by
  cases h with
  | blocked raw => exact block_blocked raw d ▸ hs.add raw
  | unblocked raw => exact unblock_blocked raw d ▸ hs.remove raw
  | acted | counted | registered | patched | marked | bound | opened | moved | joined | escalated
  | forgotten => exact hs

/-- Whatever a desk does its block list remains in order, also when it takes records in. -/
theorem Reachable.sorted (h : Reachable c d) : d.gate.blocked.Sorted := by
  obtain ⟨ops, s, hchanges⟩ := h
  refine hchanges.keeps (I := fun d => d.gate.blocked.Sorted) (fun _ _ => Change.sorted) ?_
  refine run_induction (I := fun d => d.gate.blocked.Sorted) (fun d s op hd => ?_) ops _
    (BlockList.sorted_ofRaw c.blockedNumbers)
  by_cases hmemory : ∃ stored, op = .restore stored
  · obtain ⟨stored, rfl⟩ := hmemory
    exact takeIn_keeps (fun b raw (hb : b.Sorted) => hb.add raw) stored.blocked _ hd
  · have hchanges := perform_changes s d fun stored h => hmemory ⟨stored, h⟩
    exact hchanges.keeps (I := fun d => d.gate.blocked.Sorted) (fun _ _ => Change.sorted) hd

/-- **Taking the same records in twice is taking them in once.** Whatever state a desk is in and
whatever comes back from storage, the second time leaves the registers with their indexes, the block
list, the log and all the rest as they were after the first, and counts no job, no transfer and no
number. The log is the same after a second merge whatever it was before and whatever was merged. -/
theorem restore_twice (hd : Reachable c d) (stored : Stored) :
    ((d.restore stored).2.restore stored).2 = (d.restore stored).2 ∧
    ((d.restore stored).2.restore stored).1.jobs = 0 ∧
    ((d.restore stored).2.restore stored).1.transfers = 0 ∧
    ((d.restore stored).2.restore stored).1.blocked = 0 ∧
    ∀ log given : List Escalation,
      EscalationLog.seed (EscalationLog.seed log given) given = EscalationLog.seed log given := by
  rw [restore_restore hd.sorted stored]
  exact ⟨rfl, rfl, rfl, rfl, EscalationLog.seed_seed⟩

/-- Two versions of an escalation from one moment, a number and text that is none, and two versions
of a job that carry different SIDs, the first one a SID from memory. -/
def contested : Stored where
  escalations := [Gate.noteOf 1 0, { Gate.noteOf 1 0 with reason := "Escalated again" },
    Gate.noteOf 2 0]
  blocked := ["(212) 555-0123", "no number"]
  jobs := [storedJob "CA0", storedJob "CA1"]

/-- The first time one job takes the SID over and one number is blocked, the second
time nothing happens. -/
theorem restore_twice_contested : Reachable {} ((ofConfig {}).run twoSheltersRun) ∧
    (((ofConfig {}).run twoSheltersRun).restore contested).1 = ⟨1, 0, 3, 1⟩ ∧
    ((((ofConfig {}).run twoSheltersRun).restore contested).2.restore contested).1.jobs = 0 ∧
    ((((ofConfig {}).run twoSheltersRun).restore contested).2.restore contested).1.blocked = 0 ∧
    ((((((ofConfig {}).run twoSheltersRun).restore contested).2.restore contested).2.jobs.findSid?
      "CA0").map (·.1.id)) = some (.ofNat 40) := by
  have hreachable : Reachable {} ((ofConfig {}).run twoSheltersRun) :=
    ⟨twoSheltersRun, .calm, .refl⟩
  obtain ⟨hsame, hjobs, -, hblocked, -⟩ := restore_twice hreachable contested
  refine ⟨hreachable, by decide +kernel, hjobs, hblocked, ?_⟩
  rw [hsame]
  decide +kernel

end Desk

end ShelterLine
