import Mathlib.Data.List.Dedup
import Mathlib.Data.List.Perm.Subperm
import ShelterLine.Proofs.EscalationLog

/-!
# The log is the newest thousand of everything

Escalations reach the gate one at a time, as they arise, or many at once, from storage; the
same one may come several times, with different times. Whatever came, and in whatever
mixture, the log is what one would get by keeping of every identifier the newest version and
of these the newest thousand.

The log does not remember what it has dropped, so an old version of a dropped escalation looks new
when it comes again. It is dropped again, because a full log never gets older: `le_of_mem_seed` is
the fact that carries the invariant over a merge. Recording is merging a single escalation that is
at least as new as all others, so there is one step to prove and not two.
-/

namespace ShelterLine

namespace EscalationLog

variable {es log stored given : List Escalation}

/-! ## Everything that was ever given -/

/-- The number of different identifiers. -/
def idCount (es : List Escalation) : Nat := (es.map (·.id)).dedup.length

/-- `log` is the newest thousand of the escalations that were `given`. -/
structure KeepsNewest (given log : List Escalation) : Prop where
  distinct : (log.map (·.id)).Nodup
  sorted : NewestFirst log
  length_eq : log.length = min capacity (idCount given)
  /-- What is not in the log has no version newer than anything in the log. -/
  missing : ∀ e ∈ given, e.id ∉ log.map (·.id) → ∀ k ∈ log, e.createdAt ≤ k.createdAt
  /-- What is in the log was given, and no newer version of it was. -/
  newest : ∀ k ∈ log, k ∈ given ∧ ∀ e ∈ given, e.id = k.id → e.createdAt ≤ k.createdAt

theorem keepsNewest_nil : KeepsNewest [] [] :=
  ⟨List.nodup_nil, .nil, rfl, by simp, by simp⟩

/-- Different identifiers are counted by any list that has each of them once. -/
theorem idCount_eq {kept : List Escalation} (hn : (kept.map (·.id)).Nodup)
    (hids : ∀ id, id ∈ kept.map (·.id) ↔ id ∈ es.map (·.id)) : idCount es = kept.length := by
  have hperm : (es.map (·.id)).dedup.Perm (kept.map (·.id)) :=
    (List.perm_ext_iff_of_nodup (List.nodup_dedup _) hn).2 fun id => by
      rw [List.mem_dedup, hids]
  have hlength := hperm.length_eq
  rwa [List.length_map] at hlength

/-- A list of different identifiers is no longer than a list that has them all. -/
theorem length_le_idCount {kept : List Escalation} (hn : (kept.map (·.id)).Nodup)
    (hids : ∀ k ∈ kept, k.id ∈ es.map (·.id)) : kept.length ≤ idCount es := by
  have hsub : kept.map (·.id) ⊆ (es.map (·.id)).dedup := by
    intro id hid
    obtain ⟨k, hk, rfl⟩ := List.mem_map.1 hid
    exact List.mem_dedup.2 (hids k hk)
  have hle := (List.subperm_of_subset hn hsub).length_le
  rwa [List.length_map] at hle

/-- Nothing is missing in a log that has room. -/
theorem KeepsNewest.full (h : KeepsNewest given log) {e : Escalation} (he : e ∈ given)
    (hmissing : e.id ∉ log.map (·.id)) : log.length = capacity := by
  have hlength := h.length_eq
  -- with the missing identifier there are more of them than the log has
  have hmore : log.length + 1 ≤ idCount given := by
    have hnodup : ((e :: log).map (·.id)).Nodup := List.nodup_cons.2 ⟨hmissing, h.distinct⟩
    refine length_le_idCount hnodup fun k hk => ?_
    rcases List.mem_cons.1 hk with rfl | hk
    · exact List.mem_map_of_mem he
    · exact List.mem_map_of_mem (h.newest k hk).1
  omega

/-! ## Merging, once everything is put together -/

/-- Of the newest, as many as are at least as new as `t` are at least as new as `t`. -/
theorem le_of_mem_take {t : Instant} (hsorted : NewestFirst es) {n : Nat} :
    n ≤ (es.filter (t ≤ ·.createdAt)).length → ∀ k ∈ es.take n, t ≤ k.createdAt := by
  induction es generalizing n with
  | nil => simp
  | cons e es ih =>
    intro hn k hk
    obtain ⟨hfirst, hrest⟩ := List.pairwise_cons.1 hsorted
    by_cases he : t ≤ e.createdAt
    · rw [List.filter_cons_of_pos (by simpa using he), List.length_cons] at hn
      cases n with
      | zero => simp at hk
      | succ n =>
        rw [List.take_succ_cons] at hk
        rcases List.mem_cons.1 hk with rfl | hk
        · exact he
        · exact ih hrest (Nat.le_of_succ_le_succ hn) k hk
    · -- the first is too old, and so are all others
      have hnone : (e :: es).filter (t ≤ ·.createdAt) = [] := by
        refine List.filter_eq_nil_iff.2 fun x hx hle => ?_
        rcases List.mem_cons.1 hx with rfl | hx
        · exact he (of_decide_eq_true hle)
        · exact he (Instant.le_trans (of_decide_eq_true hle) (hfirst x hx))
      rw [hnone, List.length_nil] at hn
      obtain rfl : n = 0 := Nat.le_zero.1 hn
      simp at hk

/-- What a merge keeps of each identifier before the log is cut: one version, and none is newer. -/
structure Merged (es kept : List Escalation) : Prop where
  distinct : (kept.map (·.id)).Nodup
  sorted : NewestFirst kept
  mem : ∀ k ∈ kept, k ∈ es
  newest : ∀ e ∈ es, ∃ k ∈ kept, k.id = e.id ∧ e.createdAt ≤ k.createdAt

/-- A merge cuts such a list. -/
theorem exists_merged (log stored : List Escalation) :
    ∃ kept, Merged (stored ++ log) kept ∧ seed log stored = kept.take capacity := by
  have hsorted := newestFirst_merged log stored
  refine ⟨_, ⟨nodup_dropRepeated _ _, hsorted.sublist (sublist_dropRepeated _ _), ?_, ?_⟩, rfl⟩
  · intro k hk
    exact List.mem_mergeSort.1 ((sublist_dropRepeated _ _).subset hk)
  · intro e he
    obtain ⟨k, hk, hid, hbefore⟩ :=
      exists_mem_dropRepeated hsorted (List.mem_mergeSort.2 he) List.not_mem_nil
    refine ⟨k, hk, hid, ?_⟩
    rcases hbefore with rfl | hbefore
    · exact Instant.le_refl _
    · exact hbefore

/-- The one version with an identifier is the newest. -/
theorem Merged.le {kept : List Escalation} (h : Merged es kept) {e k : Escalation} (he : e ∈ es)
    (hk : k ∈ kept) (hid : e.id = k.id) : e.createdAt ≤ k.createdAt := by
  obtain ⟨k', hk', hid', hle⟩ := h.newest e he
  obtain rfl := List.inj_on_of_nodup_map h.distinct hk' hk (hid'.trans hid)
  exact hle

/-- **A full log never gets older.** What is at most as new as everything in a full log is at most
as new as everything there after a merge. -/
theorem le_of_mem_seed {t : Instant} (hn : (log.map (·.id)).Nodup) (hfull : log.length = capacity)
    (hold : ∀ l ∈ log, t ≤ l.createdAt) : ∀ k ∈ seed log stored, t ≤ k.createdAt := by
  obtain ⟨kept, hkept, hseed⟩ := exists_merged log stored
  rw [hseed]
  -- each of the thousand in the log has a version among those that are new enough
  have hids : log.map (·.id) ⊆ (kept.filter (t ≤ ·.createdAt)).map (·.id) := by
    intro id hid
    obtain ⟨l, hl, rfl⟩ := List.mem_map.1 hid
    obtain ⟨k, hk, hkid, hle⟩ := hkept.newest l (List.mem_append_right _ hl)
    have hnew : t ≤ k.createdAt := Instant.le_trans (hold l hl) hle
    rw [← hkid]
    exact List.mem_map_of_mem (List.mem_filter.2 ⟨hk, decide_eq_true hnew⟩)
  have hcount := (List.subperm_of_subset hn hids).length_le
  rw [List.length_map, List.length_map, hfull] at hcount
  exact le_of_mem_take hkept.sorted hcount

/-! ## One merge -/

/-- Whatever was given is either matched by something as new that takes part in the merge, or it is
missing in a full log and no newer than anything there. -/
theorem KeepsNewest.matched (h : KeepsNewest given log) {e : Escalation}
    (he : e ∈ given ++ stored) :
    (∃ v ∈ stored ++ log, v.id = e.id ∧ e.createdAt ≤ v.createdAt) ∨
      (e ∈ given ∧ log.length = capacity ∧ ∀ l ∈ log, e.createdAt ≤ l.createdAt) := by
  rcases List.mem_append.1 he with he | he
  · by_cases hthere : e.id ∈ log.map (·.id)
    · obtain ⟨l, hl, hid⟩ := List.mem_map.1 hthere
      have hle : e.createdAt ≤ l.createdAt := (h.newest l hl).2 e he hid.symm
      exact Or.inl ⟨l, List.mem_append_right _ hl, hid, hle⟩
    · exact Or.inr ⟨he, h.full he hthere, h.missing e he hthere⟩
  · exact Or.inl ⟨e, List.mem_append_left _ he, rfl, Instant.le_refl _⟩

/-- As many are left as there are identifiers, up to a thousand. -/
theorem KeepsNewest.length_seed (h : KeepsNewest given log) (stored : List Escalation) :
    (seed log stored).length = min capacity (idCount (given ++ stored)) := by
  obtain ⟨kept, hkept, hseed⟩ := exists_merged log stored
  rw [hseed, List.length_take]
  have hlength := h.length_eq
  rcases Nat.lt_or_ge log.length capacity with hroom | hfull
  · -- nothing is missing yet, so the merge sees every identifier
    have hcount : idCount (given ++ stored) = kept.length := by
      refine idCount_eq hkept.distinct fun id => ⟨fun hid => ?_, fun hid => ?_⟩
      · obtain ⟨k, hk, rfl⟩ := List.mem_map.1 hid
        refine List.mem_map_of_mem ?_
        rcases List.mem_append.1 (hkept.mem k hk) with hs | hl
        · exact List.mem_append_right _ hs
        · exact List.mem_append_left _ (h.newest k hl).1
      · obtain ⟨e, he, rfl⟩ := List.mem_map.1 hid
        rcases h.matched he with ⟨v, hv, hvid, -⟩ | ⟨-, hlog, -⟩
        · obtain ⟨k, hk, hkid, -⟩ := hkept.newest v hv
          exact List.mem_map.2 ⟨k, hk, hkid.trans hvid⟩
        · exact absurd hlog (Nat.ne_of_lt hroom)
    rw [hcount]
  · -- a thousand identifiers were there before, and identifiers do not go away
    have hkeptMany : log.length ≤ kept.length := by
      have hids : log.map (·.id) ⊆ kept.map (·.id) := by
        intro id hid
        obtain ⟨l, hl, rfl⟩ := List.mem_map.1 hid
        obtain ⟨k, hk, hkid, -⟩ := hkept.newest l (List.mem_append_right _ hl)
        exact List.mem_map.2 ⟨k, hk, hkid⟩
      have hle := (List.subperm_of_subset h.distinct hids).length_le
      rwa [List.length_map, List.length_map] at hle
    have hgivenMany : log.length ≤ idCount (given ++ stored) :=
      length_le_idCount h.distinct fun k hk =>
        List.mem_map_of_mem (List.mem_append_left _ (h.newest k hk).1)
    omega

/-- **A merge keeps the newest.** -/
theorem KeepsNewest.seed (h : KeepsNewest given log) (stored : List Escalation) :
    KeepsNewest (given ++ stored) (seed log stored) := by
  obtain ⟨kept, hkept, hseed⟩ := exists_merged log stored
  have hold : ∀ e : Escalation, log.length = capacity → (∀ l ∈ log, e.createdAt ≤ l.createdAt) →
      ∀ k ∈ EscalationLog.seed log stored, e.createdAt ≤ k.createdAt :=
    fun _ hfull hle => le_of_mem_seed h.distinct hfull hle
  have hlength := h.length_seed stored
  rw [hseed] at hold hlength ⊢
  refine ⟨hkept.distinct.sublist ((List.take_sublist _ _).map _),
    hkept.sorted.sublist (List.take_sublist _ _), hlength, ?_, ?_⟩
  · intro e he hmissing k hk
    rcases h.matched he with ⟨v, hv, hvid, hle⟩ | ⟨-, hfull, hle⟩
    · -- its newest version was cut off, so it stood behind everything that was not
      obtain ⟨x, hx, hxid, hlex⟩ := hkept.newest v hv
      have hcut : x ∈ kept.drop capacity := by
        rw [← List.take_append_drop capacity kept] at hx
        rcases List.mem_append.1 hx with hx | hx
        · exact absurd (List.mem_map.2 ⟨x, hx, hxid.trans hvid⟩) hmissing
        · exact hx
      have hsplit := hkept.sorted
      rw [NewestFirst, ← List.take_append_drop capacity kept, List.pairwise_append] at hsplit
      have hbehind : x.createdAt ≤ k.createdAt := hsplit.2.2 k hk x hcut
      exact Instant.le_trans (Instant.le_trans hle hlex) hbehind
    · exact hold e hfull hle k hk
  · intro k hk
    have hthere : k ∈ kept := List.mem_of_mem_take hk
    refine ⟨?_, fun e he hid => ?_⟩
    · rcases List.mem_append.1 (hkept.mem k hthere) with hs | hl
      · exact List.mem_append_right _ hs
      · exact List.mem_append_left _ (h.newest k hl).1
    · rcases h.matched he with ⟨v, hv, hvid, hle⟩ | ⟨-, hfull, hle⟩
      · exact Instant.le_trans hle (hkept.le hv hthere (hvid.trans hid))
      · exact hold e hfull hle k hk

/-! ## Recording is merging one -/

theorem dropRepeated_of_nodup : ∀ {es : List Escalation} {seen : List Uuid},
    (es.map (·.id)).Nodup → (∀ e ∈ es, e.id ∉ seen) → dropRepeated seen es = es
  | [], _, _, _ => rfl
  | e :: es, seen, hn, hseen => by
    obtain ⟨hfirst, hrest⟩ := List.nodup_cons.1 hn
    unfold dropRepeated
    rw [if_neg (hseen e List.mem_cons_self)]
    refine congrArg (e :: ·) (dropRepeated_of_nodup hrest fun x hx hmem => ?_)
    rcases List.mem_cons.1 hmem with hid | hmem
    · exact hfirst (List.mem_map.2 ⟨x, hx, hid⟩)
    · exact hseen x (List.mem_cons_of_mem _ hx) hmem

/-- A new escalation that is at least as new as all others is in front after a merge as well. -/
theorem record_eq_seed {e : Escalation} (hn : (log.map (·.id)).Nodup) (hsorted : NewestFirst log)
    (hid : ∀ l ∈ log, l.id ≠ e.id) (hnew : ∀ l ∈ log, l.createdAt ≤ e.createdAt) :
    record log e = EscalationLog.seed log [e] := by
  have hfirst : NewestFirst (e :: log) := List.pairwise_cons.2 ⟨hnew, hsorted⟩
  have hmerged : ([e] ++ log).mergeSort (fun a b => b.createdAt ≤ a.createdAt) = e :: log :=
    List.mergeSort_of_pairwise (hfirst.imp decide_eq_true)
  have hnodup : ((e :: log).map (·.id)).Nodup := by
    refine List.nodup_cons.2 ⟨fun hmem => ?_, hn⟩
    obtain ⟨l, hl, hlid⟩ := List.mem_map.1 hmem
    exact hid l hl hlid
  unfold record EscalationLog.seed
  dsimp only
  rw [hmerged, dropRepeated_of_nodup hnodup fun _ _ => List.not_mem_nil]

/-- **Recording keeps the newest**, if what is recorded is new and nothing is newer. -/
theorem KeepsNewest.record (h : KeepsNewest given log) {e : Escalation}
    (hnew : ∀ x ∈ given, x.id ≠ e.id ∧ x.createdAt ≤ e.createdAt) :
    KeepsNewest (given ++ [e]) (record log e) := by
  have hlog : ∀ l ∈ log, l.id ≠ e.id ∧ l.createdAt ≤ e.createdAt :=
    fun l hl => hnew l (h.newest l hl).1
  rw [record_eq_seed h.distinct h.sorted (fun l hl => (hlog l hl).1) fun l hl => (hlog l hl).2]
  exact h.seed [e]

/-! ## All that ever arrives -/

/-- A way for escalations to reach the log. -/
inductive Arrival where
  | recorded (e : Escalation)
  | seeded (stored : List Escalation)

/-- The escalations that arrive. -/
def Arrival.escalations : Arrival → List Escalation
  | recorded e => [e]
  | seeded stored => stored

/-- What is recorded after `a` has none of its identifiers and is at least as new. Whatever is
stored may come at any time. -/
def Arrival.Precedes (a : Arrival) : Arrival → Prop
  | recorded e => ∀ x ∈ a.escalations, x.id ≠ e.id ∧ x.createdAt ≤ e.createdAt
  | seeded _ => True

/-- All that some arrivals bring. -/
def brought (arrivals : List Arrival) : List Escalation := arrivals.flatMap Arrival.escalations

theorem mem_brought_recorded {arrivals : List Arrival} {e : Escalation}
    (h : .recorded e ∈ arrivals) : e ∈ brought arrivals :=
  List.mem_flatMap.2 ⟨_, h, List.mem_cons_self⟩

theorem mem_brought_seeded {arrivals : List Arrival} {e : Escalation}
    (h : .seeded stored ∈ arrivals) (he : e ∈ stored) : e ∈ brought arrivals :=
  List.mem_flatMap.2 ⟨_, h, he⟩

theorem Arrival.seeded_precedes_recorded {e : Escalation} :
    (seeded stored).Precedes (recorded e) ↔
      ∀ x ∈ stored, x.id ≠ e.id ∧ x.createdAt ≤ e.createdAt := Iff.rfl

end EscalationLog

namespace Gate

open EscalationLog

/-- What the gate makes of an arrival. -/
def receive (g : Gate) : Arrival → Gate
  | .recorded e => g.record e
  | .seeded stored => g.seed stored

/-- The log of a gate with a configuration after some arrivals. -/
def logAfter (c : SafetyConfig) (arrivals : List Arrival) : List Escalation :=
  (arrivals.foldl receive (Gate.ofConfig c)).escalations

theorem keepsNewest_receive {g : Gate} {given : List Escalation}
    (h : KeepsNewest given g.escalations) {a : Arrival}
    (hnew : ∀ e, a = .recorded e → ∀ x ∈ given, x.id ≠ e.id ∧ x.createdAt ≤ e.createdAt) :
    KeepsNewest (given ++ a.escalations) (g.receive a).escalations := by
  cases a with
  | recorded e => exact h.record (hnew e rfl)
  | seeded stored => exact h.seed stored

theorem keepsNewest_logAfter (c : SafetyConfig) {arrivals : List Arrival}
    (h : arrivals.Pairwise Arrival.Precedes) :
    KeepsNewest (brought arrivals) (logAfter c arrivals) := by
  induction arrivals using List.reverseRecOn with
  | nil => exact keepsNewest_nil
  | append_singleton arrivals a ih =>
    obtain ⟨hbefore, -, hlast⟩ := List.pairwise_append.1 h
    rw [brought, List.flatMap_append, List.flatMap_singleton, logAfter, List.foldl_append]
    refine keepsNewest_receive (ih hbefore) ?_
    rintro e rfl x hx
    obtain ⟨b, hb, hx⟩ := List.mem_flatMap.1 hx
    exact hlast b hb _ List.mem_cons_self x hx

/-- **The log is the newest thousand of everything.** After each of any arrivals the log has of
every identifier the newest version, and of these the newest thousand, newest first; so its first
`m` are the newest `m` of it. -/
theorem newest_escalations_kept (c : SafetyConfig) (arrivals : List Arrival)
    (h : arrivals.Pairwise Arrival.Precedes) (n : Nat) :
    KeepsNewest (brought (arrivals.take n)) (logAfter c (arrivals.take n)) ∧
    ∀ m, ∀ e ∈ (logAfter c (arrivals.take n)).take m, ∀ x ∈ (logAfter c (arrivals.take n)).drop m,
      x.createdAt ≤ e.createdAt := by
  have hkeeps := keepsNewest_logAfter c (h.sublist (List.take_sublist n arrivals))
  refine ⟨hkeeps, fun m e he x hx => ?_⟩
  have hsorted := hkeeps.sorted
  rw [NewestFirst, ← List.take_append_drop m (logAfter c (arrivals.take n)),
    List.pairwise_append] at hsorted
  exact hsorted.2.2 e he x hx

/-- An escalation with a number, of a given day. -/
def noteOf (id : Nat) (day : Int) : Escalation where
  id := .ofNat id
  createdAt := .midnight day
  source := .transcript
  referenceId := "attempt"
  reason := "Harbor House call needs human follow-up"
  details := none

/-- One escalation more than the log can hold, on days of their own. -/
def manyNotes : List Escalation := (List.range 1001).map fun i => noteOf i i

theorem exists_of_mem_manyNotes {e : Escalation} (h : e ∈ manyNotes) :
    ∃ i < 1001, noteOf i i = e := by
  obtain ⟨i, hi, he⟩ := List.mem_map.1 h
  exact ⟨i, List.mem_range.1 hi, he⟩

theorem nodup_manyNotes : (manyNotes.map (·.id)).Nodup := by
  unfold manyNotes
  rw [List.map_map]
  refine List.nodup_range.map_on fun i hi j hj hij => ?_
  rw [List.mem_range] at hi hj
  rcases Nat.lt_trichotomy i j with hlt | heq | hgt
  · exact absurd hij (Uuid.ofNat_ne hlt (by omega))
  · exact heq
  · exact absurd hij.symm (Uuid.ofNat_ne hgt (by omega))

/-- Too many escalations, one that is newer still, and then old versions of two of them. -/
def overfull : List Arrival :=
  [.seeded manyNotes, .recorded (noteOf 1001 1001), .seeded [noteOf 1001 7, noteOf 0 0]]

/-- Of so many a thousand are kept, and the old version does not replace the new one. -/
theorem newest_escalations_kept_overfull : overfull.Pairwise Arrival.Precedes ∧
    (logAfter {} overfull).length = 1000 ∧
    ∀ k ∈ logAfter {} overfull, k.id = .ofNat 1001 → Instant.midnight 1001 ≤ k.createdAt := by
  have horder : overfull.Pairwise Arrival.Precedes := by
    refine .cons (fun b hb => ?_) (.cons (fun b hb => ?_) (.cons (by simp) .nil))
    · rcases List.mem_cons.1 hb with rfl | hb
      · refine Arrival.seeded_precedes_recorded.2 fun x hx => ?_
        obtain ⟨i, hi, rfl⟩ := exists_of_mem_manyNotes hx
        have hday : (i : Int) < 1001 := by omega
        exact ⟨Uuid.ofNat_ne hi (by omega), Or.inl hday⟩
      · obtain rfl := List.mem_singleton.1 hb
        trivial
    · obtain rfl := List.mem_singleton.1 hb
      trivial
  obtain ⟨hkeeps, -⟩ := newest_escalations_kept {} overfull horder 3
  have htake : overfull.take 3 = overfull := rfl
  rw [htake] at hkeeps
  refine ⟨horder, ?_, fun k hk hid => ?_⟩
  · have hmany : manyNotes.length ≤ idCount (brought overfull) :=
      length_le_idCount nodup_manyNotes fun k hk =>
        List.mem_map_of_mem (mem_brought_seeded List.mem_cons_self hk)
    have hlength := hkeeps.length_eq
    have hcapacity : capacity = 1000 := rfl
    rw [manyNotes, List.length_map, List.length_range] at hmany
    omega
  · have hgiven : noteOf 1001 1001 ∈ brought overfull :=
      mem_brought_recorded (List.mem_cons_of_mem _ List.mem_cons_self)
    exact (hkeeps.newest k hk).2 _ hgiven hid.symm

end Gate

end ShelterLine
