import ShelterLine.Proofs.Blocking
import ShelterLine.Proofs.Lifecycle
import ShelterLine.Proofs.Snapshot
import ShelterLine.Proofs.Told
import ShelterLine.Store.File

/-!
# What is kept of the block list

A number that is blocked or unblocked is written at once, but a write carries no time: of two writes
about one number the one that is carried out last counts, whichever was issued last. So memory has
what the last issued write about a number says, and the database what the last one says that
arrived, and they are the same exactly where no write about a number overtook a later one.
-/

namespace ShelterLine

open Schema

namespace Write

variable {n : String} {ws ws' : List Write}

/-- What a write says about a number: that it is blocked, or that it is not. -/
def word? (n : String) : Write → Option Bool
  | block m => if m = n then some true else none
  | unblock m => if m = n then some false else none
  | _ => none

/-- What the last of some writes says about a number. -/
def lastWord? (n : String) (ws : List Write) : Option Bool := (ws.filterMap (word? n)).getLast?

theorem lastWord?_append : lastWord? n (ws ++ ws') = (lastWord? n ws').or (lastWord? n ws) := by
  unfold lastWord?
  rw [List.filterMap_append, List.getLast?_append]

theorem lastWord?_singleton (w : Write) : lastWord? n [w] = w.word? n := by
  unfold lastWord?
  rw [List.filterMap_cons]
  cases w.word? n <;> rfl

theorem lastWord?_cons (w : Write) : lastWord? n (w :: ws) = (lastWord? n ws).or (w.word? n) := by
  have happend : lastWord? n ([w] ++ ws) = (lastWord? n ws).or (lastWord? n [w]) := lastWord?_append
  rw [lastWord?_singleton] at happend
  exact happend

/-- In another order there is as much to say, if not the same. -/
theorem lastWord?_isSome_of_perm (h : ws.Perm ws') :
    (lastWord? n ws).isSome = (lastWord? n ws').isSome := by
  have hwords : (ws.filterMap (word? n)).length = (ws'.filterMap (word? n)).length :=
    (h.filterMap (word? n)).length_eq
  unfold lastWord?
  rw [Bool.eq_iff_iff, List.getLast?_isSome, List.getLast?_isSome, ← List.length_pos_iff,
    ← List.length_pos_iff, hwords]

end Write

open Write

/-! ## In memory -/

namespace BlockList

/-- Every number is on the list once, in order. -/
def Sorted (b : BlockList) : Prop := b.numbers.Pairwise (· < ·)

theorem contains_eq_true_iff {b : BlockList} {n : String} : b.contains n = true ↔ n ∈ b.numbers :=
  List.contains_iff_mem

theorem pairwise_insertSorted {n : String} : ∀ {ms : List String}, ms.Pairwise (· < ·) →
    (insertSorted n ms).Pairwise (· < ·)
  | [], _ => List.pairwise_singleton ..
  | m :: ms, h => by
    obtain ⟨hm, hms⟩ := List.pairwise_cons.1 h
    unfold insertSorted
    split
    · rename_i hlt
      refine List.pairwise_cons.2 ⟨fun k hk => ?_, h⟩
      rcases List.mem_cons.1 hk with rfl | hk
      · exact hlt
      · exact String.lt_trans hlt (hm k hk)
    · rename_i hge
      split
      · exact h
      · rename_i hne
        have hlt : m < n := Std.lt_of_le_of_ne (String.not_lt.1 hge) (Ne.symm hne)
        refine List.pairwise_cons.2 ⟨fun k hk => ?_, pairwise_insertSorted hms⟩
        rcases mem_insertSorted.1 hk with rfl | hk
        · exact hlt
        · exact hm k hk

theorem sorted_ofRaw (raws : List String) : (ofRaw raws).Sorted := by
  unfold ofRaw
  generalize raws.filterMap Phone.canonical? = ns
  have hall : ∀ b : BlockList, b.Sorted → (ns.foldl insert b).Sorted := by
    induction ns with
    | nil => exact fun b hb => hb
    | cons n ns ih => exact fun b hb => ih _ (pairwise_insertSorted hb)
  exact hall {} List.Pairwise.nil

theorem Sorted.add {b : BlockList} (h : b.Sorted) (raw : String) : (b.add raw).2.Sorted := by
  unfold BlockList.add
  cases Phone.canonical? raw with
  | none => exact h
  | some n => exact pairwise_insertSorted h

theorem Sorted.remove {b : BlockList} (h : b.Sorted) (raw : String) : (b.remove raw).2.Sorted := by
  unfold BlockList.remove
  cases Phone.canonical? raw with
  | none => exact h
  | some n => exact h.filter _

/-- Every number on the list is in canonical form. -/
def Canonical (b : BlockList) : Prop := ∀ n ∈ b.numbers, Phone.canonical? n = some n

theorem mem_foldl_insert {n : String} {ns : List String} {b : BlockList} :
    n ∈ (ns.foldl insert b).numbers ↔ n ∈ ns ∨ n ∈ b.numbers := by
  induction ns generalizing b with
  | nil => simp
  | cons m ns ih =>
    rw [List.foldl_cons, ih, List.mem_cons, or_assoc, or_left_comm]
    exact or_congr_right mem_insertSorted

/-- A configured list has the numbers that are spelled in the configuration. -/
theorem mem_ofRaw {raws : List String} {n : String} :
    n ∈ (ofRaw raws).numbers ↔ ∃ raw ∈ raws, Phone.canonical? raw = some n := by
  unfold ofRaw
  rw [mem_foldl_insert, List.mem_filterMap]
  exact or_iff_left List.not_mem_nil

theorem canonical_ofRaw (raws : List String) : (ofRaw raws).Canonical := by
  intro n hn
  obtain ⟨raw, -, hraw⟩ := mem_ofRaw.1 hn
  exact Phone.canonical?_of_canonical? hraw

theorem Canonical.add {b : BlockList} (h : b.Canonical) (raw : String) :
    (b.add raw).2.Canonical := by
  unfold BlockList.add
  cases hraw : Phone.canonical? raw with
  | none => exact h
  | some n =>
    intro m hm
    rcases mem_insertSorted.1 hm with rfl | hm
    · exact Phone.canonical?_of_canonical? hraw
    · exact h m hm

theorem Canonical.remove {b : BlockList} (h : b.Canonical) (raw : String) :
    (b.remove raw).2.Canonical := by
  unfold BlockList.remove
  cases Phone.canonical? raw with
  | none => exact h
  | some n => exact fun m hm => h m (List.mem_filter.1 hm).1

theorem contains_add (b : BlockList) (raw n : String) :
    (b.add raw).2.contains n = (decide (Phone.canonical? raw = some n) || b.contains n) := by
  rw [Bool.eq_iff_iff, Bool.or_eq_true, decide_eq_true_eq, contains_eq_true_iff,
    contains_eq_true_iff]
  unfold add
  cases Phone.canonical? raw with
  | none => simp
  | some m =>
    rw [Option.some.injEq, eq_comm]
    exact mem_insertSorted

theorem contains_remove (b : BlockList) (raw n : String) :
    (b.remove raw).2.contains n = (decide (Phone.canonical? raw ≠ some n) && b.contains n) := by
  rw [Bool.eq_iff_iff, Bool.and_eq_true, decide_eq_true_eq, contains_eq_true_iff,
    contains_eq_true_iff]
  unfold remove
  cases Phone.canonical? raw with
  | none => simp
  | some m =>
    rw [ne_eq, Option.some.injEq, List.mem_filter, decide_eq_true_eq, and_comm]
    exact and_congr_left' (not_congr eq_comm)

end BlockList

namespace Desk

variable {s : Surroundings} {d d' : Desk} {b : BlockList}

/-- The block list is what it was at first, as the writes about its numbers have changed it. -/
structure Records (b : BlockList) (d : Desk) : Prop where
  sorted : d.gate.blocked.Sorted
  canonical : d.gate.blocked.Canonical
  contains_eq : ∀ n, d.gate.blocked.contains n = (lastWord? n d.writes).getD (b.contains n)

theorem records_ofConfig (c : SafetyConfig) : Records (.ofRaw c.blockedNumbers) (ofConfig c) :=
  ⟨BlockList.sorted_ofRaw _, BlockList.canonical_ofRaw _, fun _ => rfl⟩

/-- What says nothing about numbers leaves the block list alone. -/
theorem Records.of_blocked (h : Records b d) {ws : List Write}
    (hblocked : d'.gate.blocked = d.gate.blocked) (hwrites : d'.writes = d.writes ++ ws)
    (hsilent : ∀ n, ∀ w ∈ ws, w.word? n = none) : Records b d' := by
  refine ⟨hblocked ▸ h.sorted, hblocked ▸ h.canonical, fun n => ?_⟩
  have hnone : lastWord? n ws = none := by
    unfold lastWord?
    rw [List.filterMap_eq_nil_iff.2 (hsilent n)]
    rfl
  rw [hblocked, h.contains_eq, hwrites, lastWord?_append, hnone, Option.none_or]

theorem Records.block (h : Records b d) (raw : String) : Records b (d.block raw).2 := by
  refine ⟨block_blocked raw d ▸ h.sorted.add raw, block_blocked raw d ▸ h.canonical.add raw,
    fun n => ?_⟩
  rw [block_blocked, BlockList.contains_add, writes_block, lastWord?_append, Option.getD_or,
    ← h.contains_eq]
  cases hraw : Phone.canonical? raw with
  | none => rfl
  | some m =>
    -- what was blocked already is not written again
    cases hm : d.gate.blocked.contains m with
    | false =>
      rw [Option.filter_some, if_pos (by rw [hm]; rfl), Option.toList_some, List.map_singleton,
        lastWord?_singleton]
      by_cases hmn : m = n <;> simp [Write.word?, hmn]
    | true =>
      rw [Option.filter_some, if_neg (by rw [hm]; simp), Option.toList_none, List.map_nil]
      by_cases hmn : m = n
      · rw [← hmn, hm, Bool.or_true]
        rfl
      · simp [hmn, lastWord?]

theorem Records.unblock (h : Records b d) (raw : String) : Records b (d.unblock raw).2 := by
  refine ⟨unblock_blocked raw d ▸ h.sorted.remove raw,
    unblock_blocked raw d ▸ h.canonical.remove raw, fun n => ?_⟩
  rw [unblock_blocked, BlockList.contains_remove, writes_unblock, lastWord?_append, Option.getD_or,
    ← h.contains_eq]
  cases hraw : Phone.canonical? raw with
  | none => rfl
  | some m =>
    -- what was not blocked is not written
    cases hm : d.gate.blocked.contains m with
    | false =>
      rw [Option.filter_some, if_neg (by rw [hm]; simp), Option.toList_none, List.map_nil]
      by_cases hmn : m = n
      · rw [← hmn, hm, Bool.and_false]
        rfl
      · simp [hmn, lastWord?]
    | true =>
      rw [Option.filter_some, if_pos hm, Option.toList_some, List.map_singleton,
        lastWord?_singleton]
      by_cases hmn : m = n <;> simp [Write.word?, hmn]

/-- **Every change of the block list is written, and nothing else is written about it.** -/
theorem Change.records (h : Change s d d') (hd : Records b d) : Records b d' := by
  cases h with
  | acted e outward =>
    exact hd.of_blocked rfl ((writes_outward outward d).trans (List.append_nil _).symm) (by simp)
  | counted => exact hd.of_blocked rfl (List.append_nil _).symm (by simp)
  | marked noSid h => exact hd.of_blocked rfl (List.append_nil _).symm (by simp)
  | forgotten => exact hd.of_blocked rfl (List.append_nil _).symm (by simp)
  | registered n now r callback accepted =>
    exact hd.of_blocked rfl (writes_jobChanged ..) (by simp [Write.word?])
  | patched noSid h => exact hd.of_blocked rfl (writes_jobChanged ..) (by simp [Write.word?])
  | bound h => exact hd.of_blocked rfl (writes_jobChanged ..) (by simp [Write.word?])
  | opened n mode input made =>
    exact hd.of_blocked rfl (writes_sessionChanged ..) (by simp [Write.word?])
  | moved h => exact hd.of_blocked rfl (writes_sessionChanged ..) (by simp [Write.word?])
  | joined h => exact hd.of_blocked rfl (writes_sessionChanged ..) (by simp [Write.word?])
  | escalated e => exact hd.of_blocked rfl (writes_escalated ..) (by simp [Write.word?])
  | blocked raw => exact hd.block raw
  | unblocked raw => exact hd.unblock raw

theorem run_records (c : SafetyConfig) {ops : List (Surroundings × Operation)}
    (hmemory : Unrestored ops) : Records (.ofRaw c.blockedNumbers) ((ofConfig c).run ops) := by
  induction ops using List.reverseRecOn with
  | nil => exact records_ofConfig c
  | append_singleton ops last ih =>
    obtain ⟨s, op⟩ := last
    rw [run_append]
    exact (perform_changes s _ (hmemory (s, op) (by simp))).keeps
      (fun _ _ hstep => hstep.records) (ih hmemory.left)

end Desk

/-! ## In the database -/

namespace Database

variable {db : Database} {ws : List Write}

/-- A number that is in the table already is not put there again. -/
theorem put_id_cons (n : String) (r : Option String) (rows : List (Option String)) :
    Table.put id (fun old _ => old) (some n) (r :: rows) =
      if r = some n then r :: rows else r :: Table.put id (fun old _ => old) (some n) rows := by
  by_cases hr : r = some n
  · rw [if_pos hr]
    exact Table.put_of_key_eq (k := n) rfl hr
  · rw [if_neg hr]
    exact Table.put_of_key_ne fun h => hr h.2

theorem mem_put_id {n : String} {rows : List (Option String)} {r : Option String} :
    r ∈ Table.put id (fun old _ => old) (some n) rows ↔ r = some n ∨ r ∈ rows := by
  induction rows with
  | nil => simp [Table.put]
  | cons q rows ih =>
    rw [put_id_cons]
    split
    · rename_i hq
      simp [hq]
    · rw [List.mem_cons, ih, List.mem_cons]
      exact or_left_comm

theorem nodup_put_id {n : String} {rows : List (Option String)} (h : rows.Nodup) :
    (Table.put id (fun old _ => old) (some n) rows).Nodup := by
  induction rows with
  | nil => exact List.nodup_singleton _
  | cons q rows ih =>
    obtain ⟨hq, hrows⟩ := List.nodup_cons.1 h
    rw [put_id_cons]
    split
    · exact h
    · rename_i hne
      exact List.nodup_cons.2 ⟨fun hmem => (mem_put_id.1 hmem).elim hne hq, ih hrows⟩

/-- A number is in the table if the last write that was carried out about it put it there. -/
theorem mem_blocked_absorb (h : db.hasTable blockedTable) (w : Write) (n : String) :
    some n ∈ (db.absorb w).blocked ↔ (w.word? n).getD (decide (some n ∈ db.blocked)) = true := by
  cases w with
  | block m =>
    rw [absorb_eq rfl, if_pos h]
    have hmem : some n ∈ Table.put id (fun old _ => old) (some m) db.blocked ↔ _ := mem_put_id
    refine hmem.trans ?_
    by_cases hmn : m = n
    · simp [Write.word?, hmn]
    · simp [Write.word?, hmn, Ne.symm hmn]
  | unblock m =>
    rw [absorb_eq rfl, if_pos h]
    change some n ∈ db.blocked.filter _ ↔ _
    by_cases hmn : m = n
    · simp [Write.word?, hmn]
    · simp [Write.word?, hmn, Ne.symm hmn]
  | job | session | escalation =>
    rw [absorb_eq rfl]
    split <;> simp [Write.word?]

theorem nodup_blocked_absorb (hn : db.blocked.Nodup) (w : Write) : (db.absorb w).blocked.Nodup := by
  cases w with
  | block m =>
    rw [absorb_eq rfl]
    split
    · exact nodup_put_id hn
    · exact hn
  | unblock m =>
    rw [absorb_eq rfl]
    split
    · exact hn.filter _
    · exact hn
  | job | session | escalation =>
    rw [absorb_eq rfl]
    split <;> exact hn

theorem mem_blocked_absorbAll (h : db.hasTable blockedTable) (ws : List Write) (n : String) :
    some n ∈ (db.absorbAll ws).blocked ↔
      (lastWord? n ws).getD (decide (some n ∈ db.blocked)) = true := by
  induction ws generalizing db with
  | nil => exact decide_eq_true_iff.symm
  | cons w ws ih =>
    refine (ih ((hasTable_absorb w blockedTable).trans h)).trans ?_
    have hfirst : decide (some n ∈ (db.absorb w).blocked) =
        (w.word? n).getD (decide (some n ∈ db.blocked)) := by
      rw [Bool.eq_iff_iff, decide_eq_true_eq]
      exact mem_blocked_absorb h w n
    rw [hfirst, lastWord?_cons, Option.getD_or]

theorem nodup_blocked_absorbAll (hn : db.blocked.Nodup) (ws : List Write) :
    (db.absorbAll ws).blocked.Nodup := by
  induction ws generalizing db with
  | nil => exact hn
  | cons w ws ih => exact ih (nodup_blocked_absorb hn w)

/-- What is loaded is what is kept, in order. -/
theorem loadBlocked_spec (h : db.hasTable blockedTable) (hn : db.blocked.Nodup) :
    ∃ loaded, db.loadBlocked = .ok loaded ∧ loaded.Pairwise (· < ·) ∧
      ∀ n, n ∈ loaded ↔ some n ∈ db.blocked := by
  refine ⟨_, if_pos h, ?_, fun n => ?_⟩
  · have hle : ((db.blocked.filterMap id).mergeSort fun a b => a ≤ b).Pairwise
        fun a b => decide (a ≤ b) = true := by
      refine List.pairwise_mergeSort (fun a b c hab hbc => decide_eq_true ?_) (fun a b => ?_) _
      · exact String.le_trans (of_decide_eq_true hab) (of_decide_eq_true hbc)
      · simpa using String.le_total a b
    have hnodup : ((db.blocked.filterMap id).mergeSort fun a b => a ≤ b).Nodup := by
      refine (List.mergeSort_perm ..).nodup_iff.2 (hn.filterMap fun a a' n ha ha' => ?_)
      exact (Option.mem_def.1 ha).trans (Option.mem_def.1 ha').symm
    exact (hle.and hnodup).imp fun ⟨hab, hne⟩ => Std.lt_of_le_of_ne (of_decide_eq_true hab) hne
  · rw [List.mem_mergeSort, List.mem_filterMap]
    constructor
    · rintro ⟨r, hr, rfl⟩
      exact hr
    · exact fun hr => ⟨some n, hr, rfl⟩

end Database

/-- A database that was just made. -/
def Database.fresh : Database where
  objects := [⟨.table, ledgerTable⟩, ⟨.table, jobTable⟩, ⟨.table, sessionTable⟩,
    ⟨.table, escalationTable⟩, ⟨.table, blockedTable⟩, ⟨.index, "idx_call_jobs_updated_at"⟩,
    ⟨.index, "idx_warm_transfers_updated_at"⟩, ⟨.index, "idx_escalation_events_created_at"⟩]
  ledger := { rows := [(1, "initial_schema"), (2, "recency_indexes")] }

theorem DatabaseFile.open_missing : DatabaseFile.missing.open = .ok .fresh := by decide +kernel

/-! ## Both -/

/-- Ordered lists are the same if they have the same members. -/
theorem eq_iff_of_pairwise_lt {ns ms : List String} (hn : ns.Pairwise (· < ·))
    (hm : ms.Pairwise (· < ·)) : ns = ms ↔ ∀ n, n ∈ ns ↔ n ∈ ms := by
  constructor
  · rintro rfl n
    exact Iff.rfl
  · intro h
    have hnodup : ∀ {ks : List String}, ks.Pairwise (· < ·) → ks.Nodup := fun hk =>
      hk.imp fun hlt heq => absurd (heq ▸ hlt) (String.lt_irrefl _)
    refine List.Perm.eq_of_pairwise (fun a b _ _ hab hba => ?_) hn hm
      ((List.perm_ext_iff_of_nodup (hnodup hn) (hnodup hm)).2 h)
    exact absurd (String.lt_trans hab hba) (String.lt_irrefl _)

namespace Desk

/-- **The order in which writes arrive decides what is kept of the block list.** Starting with
nothing blocked and nothing kept, memory has the numbers whose last issued write blocks them, and
a load gives the numbers whose last executed write does, whatever the order in which the issued
writes are executed. They are the same if and only if for every number the write that was
executed last was issued last. -/
theorem blocked_kept_iff (c : SafetyConfig) (hnone : c.blockedNumbers = [])
    (ops : List (Surroundings × Operation)) (hmemory : Unrestored ops) (db : Database)
    (htable : db.hasTable blockedTable) (hempty : db.blocked = []) (ws : List Write)
    (hws : ws.Perm ((ofConfig c).run ops).writes) :
    ∃ loaded, (db.absorbAll ws).loadBlocked = .ok loaded ∧
      (∀ n, n ∈ loaded ↔ lastWord? n ws = some true) ∧
      (∀ n, n ∈ ((ofConfig c).run ops).gate.blocked.numbers ↔
        lastWord? n ((ofConfig c).run ops).writes = some true) ∧
      (loaded = ((ofConfig c).run ops).gate.blocked.numbers ↔
        ∀ n, lastWord? n ws = lastWord? n ((ofConfig c).run ops).writes) := by
  have hrecords := run_records c hmemory
  obtain ⟨loaded, hload, hsorted, hmem⟩ := Database.loadBlocked_spec
    ((Database.hasTable_absorbAll ws blockedTable).trans htable)
    (Database.nodup_blocked_absorbAll (hempty ▸ List.nodup_nil) ws)
  have hloaded : ∀ n, n ∈ loaded ↔ lastWord? n ws = some true := by
    intro n
    rw [hmem, Database.mem_blocked_absorbAll htable, hempty]
    cases lastWord? n ws <;> simp
  have hblocked : ∀ n, n ∈ ((ofConfig c).run ops).gate.blocked.numbers ↔
      lastWord? n ((ofConfig c).run ops).writes = some true := by
    intro n
    have hfree : (BlockList.ofRaw c.blockedNumbers).contains n = false := by
      rw [hnone]
      rfl
    rw [← BlockList.contains_eq_true_iff, hrecords.contains_eq, hfree]
    cases lastWord? n ((ofConfig c).run ops).writes <;> simp
  refine ⟨loaded, hload, hloaded, hblocked, ?_⟩
  rw [eq_iff_of_pairwise_lt hsorted hrecords.sorted]
  refine forall_congr' fun n => ?_
  rw [hloaded, hblocked]
  -- both orders have a word about the number or neither has, and there are only two words
  have hsome := lastWord?_isSome_of_perm (n := n) hws
  generalize lastWord? n ws = word at hsome ⊢
  generalize lastWord? n ((ofConfig c).run ops).writes = word' at hsome ⊢
  rcases word with _ | _ | _ <;> rcases word' with _ | _ | _ <;> simp at hsome ⊢

/-- A number is blocked and unblocked again, and another is blocked in between. -/
def passingBlock : List (Surroundings × Operation) :=
  [(.calm, .block "212-555-0123"), (.calm, .block "212-555-0199"),
    (.calm, .unblock "(212) 555-0123")]

theorem unrestored_passingBlock : Unrestored passingBlock := by
  intro p hp stored
  simp only [passingBlock, List.mem_cons, List.not_mem_nil, or_false] at hp
  rcases hp with rfl | rfl | rfl <;> exact Operation.noConfusion

theorem writes_passingBlock : ((ofConfig {}).run passingBlock).writes =
    [.block "+12125550123", .block "+12125550199", .unblock "+12125550123"] := by decide +kernel

/-- Writes about different numbers may overtake each other. -/
theorem blocked_kept_iff_passingBlock :
    (Database.fresh.absorbAll
      [.block "+12125550199", .block "+12125550123", .unblock "+12125550123"]).loadBlocked =
        .ok ((ofConfig {}).run passingBlock).gate.blocked.numbers := by
  have hws : [Write.block "+12125550199", .block "+12125550123", .unblock "+12125550123"].Perm
      ((ofConfig {}).run passingBlock).writes := by
    rw [writes_passingBlock]
    exact List.Perm.swap ..
  obtain ⟨loaded, hload, -, -, hsame⟩ :=
    blocked_kept_iff {} rfl passingBlock unrestored_passingBlock .fresh (by decide) rfl _ hws
  have hwords : ∀ n, lastWord? n
      [Write.block "+12125550199", .block "+12125550123", .unblock "+12125550123"] =
        lastWord? n ((ofConfig {}).run passingBlock).writes := by
    intro n
    rw [writes_passingBlock]
    -- whatever the number is, the writes about it are in one order
    by_cases h : "+12125550123" = n
    · simp [lastWord?_cons, Write.word?, h]
    · by_cases h' : "+12125550199" = n <;> simp [lastWord?, Write.word?, h, h']
  rw [hload, hsame.2 hwords]

/-- A number that is no longer blocked is kept as blocked if its removal overtook its addition. -/
theorem blocked_not_kept_overtaken : ∃ ws : List Write,
    ws.Perm ((ofConfig {}).run
      [(.calm, .block "212-555-0123"), (.calm, .unblock "212-555-0123")]).writes ∧
    ((ofConfig {}).run [(.calm, .block "212-555-0123"),
      (.calm, .unblock "212-555-0123")]).gate.blocked.numbers = [] ∧
    (Database.fresh.absorbAll ws).loadBlocked = .ok ["+12125550123"] := by
  have hwrites : ((ofConfig {}).run
      [(.calm, .block "212-555-0123"), (.calm, .unblock "212-555-0123")]).writes =
        [.block "+12125550123", .unblock "+12125550123"] := by decide +kernel
  refine ⟨[.unblock "+12125550123", .block "+12125550123"],
    ?_, by decide +kernel, by decide +kernel⟩
  rw [hwrites]
  exact List.Perm.swap ..

end Desk

end ShelterLine
