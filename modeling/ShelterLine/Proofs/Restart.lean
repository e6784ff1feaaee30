import ShelterLine.Proofs.Kept
import ShelterLine.Service

/-!
# Restarts

A service that starts over with the database that it wrote to has what it had before, apart from
what is less than a microsecond. The argument goes over a run from turn to turn, since every turn
keeps the tables up to date, and over taking in what the database has by then, which changes nothing
but the order of the log.
-/

namespace ShelterLine

/-- Everything that a service keeps is written, in order. -/
theorem Service.database_settle {s : Service} {db : Database}
    (h : s.sink = { database := some db }) :
    s.settle.2.sink.database = some (db.absorbAll s.desk.writes) := by
  have hall : ∀ (effects : List Effect) (t : Service) (db : Database),
      t.sink = { database := some db } → (effects.foldl handOn t).sink =
        { database := some (db.absorbAll (effects.filterMap Effect.write?)) } := by
    intro effects
    induction effects with
    | nil => exact fun t db ht => ht
    | cons e effects ih =>
      intro t db ht
      rw [List.foldl_cons, List.filterMap_cons]
      cases e with
      | keep w =>
        exact ih (t.handOn (.keep w)) (db.absorb w) (by unfold handOn Sink.write; rw [ht]; rfl)
      | publish e => exact ih (t.handOn (.publish e)) db ht
      | call | message | question => exact ih t db ht
  unfold Service.settle Desk.writes
  rw [← List.filterMap_reverse]
  exact congrArg Sink.database (hall _ { s with desk.trace := [] } db h)

namespace Desk

variable {c : SafetyConfig} {db : Database} {ops : List (Surroundings × Operation)}
  {s : Surroundings} {d : Desk} {now : Instant}

/-! ## Runs that can be recovered -/

/-- A run that can be recovered: nothing is forgotten, and what is taken in is what has been kept by
then; identifiers and SIDs are new, the clock does not go back, and there is never more than a start
takes in. -/
structure Recoverable (c : SafetyConfig) (db : Database) (ops : List (Surroundings × Operation)) :
    Prop where
  blank : db.Blank
  remembers : ∀ p ∈ ops, Remembers p.1 p.2
  takesIn : ∀ before s stored after, ops = before ++ (s, .restore stored) :: after →
    (db.absorbAll ((ofConfig c).run before).writes).stored = .ok stored
  ids : FreshIds ops
  records : FreshRecords ops
  sids : DistinctSids ops
  clock : Clocked ops
  within : ∀ before, before <+: ops → Within ((ofConfig c).run before)

/-- Taking in what has been kept changes nothing but the order of the log. -/
theorem Keeps.restore (h : Keeps c db ops now d) (hdb : db.Blank) (hwithin : Within d)
    {stored : Stored} (hstored : (db.absorbAll d.writes).stored = .ok stored) :
    ∃ log, log.Perm d.gate.escalations ∧
      (d.restore stored).2 = { d with gate.escalations := log } := by
  obtain ⟨stored', hstored', hjobs, hsessions, hescalations, hblocked⟩ := h.stored hdb hwithin
  obtain rfl : stored = stored' := Except.ok.inj (hstored.symm.trans hstored')
  have hlog : (EscalationLog.seed d.gate.escalations stored.escalations).Perm
      d.gate.escalations := by
    refine EscalationLog.seed_perm_log h.escalations.ids
      (h.escalations.length ▸ hwithin.escalations) fun e he => ?_
    obtain ⟨k, hk, rfl⟩ := List.mem_map.1 (hescalations.mem_iff.1 he)
    exact ⟨k, hk, rfl⟩
  have hnumbers := BlockList.takeIn_add_same h.blocked.sorted h.blocked.canonical fun n hn => by
    rw [← BlockList.contains_eq_true_iff, h.blocked.contains_eq, (hblocked n).1 hn]
    rfl
  have hsame := JobRegister.takeIn_restore_same fun j hj => by
    obtain ⟨k, hk, rfl⟩ := List.mem_map.1 (hjobs.mem_iff.1 hj)
    exact ⟨k, hk, rfl⟩
  have hsame' := TransferRegister.takeIn_restore_same fun t ht => by
    obtain ⟨k, hk, rfl⟩ := List.mem_map.1 (hsessions.mem_iff.1 ht)
    exact ⟨k, hk, rfl⟩
  refine ⟨_, hlog, ?_⟩
  unfold Desk.restore
  rw [hnumbers, hsame, hsame']
  rfl

/-- What is kept does not depend on the order of the log. -/
theorem Keeps.of_perm (h : Keeps c db ops now d) {log : List Escalation}
    (hlog : log.Perm d.gate.escalations) :
    Keeps c db ops now { d with gate.escalations := log } where
  jobs := ⟨h.jobs.rows, h.jobs.ids, h.jobs.times⟩
  sessions := ⟨h.sessions.rows, h.sessions.keyed, h.sessions.coherent, h.sessions.times,
    h.sessions.made, h.sessions.length⟩
  escalations := ⟨h.escalations.rows.trans (hlog.symm.map _),
    (hlog.map _).nodup_iff.2 h.escalations.ids,
    fun e he => h.escalations.times e (hlog.mem_iff.1 he),
    fun e he => h.escalations.made e (hlog.mem_iff.1 he),
    hlog.length_eq.trans h.escalations.length⟩
  blocked := ⟨h.blocked.sorted, h.blocked.canonical, h.blocked.contains_eq⟩

/-- What leaves the jobs alone leaves their origin alone. -/
theorem Grounded.of_jobs_eq (h : Grounded c ops) {op : Operation}
    (hjobs : ((ofConfig c).run (ops ++ [(s, op)])).jobs = ((ofConfig c).run ops).jobs)
    (hmade : ((ofConfig c).run (ops ++ [(s, op)])).made = ((ofConfig c).run ops).made) :
    Grounded c (ops ++ [(s, op)]) := by
  refine ⟨hjobs ▸ h.sound, ?_, fun j hj => ?_⟩
  · rw [hmade, List.length_append]
    exact Nat.le_trans h.counted (Nat.le_add_right ..)
  · rw [hjobs] at hj
    obtain ⟨before, s₀, r₀, after, rfl, hlt, hb⟩ := h.created j hj
    exact ⟨before, s₀, r₀, after ++ [(s, op)], by simp, hmade ▸ hlt, hb⟩

/-- **All along a run everything is kept.** -/
theorem Recoverable.keeps (h : Recoverable c db ops) (before : List (Surroundings × Operation))
    (hbefore : before <+: ops) : Grounded c before ∧
      Names (Granted ops) ((ofConfig c).run before).made.calls ((ofConfig c).run before) ∧
      ∀ now, (∀ p ∈ before, p.1.now ((ofConfig c).run before).readings ≤ now) →
        Keeps c db ops now ((ofConfig c).run before) := by
  induction before using List.reverseRecOn with
  | nil =>
    exact ⟨⟨JobRegister.sound_empty _, Nat.le_refl _, fun j hj => absurd hj List.not_mem_nil⟩,
      names_ofConfig c, fun now _ => keeps_ofConfig h.blank now⟩
  | append_singleton before last ih =>
    obtain ⟨s, op⟩ := last
    obtain ⟨after, hops⟩ := hbefore
    rw [List.append_assoc, List.singleton_append] at hops
    have hprefix : before <+: ops := ⟨_, hops⟩
    have hmem : (s, op) ∈ ops := hops ▸ by simp
    have hpast : ∀ p ∈ before, ∀ n, p.1.now n ≤ s.now n := by
      intro p hp
      have hordered := h.clock.ordered
      rw [← hops] at hordered
      exact (List.pairwise_append.1 hordered).2.2 p hp (s, op) List.mem_cons_self
    obtain ⟨hgrounded, hnames, hkeeps⟩ := ih hprefix
    have hbefore := hkeeps _ fun p hp => hpast p hp _
    have hwithin := h.within (before ++ [(s, op)]) ⟨after, by simp [hops]⟩
    by_cases hop : ∃ stored, op = .restore stored
    · -- what is taken in is there already
      obtain ⟨stored, rfl⟩ := hop
      obtain ⟨log, hlog, hrestored⟩ := hbefore.restore h.blank (h.within before hprefix)
        (h.takesIn before s stored after hops.symm)
      have hrun : (ofConfig c).run (before ++ [(s, .restore stored)]) =
          { (ofConfig c).run before with gate.escalations := log } := by
        rw [run_concat]
        exact hrestored
      refine ⟨hgrounded.of_jobs_eq (by rw [hrun]) (by rw [hrun]), ?_, fun now hnow => ?_⟩
      · rw [hrun]
        exact ⟨hnames.attempts, hnames.legs⟩
      · rw [hrun] at hnow ⊢
        exact (hbefore.of_perm hlog).mono (hnow (s, .restore stored) (by simp))
    · have hmemory : ∀ stored, op ≠ .restore stored := fun stored hstored => hop ⟨stored, hstored⟩
      have hfresh : FreshIds (before ++ [(s, op)]) := by
        have hids := h.ids
        rw [← hops, ← List.singleton_append, ← List.append_assoc] at hids
        exact hids.left
      have hgoes : Goes (Granted ops) s True _ _ := perform_goes (h.sids.gives hmem) hnames
        (h.remembers (s, op) hmem) hmemory fun _ r hr => (hgrounded.next hfresh r hr).1
      rw [← run_concat] at hgoes
      refine ⟨hgrounded.perform hfresh hmemory, hgoes.names, fun now hnow => ?_⟩
      exact (hgoes.turns.keeps h.blank h.clock h.records ⟨op, hmem⟩ hwithin.transfers
        hwithin.escalations hbefore).mono (hnow (s, op) (by simp))

/-! ## Starting over -/

/-- `d'` has what `d` has, with times cut to microseconds, and its log has the newest first. What
`d` blocks is blocked. -/
structure Recovers (d d' : Desk) : Prop where
  jobs : d'.jobs.jobs.Perm (d.jobs.jobs.map Job.toMicros)
  transfers : d'.transfers.sessions.Perm (d.transfers.sessions.map Session.toMicros)
  attempts : ∀ sid, d'.jobs.findSid? sid =
    (d.jobs.findSid? sid).map fun found => (found.1.toMicros, found.2)
  legs : ∀ sid, d'.transfers.findSid? sid =
    (d.transfers.findSid? sid).map fun found => (found.1.toMicros, found.2)
  escalations : d'.gate.escalations.Perm (d.gate.escalations.map Escalation.toMicros)
  newestFirst : EscalationLog.NewestFirst d'.gate.escalations
  blocked : ∀ raw, d.gate.blocked.blocks raw = true → d'.gate.blocked.blocks raw = true

/-- A desk that just started takes in what was kept. -/
theorem Keeps.recovers (h : Keeps c db ops now d) (hdb : db.Blank) (hwithin : Within d)
    (hkeyed : d.jobs.Keyed) (hcoherent : d.jobs.Coherent) (made : Tally) (readings : Nat) :
    ∃ stored, (db.absorbAll d.writes).stored = .ok stored ∧
      d.Recovers ({ ofConfig c with made, readings }.restore stored).2 := by
  obtain ⟨stored, hstored, hjobs, hsessions, hescalations, hblocked⟩ := h.stored hdb hwithin
  obtain ⟨jobs, hjobsIn, hjobsPerm, hattempts⟩ :=
    JobRegister.takeIn_restore_own hkeyed hcoherent hjobs
  obtain ⟨transfers, hsessionsIn, hsessionsPerm, hlegs⟩ :=
    TransferRegister.takeIn_restore_own h.sessions.keyed h.sessions.coherent hsessions
  have hids : (stored.escalations.map (·.id)).Nodup := by
    refine (hescalations.map _).nodup_iff.2 ?_
    rw [List.map_map]
    exact h.escalations.ids
  have hlength : stored.escalations.length ≤ EscalationLog.capacity := by
    rw [hescalations.length_eq, List.length_map, h.escalations.length]
    exact hwithin.escalations
  have hrestored : ({ ofConfig c with made, readings }.restore stored).2 = { ofConfig c with
      made, readings, jobs, transfers
      gate.blocked := (takeIn (fun b raw => ((b.add raw).1.changed, (b.add raw).2))
        (.ofRaw c.blockedNumbers) stored.blocked).2
      gate.escalations := EscalationLog.seed [] stored.escalations } := by
    unfold Desk.restore
    dsimp only [ofConfig]
    rw [hjobsIn, hsessionsIn]
    rfl
  refine ⟨stored, hstored, ?_⟩
  rw [hrestored]
  refine ⟨hjobsPerm, hsessionsPerm, hattempts, hlegs,
    (EscalationLog.seed_perm_stored hids hlength).trans hescalations,
    EscalationLog.newestFirst_seed [] stored.escalations, fun raw hraw => ?_⟩
  obtain ⟨n, hn, hmem⟩ := BlockList.blocks_eq_true_iff.1 hraw
  refine BlockList.blocks_eq_true_iff.2 ⟨n, hn, BlockList.mem_takeIn_add ?_⟩
  -- the last word about the number is that it is blocked, or there is none and it was configured
  have hword := h.blocked.contains_eq n
  rw [BlockList.contains_eq_true_iff.2 hmem] at hword
  cases hlast : Write.lastWord? n d.writes with
  | none =>
    rw [hlast] at hword
    exact Or.inl (BlockList.contains_eq_true_iff.1 hword.symm)
  | some blocked =>
    rw [hlast] at hword
    obtain rfl : true = blocked := hword
    exact Or.inr ⟨n, (hblocked n).2 hlast, h.blocked.canonical n hmem⟩

/-- **A restart loses nothing.** A service that wrote to a blank database and starts over has all
jobs, transfers and escalations again, with times cut to microseconds; every SID belongs to the
attempt or the leg that it belonged to, and what was blocked is blocked. -/
theorem restart_recovers (h : Recoverable c db ops) (bus : Bus Event) :
    ∃ counts after,
      (Service.settle ⟨(ofConfig c).run ops, bus, { database := some db }⟩).2.restart c =
        .ok (counts, after) ∧ ((ofConfig c).run ops).Recovers after.desk := by
  obtain ⟨hgrounded, -, hkeeps⟩ := h.keeps ops (List.prefix_refl ops)
  obtain ⟨now, hnow⟩ : ∃ now : Instant, ∀ p ∈ ops,
      p.1.now ((ofConfig c).run ops).readings ≤ now := by
    rcases List.eq_nil_or_concat' ops with rfl | ⟨before, last, rfl⟩
    · exact ⟨.midnight 0, fun p hp => absurd hp List.not_mem_nil⟩
    · refine ⟨last.1.now ((ofConfig c).run (before ++ [last])).readings, fun p hp => ?_⟩
      rcases List.mem_append.1 hp with hp | hp
      · exact (List.pairwise_append.1 h.clock.ordered).2.2 p hp last
          (List.mem_singleton_self last) _
      · rw [List.mem_singleton.1 hp]
        exact Instant.le_refl _
  generalize hsettled :
    (Service.settle ⟨(ofConfig c).run ops, bus, { database := some db }⟩).2 = settled
  have hdatabase := Service.database_settle
    (s := ⟨(ofConfig c).run ops, bus, { database := some db }⟩) rfl
  rw [hsettled] at hdatabase
  obtain ⟨stored, hstored, hrecovers⟩ := (hkeeps now hnow).recovers h.blank
    (h.within ops (List.prefix_refl ops)) hgrounded.sound.keyed hgrounded.sound.coherent
    settled.desk.made settled.desk.readings
  rcases hrestored : Desk.restore stored { ofConfig c with
    made := settled.desk.made, readings := settled.desk.readings } with ⟨counts, desk⟩
  rw [hrestored] at hrecovers
  refine ⟨counts, { settled with desk, bus := {} }, ?_, hrecovers⟩
  unfold Service.restart
  rw [hdatabase]
  dsimp only
  rw [hstored]
  change Except.ok ((Desk.restore stored _).1, _) = _
  rw [hrestored]

/-- Calm surroundings with a clock that ticks whenever it is read, up to the last
second of its day. -/
def ticking : Surroundings :=
  { Surroundings.calm with now := fun n => ⟨0, min n 86399, 0, by omega, by split <;> decide⟩ }

theorem runs_ticking : ticking.now.Runs where
  ordered m n h := by
    have hseconds : min m 86399 ≤ min n 86399 := by omega
    exact .inr ⟨rfl, (Nat.lt_or_eq_of_le hseconds).imp_right fun heq => ⟨heq, Nat.le_refl 0⟩⟩
  years n := by
    change (Instant.midnight 0).FourDigitYear
    decide

/-- Two jobs, one of which is escalated, a report on a call of the first, a transfer to its shelter,
and a number that is blocked. -/
def busyRun : List (Surroundings × Operation) :=
  [(ticking, .startJob twoShelters), (ticking, .block "212-555-0199"),
    (ticking, .startJob { twoShelters with survivorContext := "He has a weapon." }),
    (ticking, .status ⟨"CA0", "completed", none⟩),
    (ticking, .startTransfer ⟨.dryRun, .ofNat 0, .ofNat 0, "555-010-0123", none, none, false⟩)]

theorem ticking_busyRun : ∀ p ∈ busyRun, p.1 = ticking := by simp [busyRun]

theorem recoverable_busyRun : Recoverable {} .fresh busyRun where
  blank := ⟨by decide, by decide, by decide, by decide, rfl, rfl, rfl, rfl⟩
  remembers p hp := by
    refine ⟨?_, fun n line h => ?_⟩
    · simp only [busyRun, List.mem_cons, List.not_mem_nil, or_false] at hp
      rcases hp with rfl | rfl | rfl | rfl | rfl <;> exact Operation.noConfusion
    · rw [ticking_busyRun p hp] at h
      cases h
  takesIn before s stored after hops := by
    have hp : (s, Operation.restore stored) ∈ busyRun := hops ▸ by simp
    simp [busyRun] at hp
  ids := by
    refine ⟨fun p hp q hq m n hmn hn => ?_, fun p hp r hr n _ => ?_⟩
    · rw [ticking_busyRun p hp, ticking_busyRun q hq]
      exact Uuid.ofNat_ne hmn (Nat.lt_trans hn (by decide))
    · rw [ticking_busyRun p hp]
      have htwo : r.targets.length = 2 := by
        simp only [busyRun, List.mem_cons, List.not_mem_nil, or_false] at hp
        -- two of the operations start a job, each for two shelters
        rcases hp with rfl | rfl | rfl | rfl | rfl <;> cases hr
        all_goals rfl
      rw [htwo]
      change ((List.range 2).map Uuid.ofNat).Nodup
      decide
  records := by
    refine ⟨fun p hp q hq m n hmn hn => ?_, fun p hp q hq m n hmn hn => ?_⟩
    · rw [ticking_busyRun p hp, ticking_busyRun q hq]
      exact Uuid.ofNat_ne hmn (Nat.lt_trans hn (by decide))
    · rw [ticking_busyRun p hp, ticking_busyRun q hq]
      exact Uuid.ofNat_ne hmn (Nat.lt_trans hn (by decide))
  sids := distinctSids_calm fun p hp => by
    rw [ticking_busyRun p hp]
    rfl
  clock := by
    have hticking := ticking_busyRun
    refine ⟨fun p hp => ?_, List.pairwise_of_forall_mem_list fun p hp q hq n => ?_,
      fun p hp n => ?_⟩
    · rw [hticking p hp]
      exact runs_ticking
    · rw [hticking p hp, hticking q hq]
      exact Instant.le_refl _
    · rw [hticking p hp]
      change (Instant.midnight 0).FourDigitYear
      decide
  within before hbefore := by
    have hall : ∀ before ∈ busyRun.inits, ((ofConfig {}).run before).jobs.jobs.length ≤ 2 ∧
        ((ofConfig {}).run before).made.transfers ≤ 1 ∧
        ((ofConfig {}).run before).made.escalations ≤ 1 := by decide +kernel
    obtain ⟨hjobs, htransfers, hescalations⟩ := hall before ((List.mem_inits _ _).2 hbefore)
    exact ⟨Nat.le_trans hjobs (by decide), Nat.le_trans htransfers (by decide),
      Nat.le_trans hescalations (by decide)⟩

/-- After the restart the calls are known by their SIDs, and the number is blocked in
any spelling. -/
theorem restart_recovers_busyRun : ∃ counts after,
    (Service.settle ⟨(ofConfig {}).run busyRun, {}, { database := some .fresh }⟩).2.restart {} =
      .ok (counts, after) ∧
    (after.desk.jobs.findSid? "CA0").map (·.2.status) = some .completed ∧
    (after.desk.transfers.findSid? "CA3").map (·.2) = some .shelter ∧
    after.desk.gate.escalations.length = 1 ∧
    after.desk.gate.blocked.blocks "(212) 555-0199" = true := by
  obtain ⟨counts, after, hrestart, hrecovers⟩ := restart_recovers recoverable_busyRun {}
  refine ⟨counts, after, hrestart, ?_, ?_, ?_, hrecovers.blocked _ (by decide +kernel)⟩
  · rw [hrecovers.attempts, Option.map_map]
    decide +kernel
  · rw [hrecovers.legs, Option.map_map]
    decide +kernel
  · rw [hrecovers.escalations.length_eq, List.length_map]
    decide +kernel

end Desk

end ShelterLine
