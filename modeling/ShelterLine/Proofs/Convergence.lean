import ShelterLine.Proofs.Change
import ShelterLine.Proofs.Lifecycle
import ShelterLine.Proofs.Report

/-!
# Status reports converge

Reports on many calls come interleaved, late and more than once. Where they leave an attempt depends
on the words about its own call alone: the last end that was reported counts, and progress only
starts what has not ended. All that this needs of a desk is that its index of SIDs is the same in
both directions, which every operation keeps, also taking records in from storage.
-/

namespace ShelterLine

namespace AttemptStatus

/-- What reports say about a call, in order. -/
def words (sid : String) (reports : List StatusReport) : List AttemptStatus :=
  reports.filterMap fun r => if r.sid = sid then ofProvider? r.status else none

/-- Where words about a call lead: to the last end; without one a finished attempt stays as it is,
and any other is initiated by progress. -/
def converged (status : AttemptStatus) (words : List AttemptStatus) : AttemptStatus :=
  match (words.filter (·.isTerminal)).getLast? with
  | some last => last
  | none =>
    if status.isTerminal then status
    else if .initiated ∈ words then .initiated
    else status

theorem words_append (sid : String) (reports reports' : List StatusReport) :
    words sid (reports ++ reports') = words sid reports ++ words sid reports' :=
  List.filterMap_append ..

/-- An end is taken over. -/
theorem reported_end {word : AttemptStatus} (hend : word.isTerminal = true)
    (status : AttemptStatus) :
    status.reported (some word) = word := by
  simp [reported, Option.filter, hend]

/-- Progress comes too late for what has ended. -/
theorem reported_late {status : AttemptStatus} (hover : status.isTerminal = true) :
    status.reported (some .initiated) = status := by
  cases status <;> first | rfl | cases hover

theorem reported_progress {status : AttemptStatus} (hopen : status.isTerminal = false) :
    status.reported (some .initiated) = .initiated := by
  cases status <;> first | rfl | cases hopen

/-- One more word has the effect that it has by itself. -/
theorem converged_concat (status : AttemptStatus) (words : List AttemptStatus)
    {word : AttemptStatus} (hword : word ≠ .queued) :
    status.converged (words ++ [word]) = (status.converged words).reported (some word) := by
  cases hend : word.isTerminal with
  | true =>
    -- an end is taken over, whatever came before
    have hlast : ((words ++ [word]).filter (·.isTerminal)).getLast? = some word := by simp [hend]
    rw [reported_end hend]
    unfold converged
    rw [hlast]
  | false =>
    obtain rfl : word = .initiated := by cases word <;> simp_all [isTerminal]
    have hfilter : (words ++ [initiated]).filter (·.isTerminal) = words.filter (·.isTerminal) := by
      simp [isTerminal]
    unfold converged
    rw [hfilter]
    cases hlast : (words.filter (·.isTerminal)).getLast? with
    | some last =>
      exact (reported_late (List.mem_filter.1 (List.mem_of_getLast? hlast)).2).symm
    | none =>
      -- progress starts what has not ended
      cases hover : status.isTerminal with
      | true => exact (reported_late hover).symm
      | false =>
        by_cases hprogress : .initiated ∈ words
        · simp [hprogress, reported_progress (show initiated.isTerminal = false from rfl)]
        · simp [hprogress, reported_progress hover]

/-- Words about other calls lead nowhere. -/
theorem converged_report (status : AttemptStatus) (sid : String) (reports : List StatusReport)
    (report : StatusReport) : status.converged (words sid (reports ++ [report])) =
      if report.sid = sid then (status.converged (words sid reports)).reported
        (ofProvider? report.status)
      else status.converged (words sid reports) := by
  rw [words_append]
  by_cases hsid : report.sid = sid
  · rw [if_pos hsid]
    cases hword : ofProvider? report.status with
    | none =>
      have hnone : words sid [report] = [] := by simp [words, hword]
      rw [hnone, List.append_nil]
      rfl
    | some word =>
      have hone : words sid [report] = [word] := by simp [words, hsid, hword]
      rw [hone]
      exact converged_concat _ _ fun hq => Desk.ofProvider?_ne_queued _ (hq ▸ hword)
  · have hnone : words sid [report] = [] := by simp [words, hsid]
    rw [if_neg hsid, hnone, List.append_nil]

/-- Reports of anything but progress. -/
def withoutProgress (reports : List StatusReport) : List StatusReport :=
  reports.filter fun r => ofProvider? r.status ≠ some .initiated

theorem ends_withoutProgress (sid : String) (reports : List StatusReport) :
    (words sid (withoutProgress reports)).filter (·.isTerminal) =
      (words sid reports).filter (·.isTerminal) := by
  induction reports with
  | nil => rfl
  | cons r reports ih =>
    have hcons : ∀ rs, words sid (r :: rs) = words sid [r] ++ words sid rs := fun rs =>
      words_append sid [r] rs
    by_cases hprogress : ofProvider? r.status = some .initiated
    · -- the report is dropped, and it is no end
      have hnone : (words sid [r]).filter (·.isTerminal) = [] := by
        by_cases hsid : r.sid = sid <;> simp [words, hsid, hprogress, isTerminal]
      have hdrop : withoutProgress (r :: reports) = withoutProgress reports := by
        simp [withoutProgress, hprogress]
      rw [hdrop, ih, hcons, List.filter_append, hnone, List.nil_append]
    · have hkeep : withoutProgress (r :: reports) = r :: withoutProgress reports := by
        simp [withoutProgress, hprogress]
      rw [hkeep, hcons (withoutProgress reports), hcons reports, List.filter_append,
        List.filter_append, ih]

/-- Progress says nothing new about what has been dialed. -/
theorem converged_of_ne_queued {status : AttemptStatus} (h : status ≠ .queued)
    (words : List AttemptStatus) :
    status.converged words = ((words.filter (·.isTerminal)).getLast?).getD status := by
  unfold converged
  cases (words.filter (·.isTerminal)).getLast? with
  | some last => rfl
  | none => cases status <;> simp_all [isTerminal]

end AttemptStatus

/-! ## The index of SIDs -/

namespace JobRegister

variable {r r' : JobRegister}

theorem linked_patch (hl : r.sids.Linked) {now : Moment} {ref : AttemptRef} {p : Attempt.Patch}
    {job : Job} (hpatch : r.patch now ref p = some (job, r')) : r'.sids.Linked := by
  obtain ⟨-, -, -, -, rfl⟩ := patch_eq_some_iff.1 hpatch
  exact hl

theorem linked_bindSid (hl : r.sids.Linked) {now : Moment} {ref : AttemptRef}
    {sid : String} {job : Job} (hbind : r.bindSid now ref sid = some (job, r')) :
    r'.sids.Linked := by
  obtain ⟨-, rfl⟩ := bindSid_eq_some hbind
  exact SidIndex.linked_bind hl sid ref

/-- Jobs that are taken in bring their SIDs along, and these are bound one after the other. -/
theorem linked_restore (hl : r.sids.Linked) (j : Job) : (r.restore j).2.sids.Linked := by
  unfold restore
  split
  · exact hl
  · refine List.foldlRecOn j.attempts _ hl fun ix hix a _ => ?_
    split
    · exact SidIndex.linked_bind hix _ _
    · exact hix

end JobRegister

namespace Desk

variable {s s' : Surroundings} {d d' : Desk}

theorem Change.linked (h : Change s d d') (hl : d.jobs.sids.Linked) : d'.jobs.sids.Linked := by
  cases h with
  | patched noSid hpatch => exact JobRegister.linked_patch hl hpatch
  | marked noSid hpatch => exact JobRegister.linked_patch hl hpatch
  | bound hbind => exact JobRegister.linked_bindSid hl hbind
  | blocked raw => exact (block_jobs raw d).symm ▸ hl
  | unblocked raw => exact (unblock_jobs raw d).symm ▸ hl
  | forgotten => exact SidIndex.linked_empty
  | acted | counted | registered | opened | moved | joined | escalated => exact hl

theorem perform_linked (s : Surroundings) (d : Desk) (op : Operation) (hl : d.jobs.sids.Linked) :
    (d.perform s op).2.jobs.sids.Linked := by
  by_cases hmemory : ∃ stored, op = .restore stored
  · obtain ⟨stored, rfl⟩ := hmemory
    exact takeIn_keeps (I := fun r => r.sids.Linked) (fun r j hr => JobRegister.linked_restore hr j)
      stored.jobs d.jobs hl
  · have hchanges := perform_changes s d fun stored h => hmemory ⟨stored, h⟩
    exact hchanges.keeps (I := fun d => d.jobs.sids.Linked) (fun _ _ => Change.linked) hl

/-- A desk as it can be seen: after a run of operations, and while another one is carried out. -/
def Reachable (c : SafetyConfig) (d : Desk) : Prop := ∃ ops s, Changes s ((ofConfig c).run ops) d

theorem Reachable.linked {c : SafetyConfig} (h : Reachable c d) : d.jobs.sids.Linked := by
  obtain ⟨ops, s, hchanges⟩ := h
  refine hchanges.keeps (I := fun d => d.jobs.sids.Linked) (fun _ _ => Change.linked) ?_
  exact run_induction (fun d s op => perform_linked s d op) ops _ SidIndex.linked_empty

/-! ## One report -/

theorem status_jobs (s : Surroundings) (r : StatusReport) (d : Desk) :
    (d.status s r).2.jobs = d.jobs.reported (s.now.moment d.readings) r := by
  unfold status
  cases hfind : d.jobs.findSid? r.sid with
  | none =>
    rw [JobRegister.reported_of_none hfind]
    dsimp only
    split
    · rfl
    · split
      · rfl
      · split <;> rfl
  | some found =>
    rw [JobRegister.reported_of_some hfind]
    dsimp only
    split
    · rfl
    · -- the attempt was found, so the patch finds it as well
      unfold patchAttempt
      rw [JobRegister.patch_eq, JobRegister.attempt?_of_findSid? hfind]
      rfl

theorem status_transfers (s : Surroundings) (r : StatusReport) (d : Desk) :
    (d.status s r).2.transfers =
      if (d.jobs.findSid? r.sid).isSome then d.transfers
      else d.transfers.reported (s.now d.readings) r := by
  unfold status
  cases hfind : d.jobs.findSid? r.sid with
  | some found =>
    rw [Option.isSome_some, if_pos rfl]
    dsimp only
    split
    · rfl
    · unfold patchAttempt
      split <;> rfl
  | none =>
    rw [Option.isSome_none, if_neg Bool.false_ne_true]
    unfold TransferRegister.reported
    cases hleg : d.transfers.findSid? r.sid with
    | none => rfl
    | some found =>
      cases TransferStatus.ofProvider? r.status with
      | none => rfl
      | some status =>
        -- the session was found, so its status can be set
        obtain ⟨t, leg⟩ := found
        have hthere : d.transfers.get? t.id = some t := by
          unfold TransferRegister.findSid? at hleg
          obtain ⟨ref, -, hleg⟩ := Option.bind_eq_some_iff.1 hleg
          obtain ⟨t', ht', hpair⟩ := Option.bind_eq_some_iff.1 hleg
          obtain ⟨rfl, -⟩ := Prod.mk.inj (Option.some.inj hpair)
          rw [TransferRegister.get?_id ht']
          exact ht'
        dsimp only
        unfold TransferRegister.setStatus
        rw [TransferRegister.update_eq, hthere]
        rfl

theorem status_made (s : Surroundings) (r : StatusReport) (d : Desk) :
    (d.status s r).2.made = d.made := by
  unfold status
  split
  · dsimp only
    split
    · rfl
    · unfold patchAttempt
      split <;> rfl
  · split
    · rfl
    · split
      · rfl
      · split <;> rfl

/-- The same, but for the times of the last changes, how often the clock was read, and what has been
told. -/
structure Alike (d d' : Desk) : Prop where
  gate : d'.gate = d.gate
  made : d'.made = d.made
  jobs : d'.jobs.untimed = d.jobs.untimed
  transfers : d'.transfers.untimed = d.transfers.untimed

theorem isSome_findSid?_untimed (d : Desk) (sid : String) :
    (d.jobs.findSid? sid).isSome = (d.jobs.untimed.findSid? sid).isSome := by
  rw [JobRegister.findSid?_untimed, Option.isSome_map]

/-- Desks that are alike stay alike under one report. -/
theorem Alike.status (h : Alike d d') (s s' : Surroundings) (r : StatusReport) :
    Alike (d.status s r).2 (d'.status s' r).2 where
  gate := (status_notes s' r d').gate.trans (h.gate.trans (status_notes s r d).gate.symm)
  made := (status_made s' r d').trans (h.made.trans (status_made s r d).symm)
  jobs := by
    rw [status_jobs, status_jobs, JobRegister.reported_untimed,
      JobRegister.reported_untimed, h.jobs]
  transfers := by
    rw [status_transfers, status_transfers, isSome_findSid?_untimed d', isSome_findSid?_untimed d,
      h.jobs]
    split
    · exact h.transfers
    · rw [TransferRegister.reported_untimed, TransferRegister.reported_untimed, h.transfers]

/-- A report that comes again changes nothing more. -/
theorem status_status (hl : d.jobs.sids.Linked) (s s' : Surroundings) (r : StatusReport) :
    Alike (d.status s r).2 ((d.status s r).2.status s' r).2 where
  gate := (status_notes s' r _).gate
  made := status_made s' r _
  jobs := by
    have hlinked : d.jobs.untimed.sids.Linked := hl
    rw [status_jobs, status_jobs, JobRegister.reported_untimed, JobRegister.reported_untimed,
      JobRegister.reported_reported hlinked]
  transfers := by
    rw [status_transfers, status_jobs, JobRegister.findSid?_reported_isSome, status_transfers]
    split
    · rfl
    · rw [TransferRegister.reported_untimed, TransferRegister.reported_untimed,
        TransferRegister.reported_reported]

/-- Reports on different calls may change places if one of the calls is an attempt's. -/
theorem status_comm (hl : d.jobs.sids.Linked) {r r' : StatusReport} (hne : r.sid ≠ r'.sid)
    (hattempt : (d.jobs.findSid? r.sid).isSome) (s s' : Surroundings) :
    Alike ((d.status s r).2.status s' r').2 ((d.status s' r').2.status s r).2 where
  gate := by
    rw [(status_notes s r _).gate, (status_notes s' r' _).gate, (status_notes s' r' _).gate,
      (status_notes s r _).gate]
  made := by rw [status_made, status_made, status_made, status_made]
  jobs := by
    have hlinked : d.jobs.untimed.sids.Linked := hl
    simp only [status_jobs, JobRegister.reported_untimed]
    exact JobRegister.reported_comm hlinked (Ne.symm hne) default
  transfers := by
    -- transfers do not hear of an attempt's call, so only the other report can reach them
    have hfirst : ((d.status s' r').2.status s r).2.transfers = (d.status s' r').2.transfers := by
      rw [status_transfers s r, status_jobs, JobRegister.findSid?_reported_isSome, if_pos hattempt]
    rw [hfirst, status_transfers s' r', status_transfers s' r', status_jobs,
      JobRegister.findSid?_reported_isSome, status_transfers s r, if_pos hattempt]
    split
    · rfl
    · rw [TransferRegister.reported_untimed, TransferRegister.reported_untimed]

/-! ## Many reports -/

/-- The desk after reports, each in surroundings of its own. -/
def reports (d : Desk) (rs : List (Surroundings × StatusReport)) : Desk :=
  d.run (rs.map fun e => (e.1, .status e.2))

theorem reports_append (d : Desk) (rs rs' : List (Surroundings × StatusReport)) :
    d.reports (rs ++ rs') = (d.reports rs).reports rs' := by
  unfold reports
  rw [List.map_append, run_append]

theorem Alike.reports (h : Alike d d') (rs : List (Surroundings × StatusReport)) :
    Alike (d.reports rs) (d'.reports rs) := by
  induction rs generalizing d d' with
  | nil => exact h
  | cons e rs ih => exact ih (h.status e.1 e.1 e.2)

/-- Reports leave a SID with its attempt, and their words lead to its status. -/
theorem findSid?_reports (hl : d.jobs.sids.Linked) {sid : String} {j : Job} {a : Attempt}
    (hfind : d.jobs.findSid? sid = some (j, a)) (rs : List (Surroundings × StatusReport)) :
    (d.reports rs).jobs.sids.Linked ∧
    ∃ j' a', (d.reports rs).jobs.findSid? sid = some (j', a') ∧ j'.id = j.id ∧ a'.id = a.id ∧
      a'.status = a.status.converged (AttemptStatus.words sid (rs.map (·.2))) := by
  induction rs using List.reverseRecOn with
  | nil =>
    refine ⟨hl, j, a, hfind, rfl, rfl, ?_⟩
    have hstatus : a.status = a.status.converged [] := by cases a.status <;> rfl
    exact hstatus
  | append_singleton rs e ih =>
    obtain ⟨hl', j', a', hfind', hj, ha, hstatus⟩ := ih
    have hlast : (d.reports (rs ++ [e])).jobs =
        (d.reports rs).jobs.reported (e.1.now.moment (d.reports rs).readings) e.2 := by
      rw [reports_append]
      exact status_jobs e.1 e.2 _
    obtain ⟨j'', a'', hfind'', hj', ha', hsaid, hkeep⟩ :=
      JobRegister.findSid?_reported hl' hfind' (e.1.now.moment (d.reports rs).readings) e.2
    rw [hlast]
    refine ⟨?_, j'', a'', hfind'', hj'.trans hj, ha'.trans ha, ?_⟩
    · rw [JobRegister.reported_sids]
      exact hl'
    · rw [List.map_append, List.map_singleton, AttemptStatus.converged_report, ← hstatus]
      split
      · rename_i hsid
        exact hsaid hsid
      · rename_i hsid
        rw [hkeep hsid]

/-- **Status reports converge.** After any reports an attempt has the status that the words about
its call lead to. A report that comes twice counts once; progress makes no difference to what has
been dialed; and reports on other calls may change places with those on this one. -/
theorem reports_converge {c : SafetyConfig} (hd : Reachable c d) {sid : String}
    {j : Job} {a : Attempt} (hfind : d.jobs.findSid? sid = some (j, a)) :
    (∀ rs : List (Surroundings × StatusReport), ∃ j' a',
      (d.reports rs).jobs.findSid? sid = some (j', a') ∧ j'.id = j.id ∧ a'.id = a.id ∧
        a'.status = a.status.converged (AttemptStatus.words sid (rs.map (·.2)))) ∧
    (∀ before e e' after, e'.2 = e.2 →
      Alike (d.reports (before ++ e :: after)) (d.reports (before ++ e :: e' :: after))) ∧
    (a.status ≠ .queued → ∀ rs rs' : List (Surroundings × StatusReport),
      AttemptStatus.withoutProgress (rs.map (·.2)) = AttemptStatus.withoutProgress (rs'.map (·.2)) →
        ((d.reports rs).jobs.findSid? sid).map (·.2.status) =
          ((d.reports rs').jobs.findSid? sid).map (·.2.status)) ∧
    (∀ before e e' after, e.2.sid = sid → e'.2.sid ≠ sid →
      Alike (d.reports (before ++ e :: e' :: after)) (d.reports (before ++ e' :: e :: after))) := by
  have hreports := findSid?_reports hd.linked hfind
  refine ⟨fun rs => (hreports rs).2, ?_, ?_, ?_⟩
  · rintro before e ⟨s', -⟩ after rfl
    obtain ⟨hl, -⟩ := hreports before
    rw [reports_append, reports_append]
    exact (status_status hl e.1 s' e.2).reports after
  · intro hdialed rs rs' hsame
    obtain ⟨-, j₁, a₁, hfind₁, -, -, hstatus₁⟩ := hreports rs
    obtain ⟨-, j₂, a₂, hfind₂, -, -, hstatus₂⟩ := hreports rs'
    rw [AttemptStatus.converged_of_ne_queued hdialed,
      ← AttemptStatus.ends_withoutProgress] at hstatus₁
    rw [AttemptStatus.converged_of_ne_queued hdialed, ← AttemptStatus.ends_withoutProgress,
      ← hsame] at hstatus₂
    rw [hfind₁, hfind₂, Option.map_some, Option.map_some, hstatus₁, hstatus₂]
  · rintro before e e' after rfl hother
    obtain ⟨hl, j', a', hthere, -⟩ := hreports before
    rw [reports_append, reports_append]
    exact (status_comm hl (Ne.symm hother) (by rw [hthere]; rfl) e.1 e'.1).reports after

/-- The end of a call is reported, then late progress, and the end of somebody else's call. -/
def lateReports : List (Surroundings × StatusReport) :=
  [(.calm, ⟨"CA0", "Completed ", none⟩), (.calm, ⟨"CA0", "ringing", some "https://r.test/1"⟩),
    (.calm, ⟨"CA7", "busy", none⟩)]

/-- Late progress does not reopen the call. -/
theorem reports_converge_lateProgress : Reachable {} ((ofConfig {}).run (twoSheltersRun.take 1)) ∧
    ∃ j a, ((ofConfig {}).run (twoSheltersRun.take 1)).jobs.findSid? "CA0" = some (j, a) ∧
      a.status = .initiated ∧
      ∃ j' a', (((ofConfig {}).run (twoSheltersRun.take 1)).reports lateReports).jobs.findSid?
        "CA0" = some (j', a') ∧ a'.status = .completed := by
  have hreachable : Reachable {} ((ofConfig {}).run (twoSheltersRun.take 1)) :=
    ⟨twoSheltersRun.take 1, .calm, .refl⟩
  have hfound : ∃ j a, ((ofConfig {}).run (twoSheltersRun.take 1)).jobs.findSid? "CA0" =
      some (j, a) ∧ a.status = .initiated := ⟨_, _, rfl, rfl⟩
  obtain ⟨j, a, hfind, hstatus⟩ := hfound
  obtain ⟨j', a', hfind', -, -, hstatus'⟩ := (reports_converge hreachable hfind).1 lateReports
  have hwords : AttemptStatus.words "CA0" (lateReports.map (·.2)) = [.completed, .initiated] := by
    decide
  rw [hwords, hstatus] at hstatus'
  exact ⟨hreachable, j, a, hfind, hstatus, j', a', hfind', hstatus'⟩

end Desk

end ShelterLine
