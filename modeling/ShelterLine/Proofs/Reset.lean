import ShelterLine.Proofs.Names
import ShelterLine.Proofs.OwnRecord

/-!
# A reset is final

A reset forgets all jobs, transfers and SIDs, but what is under way goes on: a call that is being
placed still marks its attempt and binds its SID, and the provider goes on to report about calls
from before. All of these go by names from before. Nothing that is done brings a name that it was
not given, so after a reset the old names are gone for good. Whatever goes by one of them finds
nothing and does nothing, and a run is the same run without it.
-/

namespace ShelterLine

/-! ## Accesses -/

/-- Something that is done to the registers at once, without anything in between. -/
inductive Access where
  | addJob (job : Job)
  | restoreJob (job : Job)
  | mark (now : Moment) (ref : AttemptRef) (patch : Attempt.Patch)
  /-- Like `mark`, and tells what became of the job. -/
  | report (s : Surroundings) (ref : AttemptRef) (patch : Attempt.Patch)
  | bindAttempt (now : Moment) (ref : AttemptRef) (sid : String)
  | addSession (session : Session)
  | restoreSession (session : Session)
  | setStatus (now : Instant) (id : Uuid) (status : TransferStatus)
  | bindLeg (now : Instant) (ref : LegRef) (sid : String)
  | hear (s : Surroundings) (callback : Callback)
  | reset

namespace Access

/-- The names of the record that an access is about. -/
def goesBy : Access → List Name
  | mark _ ref _ | report _ ref _ | bindAttempt _ ref _ => [.id ref.jobId, .id ref.attemptId]
  | setStatus _ id _ => [.id id]
  | bindLeg _ ref _ => [.id ref.transferId]
  | hear _ c => [.sid c.sid]
  | addJob _ | restoreJob _ | addSession _ | restoreSession _ | reset => []

/-- The names that an access gives to records. -/
def gives : Access → List Name
  | addJob j | restoreJob j => j.names
  | mark _ _ p | report _ _ p => Name.ofSid? p.sid
  | bindAttempt _ _ sid | bindLeg _ _ sid => [.sid sid]
  | addSession t | restoreSession t => t.names
  | setStatus _ _ _ | hear _ _ | reset => []

/-- The access is about a record that went by an old name. -/
def isLate (old : List Name) (x : Access) : Bool := x.goesBy.any (· ∈ old)

/-- The access gives no old name. -/
def IsNew (old : List Name) (x : Access) : Prop := ∀ n ∈ x.gives, n ∉ old

instance (old : List Name) (x : Access) : Decidable (x.IsNew old) :=
  inferInstanceAs (Decidable (∀ n ∈ x.gives, n ∉ old))

end Access

namespace Desk

variable {d d' : Desk} {old : List Name} {x : Access} {xs : List Access}

/-- Takes over what became of the jobs, if anything did. -/
def withJobs (d : Desk) : Option (Job × JobRegister) → Bool × Desk
  | some (_, jobs) => (true, { d with jobs })
  | none => (false, d)

/-- Takes over what became of the transfers, if anything did. -/
def withTransfers (d : Desk) : Option (Session × TransferRegister) → Bool × Desk
  | some (_, transfers) => (true, { d with transfers })
  | none => (false, d)

/-- What an access does, and whether it found its record. -/
def access (d : Desk) : Access → Bool × Desk
  | .addJob j => (true, { d with jobs := d.jobs.insert j })
  | .restoreJob j => ((d.jobs.restore j).1, { d with jobs := (d.jobs.restore j).2 })
  | .mark now ref p => d.withJobs (d.jobs.patch now ref p)
  | .report s ref p => ((d.patchAttempt s ref p).1.isSome, (d.patchAttempt s ref p).2)
  | .bindAttempt now ref sid => d.withJobs (d.jobs.bindSid now ref sid)
  | .addSession t => (true, { d with transfers := d.transfers.insert t })
  | .restoreSession t =>
    ((d.transfers.restore t).1, { d with transfers := (d.transfers.restore t).2 })
  | .setStatus now id status => d.withTransfers (d.transfers.setStatus now id status)
  | .bindLeg now ref sid => d.withTransfers (d.transfers.bindSid now ref sid)
  | .hear s c => ((d.hear s c).1 = .applied, (d.hear s c).2)
  | .reset => (true, d.reset)

/-- What some accesses do one after the other. -/
def accessAll (d : Desk) (xs : List Access) : Desk := xs.foldl (fun d x => (d.access x).2) d

/-! ## An access brings what it gives -/

theorem names_withJobs {changed : Option (Job × JobRegister)} {given : List Name}
    (h : ∀ job jobs, changed = some (job, jobs) → jobs.names ⊆ d.jobs.names ++ given) :
    (d.withJobs changed).2.names ⊆ d.names ++ given := by
  cases changed with
  | none => exact List.subset_append_left _ _
  | some found => exact append_subset_given (h found.1 found.2 rfl) (List.subset_append_left _ _)

theorem names_withTransfers {changed : Option (Session × TransferRegister)} {given : List Name}
    (h : ∀ t transfers, changed = some (t, transfers) →
      transfers.names ⊆ d.transfers.names ++ given) :
    (d.withTransfers changed).2.names ⊆ d.names ++ given := by
  cases changed with
  | none => exact List.subset_append_left _ _
  | some found => exact append_subset_given (List.subset_append_left _ _) (h found.1 found.2 rfl)

theorem names_patchAttempt (s : Surroundings) (ref : AttemptRef) (p : Attempt.Patch) (d : Desk) :
    (d.patchAttempt s ref p).2.names ⊆ d.names ++ Name.ofSid? p.sid := by
  unfold patchAttempt
  cases hpatch : d.jobs.patch (s.now.moment d.readings) ref p with
  | none => exact List.subset_append_left _ _
  | some found =>
    exact append_subset_given (JobRegister.names_patch hpatch) (List.subset_append_left _ _)

/-- A callback brings no names. -/
theorem Heard.names {s : Surroundings} {c : Callback} {heard : WebhookOutcome × Desk}
    (h : Heard s c d heard) : heard.2.names ⊆ d.names := by
  unfold Desk.names
  cases h with
  | ignored => exact List.Subset.refl _
  | @attempt j a p d' found reports records log =>
    have hjobs := JobRegister.names_modify_patch d.jobs (s.now.moment d.readings) ⟨j.id, a.id⟩ p
    have hnone : Name.ofSid? p.sid = [] := by
      rw [reports.sid]
      rfl
    rw [hnone, List.append_nil] at hjobs
    rw [records.jobs, records.transfers]
    exact List.append_subset.2
      ⟨List.subset_append_of_subset_left _ hjobs, List.subset_append_right _ _⟩
  | @session r t leg status d' isStatus nobody found records log =>
    rw [records.jobs, records.transfers]
    exact List.append_subset.2 ⟨List.subset_append_left _ _, List.subset_append_of_subset_right _
      (TransferRegister.names_modify_status d.transfers (s.now d.readings) t.id status)⟩

/-- **An access brings no names but those that it gives.** -/
theorem names_access (d : Desk) (x : Access) : (d.access x).2.names ⊆ d.names ++ x.gives := by
  cases x with
  | addJob j =>
    exact append_subset_given (JobRegister.names_insert d.jobs j) (List.subset_append_left _ _)
  | restoreJob j =>
    exact append_subset_given (JobRegister.names_restore d.jobs j) (List.subset_append_left _ _)
  | mark now ref p => exact names_withJobs fun _ _ => JobRegister.names_patch
  | report s ref p => exact names_patchAttempt s ref p d
  | bindAttempt now ref sid => exact names_withJobs fun _ _ => JobRegister.names_bindSid
  | addSession t =>
    exact append_subset_given (List.subset_append_left _ _)
      (TransferRegister.names_insert d.transfers t)
  | restoreSession t =>
    exact append_subset_given (List.subset_append_left _ _)
      (TransferRegister.names_restore d.transfers t)
  | setStatus now id status =>
    refine names_withTransfers fun t transfers hset => ?_
    obtain ⟨-, rfl⟩ := TransferRegister.update_eq_some_iff.1 hset
    exact List.subset_append_of_subset_left _
      (TransferRegister.names_modify_status d.transfers now id status)
  | bindLeg now ref sid => exact names_withTransfers fun _ _ => TransferRegister.names_bindSid
  | hear s c => exact List.subset_append_of_subset_left _ (hear_heard s c d).names
  | reset => exact List.nil_subset _

/-! ## Where old names are gone -/

/-- Nothing goes by an old name, so none of them finds anything. -/
structure Forgets (d : Desk) (old : List Name) : Prop where
  names : ∀ n ∈ d.names, n ∉ old
  job : ∀ id, .id id ∈ old → d.jobs.get? id = none
  attempt : ∀ ref : AttemptRef, .id ref.jobId ∈ old ∨ .id ref.attemptId ∈ old →
    d.jobs.attempt? ref = none
  session : ∀ id, .id id ∈ old → d.transfers.get? id = none
  attemptOf : ∀ sid, .sid sid ∈ old → d.jobs.findSid? sid = none
  legOf : ∀ sid, .sid sid ∈ old → d.transfers.findSid? sid = none

theorem forgets_of_names (h : ∀ n ∈ d.names, n ∉ old) : d.Forgets old := by
  have hjobs : ∀ n ∈ old, n ∉ d.jobs.names := fun n hold hn => h n (List.mem_append_left _ hn) hold
  have htransfers : ∀ n ∈ old, n ∉ d.transfers.names := fun n hold hn =>
    h n (List.mem_append_right _ hn) hold
  exact {
    names := h
    job := fun id hold => JobRegister.get?_of_not_mem_names (hjobs _ hold)
    attempt := fun ref hold =>
      JobRegister.attempt?_of_not_mem_names (hold.imp (hjobs _) (hjobs _))
    session := fun id hold => TransferRegister.get?_of_not_mem_names (htransfers _ hold)
    attemptOf := fun sid hold => JobRegister.findSid?_of_not_mem_names (hjobs _ hold)
    legOf := fun sid hold => TransferRegister.findSid?_of_not_mem_names (htransfers _ hold) }

/-- A reset forgets everything. -/
theorem forgets_reset (d : Desk) (old : List Name) : d.reset.Forgets old :=
  forgets_of_names fun _ hn => absurd hn List.not_mem_nil

/-- **What is late finds nothing and does nothing.** -/
theorem Forgets.access_late (h : d.Forgets old) (hlate : x.isLate old = true) :
    d.access x = (false, d) := by
  obtain ⟨n, hn, hmem⟩ := List.any_eq_true.1 hlate
  have hold : n ∈ old := of_decide_eq_true hmem
  -- whether the record is looked for by one name or by two, one of them is old
  have hattempt : ∀ ref : AttemptRef, n ∈ [Name.id ref.jobId, Name.id ref.attemptId] →
      d.jobs.attempt? ref = none := by
    intro ref hn
    refine h.attempt ref ?_
    rcases List.mem_cons.1 hn with rfl | hn
    · exact Or.inl hold
    · obtain rfl := List.mem_singleton.1 hn
      exact Or.inr hold
  cases x with
  | addJob | restoreJob | addSession | restoreSession | reset => exact absurd hn List.not_mem_nil
  | mark now ref p =>
    have hnone : d.jobs.patch now ref p = none := JobRegister.patch_eq_none_iff.2 (hattempt ref hn)
    exact congrArg d.withJobs hnone
  | report s ref p =>
    have hnone : d.jobs.patch (s.now.moment d.readings) ref p = none :=
      JobRegister.patch_eq_none_iff.2 (hattempt ref hn)
    have hgone : d.patchAttempt s ref p = (none, d) := by
      unfold patchAttempt
      rw [hnone]
    exact congrArg (fun patched => (patched.1.isSome, patched.2)) hgone
  | bindAttempt now ref sid =>
    have hnone : d.jobs.bindSid now ref sid = none := by
      rw [JobRegister.bindSid_eq, hattempt ref hn]
      rfl
    exact congrArg d.withJobs hnone
  | setStatus now id status =>
    obtain rfl := List.mem_singleton.1 hn
    have hnone : d.transfers.setStatus now id status = none := by
      unfold TransferRegister.setStatus
      rw [TransferRegister.update_eq, h.session id hold]
      rfl
    exact congrArg d.withTransfers hnone
  | bindLeg now ref sid =>
    obtain rfl := List.mem_singleton.1 hn
    have hnone : d.transfers.bindSid now ref sid = none := by
      rw [TransferRegister.bindSid_eq, h.session ref.transferId hold]
      rfl
    exact congrArg d.withTransfers hnone
  | hear s c =>
    obtain rfl := List.mem_singleton.1 hn
    have hignored := (hear_heard s c d).ignored_of_unknown (h.attemptOf c.sid hold)
      (h.legOf c.sid hold)
    exact congrArg (fun heard => (decide (heard.1 = .applied), heard.2)) hignored

/-- Old names stay forgotten, as late accesses do nothing and others bring new names. -/
theorem Forgets.access (h : d.Forgets old) (hnew : x.isLate old = false → x.IsNew old) :
    (d.access x).2.Forgets old := by
  cases hlate : x.isLate old with
  | true =>
    rw [h.access_late hlate]
    exact h
  | false =>
    refine forgets_of_names fun n hn => ?_
    rcases List.mem_append.1 (names_access d x hn) with hkept | hgiven
    · exact h.names n hkept
    · exact hnew hlate n hgiven

theorem Forgets.accessAll (h : d.Forgets old)
    (hnew : ∀ x ∈ xs, x.isLate old = false → x.IsNew old) : (d.accessAll xs).Forgets old := by
  induction xs generalizing d with
  | nil => exact h
  | cons x xs ih =>
    obtain ⟨hx, hxs⟩ := List.forall_mem_cons.1 hnew
    exact ih (h.access hx) hxs

/-- What is late can be left out. -/
theorem Forgets.accessAll_filter (h : d.Forgets old)
    (hnew : ∀ x ∈ xs, x.isLate old = false → x.IsNew old) :
    d.accessAll xs = d.accessAll (xs.filter fun x => !x.isLate old) := by
  induction xs generalizing d with
  | nil => rfl
  | cons x xs ih =>
    obtain ⟨hx, hxs⟩ := List.forall_mem_cons.1 hnew
    have hrest := ih (h.access hx) hxs
    cases hlate : x.isLate old with
    | true =>
      rw [List.filter_cons_of_neg (by rw [hlate]; decide)]
      rw [h.access_late hlate] at hrest
      unfold Desk.accessAll
      rw [List.foldl_cons, h.access_late hlate]
      exact hrest
    | false =>
      rw [List.filter_cons_of_pos (by rw [hlate]; decide)]
      exact hrest

/-- **A reset is final.** Whatever is done after a reset, if what is not late gives no old names,
the desk becomes what it would be if nothing late was done. Each late access finds nothing and
changes nothing, and what there was before the reset is never seen again. -/
theorem reset_final (d : Desk) (old : List Name) (xs : List Access) (hold : d.names ⊆ old)
    (hnew : ∀ x ∈ xs, x.isLate old = false → x.IsNew old) :
    d.reset.accessAll xs = d.reset.accessAll (xs.filter fun x => !x.isLate old) ∧
    (∀ before x after, xs = before ++ x :: after → x.isLate old = true →
      (d.reset.accessAll before).access x = (false, d.reset.accessAll before)) ∧
    (∀ before after, xs = before ++ after →
      (d.reset.accessAll before).Forgets old ∧ (d.reset.accessAll before).Forgets d.names) := by
  have hreset := forgets_reset d old
  refine ⟨hreset.accessAll_filter hnew, ?_, ?_⟩
  · rintro before x after rfl hlate
    have hbefore := hreset.accessAll fun y hy => hnew y (List.mem_append_left _ hy)
    exact hbefore.access_late hlate
  · rintro before after rfl
    have hbefore := hreset.accessAll fun y hy => hnew y (List.mem_append_left _ hy)
    exact ⟨hbefore, forgets_of_names fun n hn hmem => hbefore.names n hn (hold hmem)⟩

/-- What is done after a reset while an attempt from before is still being dialed and another is
reported on, and while a new job is dialed. -/
def lateAccesses : List Access :=
  [.mark (Instant.midnight 0) ⟨.ofNat 0, .ofNat 1⟩ { status := some .initiated },
    .addJob (.create (.midnight 0) (.ofNat 7) (fun i => .ofNat (i + 8)) .dryRun
      ⟨"Needs a bed tonight.", none, false, false⟩ [⟨1, "Harbor House", none, none, none⟩]),
    .bindAttempt (Instant.midnight 0) ⟨.ofNat 0, .ofNat 1⟩ "CA4",
    .bindAttempt (Instant.midnight 0) ⟨.ofNat 7, .ofNat 8⟩ "CA3",
    .hear .calm (.recording "CA1" "https://r.test/1"),
    .bindLeg (.midnight 0) ⟨.ofNat 3, .survivor⟩ "CA3",
    .hear .calm (.status ⟨"CA3", "completed", none⟩),
    .hear .calm (.transcript "CA2" "We have two beds."),
    .report .calm ⟨.ofNat 0, .ofNat 2⟩ { status := some .completed },
    .setStatus (.midnight 0) (.ofNat 3) .bridged]

/-- Only what is done to the new job counts. -/
theorem reset_final_lateAccesses :
    repeatedSidsDesk.reset.accessAll lateAccesses = repeatedSidsDesk.reset.accessAll
      [lateAccesses[1], lateAccesses[3], lateAccesses[6]] ∧
    (repeatedSidsDesk.reset.accessAll lateAccesses).Forgets repeatedSidsDesk.names := by
  have hnew : ∀ x ∈ lateAccesses, x.isLate repeatedSidsDesk.names = false →
      x.IsNew repeatedSidsDesk.names := by decide
  obtain ⟨herased, -, hforgets⟩ := reset_final repeatedSidsDesk repeatedSidsDesk.names lateAccesses
    (List.Subset.refl _) hnew
  exact ⟨herased, (hforgets lateAccesses [] (List.append_nil _).symm).2⟩

end Desk

end ShelterLine
