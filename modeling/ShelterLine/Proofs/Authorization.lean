import ShelterLine.Proofs.Contact

/-!
# Live actions are authorized

Where the policy asks for approval, nothing goes out on the live line unless its operation was asked
to act live and its text was cleared. A new job is judged by the survivor's context, a transfer by
the context with the notes of the request, and a message by the transcript that it answers. The last
acts on a job that may be much older than the transcript, or come back from storage; it is the job's
own mode and approval that count.
-/

namespace ShelterLine

/-- Goes out on the live line. -/
def Effect.IsLive : Effect → Prop
  | .call line _ _ => line = .live
  | .message _ => True
  | .question _ | .keep _ | .publish _ => False

namespace Desk

/-- What authorizes a live action of an operation at a desk, when the operation had the effects
`own` before it and leaves the log as `log`. -/
inductive Authorized (s : Surroundings) (d : Desk) (own : List Effect) (log : List Escalation) :
    Operation → Effect → Prop where
  /-- A new live job calls for its own attempts. -/
  | job {r : StartJob} {attemptId : Uuid} {order : CallOrder} (live : r.mode = .live)
      (cleared : Cleared own log (Risk.assess r.survivorContext) r.approved .callJob
        (s.newJob d.made.jobs).toString) :
      Authorized s d own log (.startJob r)
        (.call .live (.attempt ⟨s.newJob d.made.jobs, attemptId⟩) order)
  /-- A new live transfer calls for its legs; the request and the job may both approve of it. -/
  | leg {r : StartTransfer} {j : Job} {ref : LegRef} {order : CallOrder} (live : r.mode = .live)
      (found : d.jobs.get? r.jobId = some j)
      (cleared : Cleared own log (Risk.assess (riskText j r.notes))
        (r.approved || j.request.approved) .warmTransfer r.attemptId.toString) :
      Authorized s d own log (.startTransfer r) (.call .live (.leg ref) order)
  /-- A transcript of a live job's call is answered by a message. -/
  | message {sid text : String} {j : Job} {a : Attempt} {order : MessageOrder}
      (found : d.jobs.findSid? sid = some (j, a)) (live : j.mode = .live)
      (cleared : Cleared own log (Risk.assess text) j.request.approved .transcript a.id.toString) :
      Authorized s d own log (.transcript sid text) (.message order)

theorem not_quiet_of_isLive {e : Effect} (h : e.IsLive) : ¬ e.Quiet := by
  cases e with
  | call line purpose order => simp [Effect.Quiet, Effect.contact?]
  | message order => simp [Effect.Quiet, Effect.contact?]
  | question r => exact h.elim
  | keep w => exact h.elim
  | publish v => exact h.elim

/-- A live action of one operation is authorized. -/
theorem perform_authorized {s : Surroundings} {d : Desk} {op : Operation} {e : Effect}
    {earlier : List Effect} (hrequire : d.gate.requireEscalation = true)
    (he : e :: earlier <:+ (d.perform s op).2.trace) (hnew : ¬ e :: earlier <:+ d.trace)
    (hlive : e.IsLive) :
    ∃ own, earlier = own ++ d.trace ∧
      Authorized s d own (d.perform s op).2.gate.escalations op e := by
  have hc := not_quiet_of_isLive hlive
  by_cases hquiet : Grows Effect.Quiet d (d.perform s op).2
  · exact absurd (hquiet.effect he hnew).1 hc
  · cases op with
    | startJob r =>
      obtain ⟨own, id, order, hown, rfl, hpermitted⟩ := startJob_contact he hnew hc
      have hmode : r.mode = .live := hlive
      have hcleared := hpermitted.cleared (by rw [hmode]; rfl) hrequire
      rw [hmode]
      exact ⟨own, hown, .job hmode hcleared⟩
    | startTransfer r =>
      obtain ⟨own, j, ref, order, hown, hfound, rfl, hpermitted⟩ := startTransfer_contact he hnew hc
      have hmode : r.mode = .live := hlive
      have hcleared := hpermitted.cleared (by rw [hmode]; rfl) hrequire
      rw [hmode]
      exact ⟨own, hown, .leg hmode hfound hcleared⟩
    | transcript sid text =>
      obtain ⟨own, j, a, order, hown, hfound, hmode, rfl, -, hpermitted⟩ :=
        transcript_contact he hnew hc
      exact ⟨own, hown, .message hfound hmode (hpermitted.cleared rfl hrequire)⟩
    | _ => exact absurd (perform_quiet s d (by simp) (by simp) (by simp)) hquiet

/-- **Every live action of a run is authorized.** It belongs to one operation, whose own effects are
the last of what was done before. -/
theorem live_authorized (c : SafetyConfig) (hrequire : c.requireEscalation = true)
    (ops : List (Surroundings × Operation)) (e : Effect) (earlier : List Effect)
    (he : e :: earlier <:+ ((ofConfig c).run ops).trace) (hlive : e.IsLive) :
    ∃ before s op after own, ops = before ++ (s, op) :: after ∧
      earlier = own ++ ((ofConfig c).run before).trace ∧
      Authorized s ((ofConfig c).run before) own
        (((ofConfig c).run before).perform s op).2.gate.escalations op e := by
  rcases run_effect he with hnone | ⟨before, s, op, after, rfl, he, hnew⟩
  · exact absurd (List.suffix_nil.1 hnone) (by simp)
  · -- the policy is the configured one all along
    have hpolicy : ((ofConfig c).run before).gate.requireEscalation = true := by
      rw [run_policy]
      exact hrequire
    obtain ⟨own, hown, hauthorized⟩ := perform_authorized hpolicy he hnew hlive
    exact ⟨before, s, op, after, own, rfl, hown, hauthorized⟩

/-- A live job whose context is high risk, with approval. -/
def riskyJob : StartJob where
  mode := .live
  survivorContext := "He has a weapon."
  callbackNumber := none
  anonymous := false
  approved := true
  targets := [⟨1, "Harbor House", some "555-010-0100", none, none⟩]

/-- The call of such a job goes out, authorized by an escalation of this job. -/
theorem live_authorized_riskyJob : ∃ id order own,
    Authorized .calm (ofConfig {}) own
      ((ofConfig {}).perform .calm (.startJob riskyJob)).2.gate.escalations (.startJob riskyJob)
      (.call .live (.attempt ⟨.ofNat 0, id⟩) order) := by
  have htrace : ∃ kept published id order earlier,
      ((ofConfig {}).run [(.calm, .startJob riskyJob)]).trace =
        published :: kept :: .call .live (.attempt ⟨.ofNat 0, id⟩) order :: earlier :=
    ⟨_, _, _, _, _, rfl⟩
  obtain ⟨kept, published, id, order, earlier, htrace⟩ := htrace
  have he : .call .live (.attempt ⟨.ofNat 0, id⟩) order :: earlier <:+
      ((ofConfig {}).run [(.calm, .startJob riskyJob)]).trace := ⟨[published, kept], htrace.symm⟩
  obtain ⟨before, s, op, after, own, hops, -, h⟩ := live_authorized {} rfl _ _ earlier he rfl
  obtain ⟨rfl, hop, -⟩ : before = [] ∧ (s, op) = (.calm, .startJob riskyJob) ∧ after = [] := by
    cases before with
    | nil => simpa [eq_comm] using hops
    | cons b bs => simp at hops
  obtain ⟨rfl, rfl⟩ := Prod.mk.inj hop
  exact ⟨id, order, own, h⟩

end Desk

end ShelterLine
