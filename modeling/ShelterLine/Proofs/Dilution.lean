import ShelterLine.Proofs.Lower
import ShelterLine.Proofs.Rejection

/-!
# Risk cannot be diluted

A keyword is looked for in the lower case of a text, and how a letter is put into lower case depends
on what stands around it. For keywords that makes no difference: they stand in the lower case of a
text just if they stand in it letter by letter. So whatever is written before and after a dangerous
text, and in whichever case, it stays dangerous. A warm transfer is judged by the survivor's context
with the notes after it, so no notes can talk the gate out of what the context says.
-/

namespace ShelterLine

namespace Risk

variable {part text : String}

theorem letterwise_of_mem_keywords : ∀ k ∈ keywords, Text.Letterwise k.toList := by decide +kernel

theorem matchedKeywords_assess (text : String) :
    (assess text).matchedKeywords = matchedKeywords text := by
  unfold assess
  split <;> simp_all

/-- A text is high risk just if a keyword was found in it. -/
theorem level_assess_iff (text : String) :
    (assess text).level = .high ↔ (assess text).matchedKeywords ≠ [] := by
  unfold assess
  split <;> simp_all

/-- Which keywords are found in a text can be told letter by letter. -/
theorem matchedKeywords_eq (text : String) :
    matchedKeywords text =
      keywords.filter fun k => Text.occurs k.toList (text.toList.map Text.lowerChar) := by
  refine List.filter_congr fun k hk => ?_
  rw [Bool.eq_iff_iff, Text.occurs_iff_isInfix, Text.occurs_iff_isInfix,
    Text.infix_lower_iff (letterwise_of_mem_keywords k hk)]

/-- **What is found in a part of a text is found in the text.** -/
theorem matchedKeywords_sublist (h : part.toList <:+: text.toList) :
    (matchedKeywords part).Sublist (matchedKeywords text) := by
  have hpart : matchedKeywords part =
      (matchedKeywords text).filter fun k =>
      Text.occurs k.toList (part.toList.map Text.lowerChar) := by
    rw [matchedKeywords_eq, matchedKeywords_eq, List.filter_filter]
    refine List.filter_congr fun k _ => ?_
    rw [Bool.eq_iff_iff, Bool.and_eq_true, Text.occurs_iff_isInfix, Text.occurs_iff_isInfix]
    exact (and_iff_left_of_imp fun hk => hk.trans (h.map Text.lowerChar)).symm
  rw [hpart]
  exact List.filter_sublist

/-- A text with a dangerous part is dangerous. -/
theorem high_of_infix (h : part.toList <:+: text.toList) (hhigh : (assess part).level = .high) :
    (assess text).level = .high := by
  rw [level_assess_iff, matchedKeywords_assess] at hhigh ⊢
  intro hnone
  have hsublist := matchedKeywords_sublist h
  rw [hnone] at hsublist
  exact hhigh (List.sublist_nil.1 hsublist)

/-- **The case of ASCII letters makes no difference.** -/
theorem assess_congr (h : part.toList.map Char.toLower = text.toList.map Char.toLower) :
    assess part = assess text := by
  have hlower : part.toList.map Text.lowerChar = text.toList.map Text.lowerChar := by
    have hfold : Text.lowerChar ∘ Char.toLower = Text.lowerChar := funext Text.lowerChar_toLower
    rw [← hfold, ← List.map_map, ← List.map_map, h]
  have hsame : matchedKeywords part = matchedKeywords text := by
    rw [matchedKeywords_eq, matchedKeywords_eq, hlower]
  unfold assess
  rw [hsame]

end Risk

namespace Desk

variable {s : Surroundings} {r : StartTransfer} {d : Desk} {p : Parties}

/-- The survivor's context is part of what a transfer is judged by, whatever the notes are. -/
theorem context_infix_riskText (job : Job) (notes : Option String) :
    job.request.survivorContext.toList <:+: (riskText job notes).toList := by
  cases notes with
  | none => exact List.infix_rfl
  | some notes =>
    have hjoined : riskText job (some notes) = job.request.survivorContext ++ " " ++ notes := rfl
    rw [hjoined, String.toList_append, String.toList_append, List.append_assoc]
    exact (List.prefix_append ..).isInfix

/-- A transfer whose parties are found is denied if what it is judged by is dangerous,
live and not approved. -/
theorem startTransfer_denied (hrequire : d.gate.requireEscalation = true)
    (hfind : d.findParties s r = .ok p) (hlive : r.mode = .live) (hrequest : r.approved = false)
    (hjob : p.job.request.approved = false)
    (hhigh : (Risk.assess (riskText p.job r.notes)).level = .high) :
    ∃ e, (d.startTransfer s r).1 = .error (.policyDenied (.escalationRequired e.id
        (Risk.assess (riskText p.job r.notes)).matchedKeywords)) ∧
      (e.source, e.referenceId) = (.warmTransfer, r.attemptId.toString) ∧
      Escalates e d (d.startTransfer s r).2 := by
  have hrisk : (Risk.assess (riskText p.job r.notes)).isHigh = true := decide_eq_true hhigh
  rcases consult_course s (Risk.assess (riskText p.job r.notes))
      (r.approved || p.job.request.approved) r.mode.isLive .warmTransfer r.attemptId.toString d with
    ⟨hlow, -⟩ | ⟨stopped, e, hstopped, he, hask⟩
  · rw [hrisk] at hlow
    cases hlow
  · have hstop : stopped = true := by
      rw [hstopped, hlive, hrequest, hjob]
      unfold Gate.stops
      rw [hrequire, hrisk]
      rfl
    rw [hstop, if_pos rfl] at hask
    have hdenied : d.startTransfer s r = (.error (.policyDenied (.escalationRequired e.id
        (Risk.assess (riskText p.job r.notes)).matchedKeywords)),
        { d with gate := d.gate.record e }.escalated e) := by
      unfold startTransfer
      rw [hfind]
      dsimp only
      rw [hask]
    rw [hdenied]
    subst he
    exact ⟨_, rfl, rfl, ⟨rfl, rfl, rfl, rfl, rfl, rfl⟩, rfl, rfl, rfl⟩

/-- **Risk cannot be diluted.** The keywords that are found in a text are those of the table, in
its order, that stand in its lower case, and it is high risk just if there is one. Those that
are found in a text are found wherever it is put, and in whichever case its letters are. So
where approval is asked for and nobody gave it, a live transfer for a job whose context is high
risk is denied with all that was found in the context, whatever the notes say, and nothing is
left of it but the escalation. -/
theorem risk_undiluted :
    (∀ text : String, (Risk.assess text).matchedKeywords.Sublist Risk.keywords ∧
      (∀ k, k ∈ (Risk.assess text).matchedKeywords ↔
        k ∈ Risk.keywords ∧ k.toList <:+: Text.lower text.toList) ∧
      ((Risk.assess text).level = .high ↔ (Risk.assess text).matchedKeywords ≠ [])) ∧
    (∀ x y z : String,
      (Risk.assess y).matchedKeywords.Sublist (Risk.assess (x ++ y ++ z)).matchedKeywords ∧
      ((Risk.assess y).level = .high → (Risk.assess (x ++ y ++ z)).level = .high)) ∧
    (∀ x y : String, x.toList.map Char.toLower = y.toList.map Char.toLower →
      Risk.assess x = Risk.assess y) ∧
    (∀ (s : Surroundings) (r : StartTransfer) (d : Desk) (p : Parties),
      d.gate.requireEscalation = true → d.findParties s r = .ok p → r.mode = .live →
      r.approved = false → p.job.request.approved = false →
      (Risk.assess p.job.request.survivorContext).level = .high →
      d.jobs.get? r.jobId = some p.job ∧
      ∃ e matched, (d.startTransfer s r).1 =
          .error (.policyDenied (.escalationRequired e.id matched)) ∧
        (Risk.assess p.job.request.survivorContext).matchedKeywords.Sublist matched ∧
        (e.source, e.referenceId) = (.warmTransfer, r.attemptId.toString) ∧
        Escalates e d (d.startTransfer s r).2) := by
  refine ⟨fun text => ?_, fun x y z => ?_, fun x y => Risk.assess_congr, ?_⟩
  · rw [Risk.matchedKeywords_assess]
    refine ⟨List.filter_sublist, fun k => ?_, ?_⟩
    · rw [← Text.occurs_iff_isInfix]
      exact List.mem_filter
    · rw [Risk.level_assess_iff, Risk.matchedKeywords_assess]
  · have hpart : y.toList <:+: (x ++ y ++ z).toList := by
      rw [String.toList_append, String.toList_append]
      exact List.infix_append ..
    rw [Risk.matchedKeywords_assess, Risk.matchedKeywords_assess]
    exact ⟨Risk.matchedKeywords_sublist hpart, Risk.high_of_infix hpart⟩
  · intro s r d p hrequire hfind hlive hrequest hjob hhigh
    have hpart := context_infix_riskText p.job r.notes
    obtain ⟨e, hdenied, hreference, hleft⟩ :=
      startTransfer_denied hrequire hfind hlive hrequest hjob (Risk.high_of_infix hpart hhigh)
    refine ⟨?_, e, _, hdenied, ?_, hreference, hleft⟩
    · rcases findParties_course s r d with ⟨refusal, hrefused, -⟩ | ⟨q, hq, hfound⟩
      · rw [hfind] at hrefused
        cases hrefused
      · rw [hfind] at hq
        obtain rfl := Except.ok.inj hq
        exact hfound.job
    · rw [Risk.matchedKeywords_assess, Risk.matchedKeywords_assess]
      exact Risk.matchedKeywords_sublist hpart

/-- A rehearsal with a dangerous context, without approval. -/
def rehearsedDanger : StartJob where
  mode := .dryRun
  survivorContext := "He has a weapon."
  callbackNumber := none
  anonymous := false
  approved := false
  targets := [⟨1, "Harbor House", some "555-010-0100", none, none⟩]

/-- A live transfer for it, whose notes say that all is well. -/
def soothingTransfer : StartTransfer where
  mode := .live
  jobId := .ofNat 0
  attemptId := .ofNat 0
  survivorPhone := "212-555-0123"
  survivorName := none
  notes := some "No danger at all."
  approved := false

/-- The weapon is found between Greek letters that change with their neighbours, in any
case, and under the notes. -/
theorem risk_undiluted_soothingTransfer :
    let d := (ofConfig {}).run [(.calm, .startJob rehearsedDanger)]
    (Risk.assess ("ΟΔΟΣ" ++ "He has a weapon." ++ "Σ")).level = .high ∧
    Risk.assess "He has a WeaPON." = Risk.assess "He has a weapon." ∧
    ∃ e matched, (d.startTransfer .calm soothingTransfer).1 =
        .error (.policyDenied (.escalationRequired e.id matched)) ∧
      ["weapon"].Sublist matched ∧ Escalates e d (d.startTransfer .calm soothingTransfer).2 := by
  intro d
  obtain ⟨-, hwhole, hcase, hdenied⟩ := risk_undiluted
  have hweapon : (Risk.assess "He has a weapon.").level = .high := by decide +kernel
  have hfind : ∃ p, d.findParties .calm soothingTransfer = .ok p ∧ p.job.request.approved = false ∧
      p.job.request.survivorContext = "He has a weapon." := ⟨_, rfl, rfl, rfl⟩
  obtain ⟨p, hfind, hjob, hcontext⟩ := hfind
  obtain ⟨-, e, matched, hresult, hmatched, -, hleft⟩ :=
    hdenied .calm soothingTransfer d p rfl hfind rfl rfl hjob (hcontext ▸ hweapon)
  have hfound : (Risk.assess "He has a weapon.").matchedKeywords = ["weapon"] := by decide +kernel
  rw [hcontext, hfound] at hmatched
  exact ⟨(hwhole _ _ _).2 hweapon, hcase _ _ (by decide +kernel), e, matched, hresult,
    hmatched, hleft⟩

end Desk

end ShelterLine
