import ShelterLine.Proofs.Blank
import ShelterLine.Proofs.Provenance
import ShelterLine.Script.Generator

/-!
# Fences around answers

A model that is asked for an object may write it into a fence of backquotes, with the tag "json" or
without one, and with blanks wherever it likes. Whoever reads the answer takes the fence away first,
and must not take away more: the object may have backquotes of its own, even fences. It begins with
a brace and ends with one, so a fence is looked for at the ends of the text and nowhere else, and
nothing of the object is taken for a tag. What comes of an answer is therefore the same with a fence
and without, and the desk never notices a fence.
-/

namespace ShelterLine

/-! ## A phrase in any case -/

namespace Text

variable {phrase cs : List Char} {c p : Char}

theorem foldLetter_eq_toLower (h : c.toLower.toNat < 0x80) : foldLetter c = c.toLower := by
  unfold foldLetter
  rw [if_neg, if_neg]
  · rintro rfl
    exact absurd h (by decide)
  · rintro rfl
    exact absurd h (by decide)

/-- A phrase is read whatever the case of its letters. -/
theorem afterFolded?_append {word : List Char} (h : word.map foldLetter = phrase)
    (rest : List Char) :
    afterFolded? phrase (word ++ rest) = some rest := by
  induction word generalizing phrase with
  | nil =>
    subst h
    rfl
  | cons c word ih =>
    subst h
    exact (if_pos rfl).trans (ih rfl)

theorem afterFolded?_eq_none (h : foldLetter c ≠ p) : afterFolded? (p :: phrase) (c :: cs) = none :=
  if_neg h.symm

theorem foldLetter_blank (h : isBlank c) : foldLetter c ≠ 'j' := by
  have hall : ∀ c, isBlank c → decide (foldLetter c ≠ 'j') = true := fun c hc =>
    forall_inRanges (p := fun c => decide (foldLetter c ≠ 'j')) (by decide +kernel) hc
  exact of_decide_eq_true (hall c h)

end Text

namespace Script

open Text

/-! ## Fences -/

/-- Blanks, or nothing at all. -/
abbrev Blanks := { s : String // isBlankText s.toList }

/-- Whether a text may follow the opening of a fence: nothing, or "json" in any case. -/
def IsTag (tag : List Char) : Prop := tag = [] ∨ tag.map Char.toLower = "json".toList

instance (tag : List Char) : Decidable (IsTag tag) := inferInstanceAs (Decidable (_ ∨ _))

/-- A fence of backquotes: its tag, and the blanks that are around it and between it
and what it encloses. -/
structure Fence where
  tag : String
  before : Blanks
  above : Blanks
  below : Blanks
  after : Blanks
  isTag : IsTag tag.toList

/-- A text with the fence around it. -/
def Fence.around (f : Fence) (body : String) : String :=
  f.before ++ "```" ++ f.tag ++ f.above ++ body ++ f.below ++ "```" ++ f.after

/-- The same text without the fence, with the blanks that were around that. -/
def Fence.without (f : Fence) (body : String) : String := f.before ++ body ++ f.after

/-- Begins with a brace and ends with one, as the text of an object does. -/
structure InBraces (body : List Char) : Prop where
  head : body.head? = some '\x7b'
  last : body.getLast? = some '\x7d'

instance (body : List Char) : Decidable (InBraces body) :=
  decidable_of_iff (body.head? = some '\x7b' ∧ body.getLast? = some '\x7d')
    ⟨fun h => ⟨h.1, h.2⟩, fun h => ⟨h.head, h.last⟩⟩

variable {tag above below body rest : List Char}

theorem InBraces.startsPlain (h : InBraces body) : StartsPlain body :=
  startsPlain_of_head h.head (by decide)

theorem InBraces.endsPlain (h : InBraces body) : EndsPlain body :=
  endsPlain_of_last h.last (by decide)

/-- Neither blanks nor a brace are the beginning of a tag. -/
theorem afterFolded?_untagged (habove : ∀ b ∈ above, isBlank b) (hrest : rest.head? = some '\x7b') :
    afterFolded? "json".toList (above ++ rest) = none := by
  cases above with
  | nil =>
    obtain ⟨more, rfl⟩ := List.head?_eq_some_iff.1 hrest
    exact afterFolded?_eq_none (by decide)
  | cons b above => exact afterFolded?_eq_none (foldLetter_blank (habove b List.mem_cons_self))

theorem afterFolded?_tagged (htag : tag.map Char.toLower = "json".toList) (rest : List Char) :
    afterFolded? "json".toList (tag ++ rest) = some rest := by
  refine afterFolded?_append ?_ rest
  rw [← htag]
  refine List.map_congr_left fun c hc => foldLetter_eq_toLower ?_
  have hletters : ("json".toList.all fun d => d.toNat < 0x80) = true := by decide
  exact of_decide_eq_true (List.all_eq_true.1 hletters _ (htag ▸ List.mem_map_of_mem hc))

/-- **The opening of a fence is taken away with its tag and the blanks after it, and
nothing else is.** -/
theorem dropFenceStart_opened (htag : IsTag tag) (habove : ∀ b ∈ above, isBlank b)
    (hrest : rest.head? = some '\x7b') :
    dropFenceStart ("```".toList ++ (tag ++ (above ++ rest))) = rest := by
  have hfence : after? "```".toList ("```".toList ++ (tag ++ (above ++ rest))) =
      some (tag ++ (above ++ rest)) := after?_eq_some_iff.2 rfl
  have hplain : trimStart (above ++ rest) = rest := by
    rw [trimStart_blanks_append habove, trimStart_eq_self (startsPlain_of_head hrest (by decide))]
  unfold dropFenceStart
  rw [hfence]
  dsimp only
  rcases htag with rfl | htag
  · rw [List.nil_append, afterFolded?_untagged habove hrest, Option.getD_none, hplain]
  · rw [afterFolded?_tagged htag, Option.getD_some, hplain]

/-- **The closing of a fence is taken away with the blanks before it, and nothing else is.** -/
theorem dropFenceEnd_closed (hbelow : ∀ b ∈ below, isBlank b) (hbody : EndsPlain body) :
    dropFenceEnd (body ++ (below ++ "```".toList)) = body := by
  have hfence : "```".toList.isSuffixOf (body ++ (below ++ "```".toList)) = true :=
    List.isSuffixOf_iff_suffix.2 ⟨body ++ below, List.append_assoc ..⟩
  have htake : (body ++ (below ++ "```".toList)).take
      ((body ++ (below ++ "```".toList)).length - 3) = body ++ below := by
    have hlength : ((body ++ below) ++ "```".toList).length = (body ++ below).length + 3 :=
      List.length_append ..
    rw [← List.append_assoc, hlength, Nat.add_sub_cancel, List.take_left]
  unfold dropFenceEnd
  rw [if_pos hfence, htake, trimEnd_append_blanks hbelow, trimEnd_eq_self hbody]

theorem dropFenceStart_inBraces (h : InBraces body) : dropFenceStart body = body := by
  obtain ⟨more, rfl⟩ := List.head?_eq_some_iff.1 h.head
  rfl

theorem dropFenceEnd_inBraces (h : InBraces body) : dropFenceEnd body = body := by
  unfold dropFenceEnd
  refine if_neg fun hfence => ?_
  -- what ends with a fence ends with a backquote, and not with a brace
  obtain ⟨before, rfl⟩ := List.isSuffixOf_iff_suffix.1 hfence
  have hlast := h.last
  rw [List.getLast?_append] at hlast
  exact absurd (Option.some.inj hlast) (by decide)

theorem stripFenceChars_around {before after : List Char} (hbefore : ∀ b ∈ before, isBlank b)
    (hafter : ∀ b ∈ after, isBlank b) (htag : IsTag tag) (habove : ∀ b ∈ above, isBlank b)
    (hbelow : ∀ b ∈ below, isBlank b) (h : InBraces body) :
    stripFenceChars (before ++
      ("```".toList ++ (tag ++ (above ++ (body ++ (below ++ "```".toList)))) ++ after)) = body := by
  have hhead : (body ++ (below ++ "```".toList)).head? = some '\x7b' := by
    rw [List.head?_append, h.head, Option.some_or]
  have hstart : StartsPlain ("```".toList ++
      (tag ++ (above ++ (body ++ (below ++ "```".toList))))) :=
    startsPlain_of_head rfl (by decide)
  have hend : EndsPlain ("```".toList ++
      (tag ++ (above ++ (body ++ (below ++ "```".toList))))) := by
    refine endsPlain_of_last (c := '\x60') ?_ (by decide)
    simp only [List.getLast?_append]
    rfl
  unfold stripFenceChars
  rw [trim_between_blanks hbefore hafter hstart hend, dropFenceStart_opened htag habove hhead,
    dropFenceEnd_closed hbelow h.endsPlain, trim_eq_self h.startsPlain h.endsPlain]

theorem stripFenceChars_without {before after : List Char} (hbefore : ∀ b ∈ before, isBlank b)
    (hafter : ∀ b ∈ after, isBlank b) (h : InBraces body) :
    stripFenceChars (before ++ (body ++ after)) = body := by
  unfold stripFenceChars
  rw [trim_between_blanks hbefore hafter h.startsPlain h.endsPlain, dropFenceStart_inBraces h,
    dropFenceEnd_inBraces h, trim_eq_self h.startsPlain h.endsPlain]

variable {f : Fence} {body : String}

theorem stripFence_around (f : Fence) (h : InBraces body.toList) :
    stripFence (f.around body) = body := by
  have htext : (f.around body).toList = f.before.val.toList ++ ("```".toList ++ (f.tag.toList ++
      (f.above.val.toList ++ (body.toList ++ (f.below.val.toList ++ "```".toList)))) ++
        f.after.val.toList) := by
    unfold Fence.around
    simp only [String.toList_append, List.append_assoc]
  unfold stripFence
  rw [htext, stripFenceChars_around (List.all_eq_true.1 f.before.2)
    (List.all_eq_true.1 f.after.2) f.isTag (List.all_eq_true.1 f.above.2)
    (List.all_eq_true.1 f.below.2) h, String.ofList_toList]

theorem stripFence_without (f : Fence) (h : InBraces body.toList) :
    stripFence (f.without body) = body := by
  have htext : (f.without body).toList =
      f.before.val.toList ++ (body.toList ++ f.after.val.toList) := by
    unfold Fence.without
    simp only [String.toList_append, List.append_assoc]
  unfold stripFence
  rw [htext, stripFenceChars_without (List.all_eq_true.1 f.before.2)
    (List.all_eq_true.1 f.after.2) h, String.ofList_toList]

theorem stripFence_inBraces (h : InBraces body.toList) : stripFence body = body := by
  have hbare := stripFenceChars_without (List.forall_mem_nil _) (List.forall_mem_nil _) h
  rw [List.nil_append, List.append_nil] at hbare
  unfold stripFence
  rw [hbare, String.ofList_toList]

/-! ## What an answer gives -/

variable {answer answer' : Option String}

theorem reportFrom_congr (h : answer.map stripFence = answer'.map stripFence)
    (transcript : String) :
    reportFrom transcript answer = reportFrom transcript answer' := by
  have hread : (answer.bind fun a => Json.parse? (stripFence a)) =
      answer'.bind fun a => Json.parse? (stripFence a) := by
    have hbind := congrArg (Option.bind · Json.parse?) h
    simpa only [Option.bind_map, Function.comp_def] using hbind
  unfold reportFrom
  rw [hread]

theorem replyFrom_congr (h : answer.map stripFence = answer'.map stripFence) (c : Conversation) :
    replyFrom c answer = replyFrom c answer' := by
  have hread : (answer.map fun a => replyMembers.codec.read (stripFence a)) =
      answer'.map fun a => replyMembers.codec.read (stripFence a) := by
    have hmap := congrArg (Option.map replyMembers.codec.read) h
    simpa only [Option.map_map, Function.comp_def] using hmap
  unfold replyFrom
  rw [hread]

/-- **Fences are transparent.** Of the text of an object in a fence, with any tag and any blanks,
the text is left as it is, whatever stands in it, and so it is without the fence. A report and a
reply are therefore the same, and said to come from the same source, whether the model put its
answer into a fence or not. -/
theorem fences_transparent (f : Fence) (h : InBraces body.toList) :
    stripFence (f.around body) = body ∧ stripFence (f.without body) = body ∧
    (∀ transcript, reportFrom transcript (some (f.around body)) =
      reportFrom transcript (some (f.without body))) ∧
    ∀ c, replyFrom c (some (f.around body)) = replyFrom c (some (f.without body)) := by
  have hsame : (some (f.around body)).map stripFence = (some (f.without body)).map stripFence := by
    rw [Option.map_some, Option.map_some, stripFence_around f h, stripFence_without f h]
  exact ⟨stripFence_around f h, stripFence_without f h, reportFrom_congr hsame,
    replyFrom_congr hsame⟩

/-- A fence with a tag, and blanks of several kinds. -/
def looseFence : Fence where
  tag := "JsOn"
  before := ⟨" \r\n", by decide +kernel⟩
  above := ⟨"\n\t", by decide +kernel⟩
  below := ⟨"\n", by decide +kernel⟩
  after := ⟨"\u2003\n", by decide +kernel⟩
  isTag := by decide +kernel

/-- An object with a reply in which there is a fence of its own. -/
def fencedReply : String :=
  "\x7b\"reply\": \"Is ```json \x7b\x7d``` the form?\", \"shouldEndCall\": false\x7d"

/-- The report and the reply are the model's, with the fence and without it. -/
theorem fences_transparent_loose : InBraces fencedReply.toList ∧
    looseFence.around fencedReply = " \r\n```JsOn\n\t" ++ fencedReply ++ "\n```\u2003\n" ∧
    stripFence (looseFence.around fencedReply) = fencedReply ∧
    (reportFrom "" (some (looseFence.around fencedReply))).source = .ai ∧
    (reportFrom "" (some (looseFence.without fencedReply))).source = .ai ∧
    ∀ c, replyFrom c (some (looseFence.around fencedReply)) =
      replyFrom c (some (looseFence.without fencedReply)) ∧
      replyFrom c (some (looseFence.without fencedReply)) =
        ⟨⟨"Is ```json \x7b\x7d``` the form?", false⟩, .ai⟩ := by
  have hbody : InBraces fencedReply.toList := by decide +kernel
  obtain ⟨hfenced, hplain, hreport, hreply⟩ := fences_transparent looseFence hbody
  have hai : (reportFrom "" (some (looseFence.without fencedReply))).source = .ai := by
    decide +kernel
  refine ⟨hbody, by decide +kernel, hfenced, ?_, hai, fun c => ⟨hreply c, ?_⟩⟩
  · rw [hreport]
    exact hai
  · have hread : replyMembers.codec.read fencedReply =
        .ok ⟨"Is ```json \x7b\x7d``` the form?", false⟩ := by
      decide +kernel
    unfold replyFrom
    rw [Option.map_some, hplain, hread]
    rfl

end Script

/-! ## The desk -/

open Script

/-- The surroundings with a model that puts each answer into a fence that is the text of an
object and was to be one. -/
def Surroundings.fenced (f : Nat → Fence) (s : Surroundings) : Surroundings :=
  { s with
    answer := s.answer.map fun model n r => (model n r).map fun a =>
      if r.jsonMode ∧ InBraces a.toList then (f n).around a else a }

namespace Desk

variable {f : Nat → Fence} {s : Surroundings} {d : Desk} {r : ChatRequest}

theorem ask_fenced_of_text (h : r.jsonMode = false) : d.ask (s.fenced f) r = d.ask s r := by
  unfold ask Surroundings.fenced
  cases s.answer with
  | none => rfl
  | some model => simp [h]

/-- The question is the same, and so is the answer once its fence is taken away. -/
theorem ask_fenced (f : Nat → Fence) (s : Surroundings) (r : ChatRequest) (d : Desk) :
    ∃ answer, d.ask (s.fenced f) r = (answer, (d.ask s r).2) ∧
      answer.map stripFence = (d.ask s r).1.map stripFence := by
  unfold ask Surroundings.fenced
  cases s.answer with
  | none => exact ⟨none, rfl, rfl⟩
  | some model =>
    refine ⟨_, rfl, ?_⟩
    dsimp only
    rw [Option.map_map]
    refine Option.map_congr fun a _ => ?_
    dsimp only [Function.comp]
    split
    · rename_i hobject
      rw [stripFence_around _ hobject.2, stripFence_inBraces hobject.2]
    · rfl

theorem prepare_fenced (job : Job) (a : Attempt) (d : Desk) :
    d.prepare (s.fenced f) job a = d.prepare s job a := by
  unfold prepare
  cases a.toPhone with
  | none => rfl
  | some raw =>
    dsimp only
    rw [ask_fenced_of_text rfl]
    rfl

theorem dial_fenced (job : Job) : dial (s.fenced f) job = dial s job := by
  funext d a
  unfold dial
  rw [prepare_fenced]
  rfl

theorem startJob_fenced (r : StartJob) (d : Desk) : d.startJob (s.fenced f) r = d.startJob s r := by
  unfold startJob
  simp only [dial_fenced]
  rfl

theorem transcript_fenced (sid text : String) (d : Desk) :
    d.transcript (s.fenced f) sid text = d.transcript s sid text := by
  obtain ⟨answer, hask, hanswer⟩ := ask_fenced f s (reportRequest text) d
  unfold transcript
  cases d.jobs.findSid? sid with
  | none => rfl
  | some found =>
    dsimp only
    rw [hask, reportFrom_congr hanswer]
    rfl

theorem gather_fenced (ref : AttemptRef) (speech : Option String) (d : Desk) :
    d.gather (s.fenced f) ref speech = d.gather s ref speech := by
  unfold gather
  cases d.jobs.attempt? ref with
  | none => rfl
  | some found =>
    obtain ⟨answer, hask, hanswer⟩ := ask_fenced f s (replyRequest ⟨⟨found.2.shelterName,
      spokenContext found.1, found.1.request.callbackNumber⟩, history found.2 speech⟩) d
    dsimp only
    rw [hask, replyFrom_congr hanswer]
    rfl

theorem status_fenced (r : StatusReport) (d : Desk) : d.status (s.fenced f) r = d.status s r := by
  unfold status
  rfl

theorem recording_fenced (sid url : String) (d : Desk) :
    d.recording (s.fenced f) sid url = d.recording s sid url := by
  unfold recording
  rfl

/-- Nothing is asked for a transfer. -/
theorem startTransfer_fenced (r : StartTransfer) (d : Desk) :
    d.startTransfer (s.fenced f) r = d.startTransfer s r := by
  have hfind : d.findParties (s.fenced f) r = d.findParties s r := rfl
  have hconsult : consult (s.fenced f) = consult s := rfl
  have hopen : openSession (s.fenced f) = openSession s := rfl
  have hleg : dialLeg (s.fenced f) = dialLeg s := rfl
  have hsettle : settleLeg (s.fenced f) = settleLeg s := rfl
  unfold startTransfer
  rw [hfind, hconsult, hopen, hleg, hsettle]

/-- **The desk does not notice a fence.** -/
theorem perform_fenced (f : Nat → Fence) (s : Surroundings) (d : Desk) (op : Operation) :
    d.perform (s.fenced f) op = d.perform s op := by
  cases op with
  | startJob r => simp only [perform, startJob_fenced]
  | startTransfer r => simp only [perform, startTransfer_fenced]
  | status r => simp only [perform, status_fenced]
  | recording sid url => simp only [perform, recording_fenced]
  | transcript sid text => simp only [perform, transcript_fenced]
  | gather ref speech => simp only [perform, gather_fenced]
  | block raw => rfl
  | unblock raw => rfl
  | reset => rfl
  | restore stored => rfl

/-- A run in which the model puts its answers into fences. -/
def fencedOps (f : Nat → Fence) (ops : List (Surroundings × Operation)) :
    List (Surroundings × Operation) :=
  ops.map fun p => (p.1.fenced f, p.2)

/-- **A run with fences goes as it does without them**, and so it is replied to. -/
theorem run_fenced (f : Nat → Fence) : ∀ (ops : List (Surroundings × Operation)) (d : Desk),
    d.run (fencedOps f ops) = d.run ops ∧ d.replies (fencedOps f ops) = d.replies ops
  | [], _ => ⟨rfl, rfl⟩
  | (s, op) :: ops, d => by
    obtain ⟨hrun, hreplies⟩ := run_fenced f ops (d.perform s op).2
    have hstep := perform_fenced f s d op
    refine ⟨?_, ?_⟩
    · change (d.perform (s.fenced f) op).2.run (fencedOps f ops) = (d.perform s op).2.run ops
      rw [hstep, hrun]
    · change (d.perform (s.fenced f) op).1 ::
          (d.perform (s.fenced f) op).2.replies (fencedOps f ops) =
        (d.perform s op).1 :: (d.perform s op).2.replies ops
      rw [hstep, hreplies]

end Desk

end ShelterLine
