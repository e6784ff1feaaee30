import ShelterLine.Proofs.Document
import ShelterLine.Proofs.FormText
import ShelterLine.Proofs.Provenance
import ShelterLine.Web.Route

/-!
# What is heard comes back to its own attempt

The document of a call says where the provider posts what it hears. The address is built by the
desk, written into the document, read from it by the provider, and taken apart by the router, the
reader of queries and the reader of identifiers. Here they are put together: in whatever document
the address stands, the post comes back to the attempt in whose call the document was executed.
-/

namespace ShelterLine

namespace Text

variable {marks few cs ds : List Char}

/-- None of these marks stands in the text. -/
def FreeOf (marks cs : List Char) : Prop := ∀ c ∈ cs, c ∉ marks

instance (marks cs : List Char) : Decidable (FreeOf marks cs) :=
  decidable_of_iff ((cs.all fun c => !marks.contains c) = true) (by simp [FreeOf])

theorem FreeOf.append (h : FreeOf marks cs) (h' : FreeOf marks ds) : FreeOf marks (cs ++ ds) := by
  intro c hc
  rcases List.mem_append.1 hc with hc | hc
  · exact h c hc
  · exact h' c hc

theorem FreeOf.mono (h : FreeOf marks cs) (hfew : few ⊆ marks) : FreeOf few cs := fun c hc hmem =>
  h c hc (hfew hmem)

end Text

/-! ## Addresses in documents -/

namespace Markup

open Text (FreeOf)

/-- The marks that an address loses in a document. -/
def lostMarks : List Char := ['<', '>', '\'', '"']

mutual

/-- The addresses that the elements of a tree post to. -/
def actions : Markup → List (List Char)
  | text _ => []
  | element _ attributes children => (attributes.lookup "action").toList ++ actionsAll children

/-- The addresses that the elements of some trees post to. -/
def actionsAll : List Markup → List (List Char)
  | [] => []
  | m :: ms => actions m ++ actionsAll ms

end

/-- The document that is handed out as this text posts to one address and no other. -/
def PostsTo (document : String) (address : List Char) : Prop :=
  ∃ tree, tree? document.toList = some tree ∧ tree.actions = [address]

theorem actions_heard (cs : List Char) : (heard cs).actions = [] := by
  unfold heard held
  split <;> rfl

theorem actionsAll_map_heard (lines : List (List Char)) : actionsAll (lines.map heard) = [] := by
  induction lines with
  | nil => rfl
  | cons line lines ih =>
    change actions (heard line) ++ actionsAll (lines.map heard) = []
    rw [actions_heard, ih]
    rfl

/-- An address without a mark that could end it stays whole. -/
theorem filter_address {cs : List Char} (h : FreeOf lostMarks cs) :
    (cs.filter fun c => c ∉ ['<', '>', '\'', '"']) = cs :=
  List.filter_eq_self.2 fun c hc => decide_eq_true (h c hc)

/-- Listening between sentences posts to the address that it was given. -/
theorem actions_listening {url : String} (h : FreeOf lostMarks url.toList)
    (lines : List (List Char)) (otherwise : List Char) :
    (element "Response" [] [listening url (lines.map heard), heard otherwise]).actions =
      [url.toList] := by
  have hlistening : (listening url (lines.map heard)).actions = [url.toList] := by
    change (url.toList.filter fun c => c ∉ ['<', '>', '\'', '"']) ::
      actionsAll (lines.map heard) = _
    rw [filter_address h, actionsAll_map_heard]
  change actions (listening url (lines.map heard)) ++ (actions (heard otherwise) ++ []) = _
  rw [hlistening, actions_heard]
  rfl

theorem intake_postsTo {c : IntakeCall} {url : String} (hc : c.gatherUrl = some url)
    (h : FreeOf lostMarks url.toList) : PostsTo (intake c).toString url.toList :=
  ⟨_, (intake_parsesAs_gather hc).read, actions_listening h _ _⟩

theorem followUp_postsTo (reply : String) {url : String} (h : FreeOf lostMarks url.toList) :
    PostsTo (followUp reply (some url) false).toString url.toList :=
  ⟨_, (followUp_parsesAs_gather reply url).read, actions_listening h [strip reply.toList] _⟩

/-- What hangs up posts to no address. -/
theorem followUp_postsNowhere (reply : String) {url : Option String} {endCall : Bool}
    (h : url = none ∨ endCall = true) :
    ∃ tree, tree? (followUp reply url endCall).toString.toList = some tree ∧ tree.actions = [] := by
  refine ⟨_, (followUp_parsesAs_hangup reply h).read, ?_⟩
  change actions (heard (strip reply.toList)) ++ [] = []
  rw [actions_heard]
  rfl

/-- Texts that are written alike are alike. -/
theorem escape_inj {cs ds : List Char} (h : escape cs = escape ds) : cs = ds := by
  have hcs := Passage.steps_escape [] cs
  rw [h, Passage.steps_escape [] ds] at hcs
  simpa using hcs.symm

end Markup

/-! ## Requests for addresses -/

namespace Web

open Text (FreeOf)

variable {r : Request} {base path query : List Char}

/-- The request is what a service that is reached at the base gets for an address: the base and the
path of the request make together the address up to its query, and the query is the same. -/
structure Request.GoesTo (r : Request) (base address : List Char) : Prop where
  path : base ++ r.path = address.takeWhile fun c => c ≠ '?' && c ≠ '#'
  query : r.query.toList = ((address.takeWhile (· ≠ '#')).dropWhile (· ≠ '?')).drop 1

/-- The marks at which a path ends. -/
def endMarks : List Char := ['?', '#']

/-- Neither a query nor a fragment begins there. -/
theorem not_end (h : FreeOf endMarks path) {c : Char} (hc : c ∈ path) : c ≠ '?' ∧ c ≠ '#' := by
  have hmarks := h c hc
  simp only [endMarks, List.mem_cons, not_or] at hmarks
  exact ⟨hmarks.1, hmarks.2.1⟩

theorem takeWhile_path (h : FreeOf endMarks path) :
    (path ++ '?' :: query).takeWhile (fun c => c ≠ '?' && c ≠ '#') = path := by
  rw [List.takeWhile_append_of_pos fun c hc => by simp [not_end h hc],
    List.takeWhile_cons_of_neg (by decide), List.append_nil]

theorem drop_path (h : FreeOf endMarks path) (hquery : '#' ∉ query) :
    (((path ++ '?' :: query).takeWhile (· ≠ '#')).dropWhile (· ≠ '?')).drop 1 = query := by
  have hwhole : (path ++ '?' :: query).takeWhile (· ≠ '#') = path ++ '?' :: query := by
    refine List.takeWhile_eq_self_iff.2 fun c hc => decide_eq_true ?_
    rcases List.mem_append.1 hc with hc | hc
    · exact (not_end h hc).2
    · rcases List.mem_cons.1 hc with rfl | hc
      · decide
      · rintro rfl
        exact hquery hc
  rw [hwhole, List.dropWhile_append_of_pos fun c hc => decide_eq_true (not_end h hc).1,
    List.dropWhile_cons_of_neg (by decide)]
  rfl

/-- An address that begins with a base is asked for by the path and the query after the base. -/
theorem Request.GoesTo.parts (h : r.GoesTo base (base ++ path ++ '?' :: query))
    (hbase : FreeOf endMarks base) (hpath : FreeOf endMarks path) (hquery : '#' ∉ query) :
    r.path = path ∧ r.query = String.ofList query := by
  have hboth := hbase.append hpath
  have hfront := h.path
  have hback := h.query
  rw [takeWhile_path hboth] at hfront
  rw [drop_path hboth hquery] at hback
  refine ⟨List.append_cancel_left hfront, ?_⟩
  rw [← hback, String.ofList_toList]

/-- A request whose target is what follows the base goes to the address. -/
theorem goesTo_of_place (h : r.place = path ++ '?' :: query) (hbase : FreeOf endMarks base)
    (hpath : FreeOf endMarks path) (hquery : '#' ∉ query) :
    r.GoesTo base (base ++ path ++ '?' :: query) := by
  have hboth := hbase.append hpath
  constructor
  · unfold Request.path
    rw [h, takeWhile_path hpath, takeWhile_path hboth]
  · unfold Request.query
    rw [h, drop_path hpath hquery, drop_path hboth hquery, String.toList_ofList]

end Web

/-! ## The address of an attempt -/

namespace Desk

open Markup (PostsTo)
open Text (FreeOf)

variable {s : Surroundings} {d d' : Desk} {base : String} {ref : AttemptRef}

/-- What the query of an attempt's address says. -/
def gatherFields (ref : AttemptRef) : List (String × String) :=
  [("job_id", ref.jobId.toString), ("attempt_id", ref.attemptId.toString)]

/-- The query of an attempt's address. -/
def gatherQuery (ref : AttemptRef) : List Char :=
  "job_id=".toList ++ ref.jobId.toString.toList ++ "&attempt_id=".toList ++
    ref.attemptId.toString.toList

/-- The address that speech in the call of an attempt is posted to. -/
def gatherAddress (base : String) (ref : AttemptRef) : List Char :=
  base.toList ++ gatherPath.toList ++ '?' :: gatherQuery ref

/-- The marks that no public address may have: those that it would lose in a document, and those at
which its path would end. -/
def badMarks : List Char := ['<', '>', '\'', '"', '?', '#']

/-- No query has one of them. -/
theorem gatherQuery_plain (ref : AttemptRef) : FreeOf badMarks (gatherQuery ref) := by
  have hid (u : Uuid) : FreeOf badMarks u.toString.toList :=
    Uuid.forall_mem_toString (by decide) (by decide) u
  have hjob : FreeOf badMarks "job_id=".toList := by decide
  have hattempt : FreeOf badMarks "&attempt_id=".toList := by decide
  exact ((hjob.append (hid ref.jobId)).append hattempt).append (hid ref.attemptId)

theorem fragment_not_mem_gatherQuery (ref : AttemptRef) : '#' ∉ gatherQuery ref := fun h =>
  gatherQuery_plain ref _ h (by decide)

theorem gatherPath_plain : FreeOf badMarks gatherPath.toList := by decide

/-- What the desk hands out for an attempt is its address, which is not changed in a document. -/
theorem exists_gatherUrl (hs : s.baseUrl = some base) (hbase : FreeOf badMarks base.toList)
    (ref : AttemptRef) :
    ∃ url : String, gatherUrl s ref = some url ∧ url.toList = gatherAddress base ref ∧
      FreeOf Markup.lostMarks url.toList := by
  have hurl : gatherUrl s ref = some (String.ofList (gatherAddress base ref)) := by
    unfold gatherUrl Surroundings.callbackUrl
    rw [hs, Option.map_some, Option.some_inj, ← String.toList_inj, String.toList_ofList]
    unfold gatherAddress gatherQuery
    simp [ToString.toString]
  have hquery : FreeOf Markup.lostMarks ('?' :: gatherQuery ref) :=
    List.forall_mem_cons.2
      ⟨by decide, (gatherQuery_plain ref).mono (List.subset_append_left _ ['?', '#'])⟩
  refine ⟨_, hurl, String.toList_ofList, ?_⟩
  rw [String.toList_ofList]
  exact ((hbase.append gatherPath_plain).mono (List.subset_append_left _ ['?', '#'])).append hquery

/-! ### There and back -/

/-- The query is written from its fields. -/
theorem gatherQuery_eq (ref : AttemptRef) :
    gatherQuery ref = ['&'].intercalate ((gatherFields ref).map Form.written) := by
  unfold gatherQuery gatherFields Form.written
  simp [List.intercalate_cons_cons]

theorem pairs_gatherQuery (ref : AttemptRef) :
    Form.pairs (String.ofList (gatherQuery ref)) = gatherFields ref := by
  have hjob : ("job_id".toList.all fun c => decide (Form.IsPlain c)) = true := by decide
  have hattempt : ("attempt_id".toList.all fun c => decide (Form.IsPlain c)) = true := by decide
  rw [gatherQuery_eq]
  refine Form.pairs_written (List.forall_mem_cons.2 ⟨⟨?_, ref.jobId.plain_toString⟩,
    List.forall_mem_singleton.2 ⟨?_, ref.attemptId.plain_toString⟩⟩)
  · exact fun c hc => of_decide_eq_true (List.all_eq_true.1 hjob c hc)
  · exact fun c hc => of_decide_eq_true (List.all_eq_true.1 hattempt c hc)

/-- **The query of an attempt's address says whose it is.** -/
theorem queryFields_gather {r : Web.Request} (h : r.query = String.ofList (gatherQuery ref)) :
    Web.queryFields ["job_id", "attempt_id"] r = .ok (gatherFields ref) := by
  have hread : Form.read? ["job_id", "attempt_id"] (String.ofList (gatherQuery ref)) =
      some (gatherFields ref) := by
    unfold Form.read?
    rw [pairs_gatherQuery]
    rfl
  unfold Web.queryFields
  rw [h, hread]

/-- Different attempts have different addresses, also as they are written in an attribute. -/
theorem gatherAddress_inj {ref' : AttemptRef}
    (h : Markup.escape (gatherAddress base ref) = Markup.escape (gatherAddress base ref')) :
    ref = ref' := by
  have hquery := (List.cons.inj (List.append_cancel_left (Markup.escape_inj h))).2
  have hfields : gatherFields ref = gatherFields ref' := by
    rw [← pairs_gatherQuery, hquery, pairs_gatherQuery]
  obtain ⟨hjob, hrest⟩ := List.cons.inj hfields
  have hjobId := Uuid.toString_inj (Prod.mk.inj hjob).2
  have hattemptId := Uuid.toString_inj (Prod.mk.inj (List.cons.inj hrest).1).2
  cases ref
  cases ref'
  exact congrArg₂ AttemptRef.mk hjobId hattemptId

/-- A request for an attempt's address has its path and its query. -/
theorem goesTo_gather (hbase : FreeOf badMarks base.toList) {r : Web.Request}
    (hr : r.GoesTo base.toList (gatherAddress base ref)) :
    r.path = gatherPath.toList ∧ r.query = String.ofList (gatherQuery ref) :=
  hr.parts (hbase.mono (List.subset_append_right Markup.lostMarks _))
    (gatherPath_plain.mono (List.subset_append_right Markup.lostMarks _))
    (fragment_not_mem_gatherQuery ref)

/-- What is posted to an attempt's address is the next turn in its call. -/
theorem respond_gather (hbase : FreeOf badMarks base.toList) {r : Web.Request}
    (hr : r.GoesTo base.toList (gatherAddress base ref)) (hpost : r.method = .post)
    {fields : List (String × String)} (hbody : Web.formBody ["SpeechResult"] r = .ok fields)
    (persistent : Bool) :
    Web.respond s persistent r d =
      ({ status := 200, payload := .markup (d.gather s ref (fields.lookup "SpeechResult")).1 },
        (d.gather s ref (fields.lookup "SpeechResult")).2) := by
  obtain ⟨hpath, hquery⟩ := goesTo_gather hbase hr
  have hroute : Web.Route.ofPath? gatherPath.toList = some .gather := by rfl
  have hjob : (gatherFields ref).lookup "job_id" = some ref.jobId.toString := rfl
  have hattempt : (gatherFields ref).lookup "attempt_id" = some ref.attemptId.toString := rfl
  have hact : Web.act s r d .gather = .ok
      ({ status := 200, payload := .markup (d.gather s ref (fields.lookup "SpeechResult")).1 },
        (d.gather s ref (fields.lookup "SpeechResult")).2) := by
    unfold Web.act
    rw [queryFields_gather hquery, hbody]
    simp only [bind, Except.bind, hjob, hattempt, Option.bind_some, Uuid.ofString?_toString]
    rfl
  unfold Web.respond
  rw [hpath, hroute, hpost]
  dsimp only
  rw [if_neg (by decide), if_neg (by decide), if_neg (by decide), hact]

/-! ### Calls -/

/-- If the effect calls for an attempt, the document of the call posts to the address
of this attempt. -/
def PostsHome (base : String) (e : Effect) : Prop :=
  ∀ line ref order, e = .call line (.attempt ref) order →
    PostsTo order.document (gatherAddress base ref)

theorem postsHome_of_quiet {e : Effect} (h : e.Quiet) : PostsHome base e := by
  rintro line ref order rfl
  cases h

theorem Grows.forall {P : Effect → Prop} (h : Grows P d d') (hd : ∀ e ∈ d.trace, P e) :
    ∀ e ∈ d'.trace, P e := by
  obtain ⟨own, htrace, hown⟩ := h.trace
  intro e he
  rw [htrace] at he
  exact (List.mem_append.1 he).elim (hown e) (hd e)

theorem prepare_postsHome (hs : s.baseUrl = some base)
    (hbase : FreeOf badMarks base.toList) {job : Job} {a : Attempt} {script : Script.Sourced String}
    {order : CallOrder}
    (h : d.prepare s job a = (.ready script order, d')) :
    PostsTo order.document (gatherAddress base ⟨job.id, a.id⟩) := by
  unfold prepare at h
  split at h
  · simp at h
  · split at h
    · simp at h
    · simp only [Prod.mk.injEq, Preparation.ready.injEq] at h
      rw [← h.1.2]
      obtain ⟨url, hurl, haddress, hplain⟩ := exists_gatherUrl hs hbase ⟨job.id, a.id⟩
      rw [← haddress]
      exact Markup.intake_postsTo hurl hplain

theorem dial_postsHome (hs : s.baseUrl = some base)
    (hbase : FreeOf badMarks base.toList) (job : Job) (d : Desk) (a : Attempt) :
    Grows (PostsHome base) d (d.dial s job a) := by
  unfold dial
  dsimp only
  have hprep := prepare_notes s job a d
  split
  · rename_i reason d₁ h
    rw [h] at hprep
    exact (hprep.trans (patchAttempt_notes ..)).toGrows.mono fun e => postsHome_of_quiet
  · rename_i script order d₁ h
    rw [h] at hprep
    have hcall := (placeCall_calls s job.mode (.attempt ⟨job.id, a.id⟩) order d₁).toGrows
    refine (hprep.toGrows.mono fun e => postsHome_of_quiet).trans
      (Grows.trans (hcall.mono fun e he => ?_)
        ((settle_notes ..).toGrows.mono fun e => postsHome_of_quiet))
    rcases he with hquiet | rfl
    · exact postsHome_of_quiet hquiet
    · intro line ref order' heq
      simp only [Effect.call.injEq, CallPurpose.attempt.injEq] at heq
      obtain ⟨-, rfl, rfl⟩ := heq
      exact prepare_postsHome hs hbase h

theorem startJob_postsHome (hs : s.baseUrl = some base) (hbase : FreeOf badMarks base.toList)
    (h : ∀ e ∈ d.trace, PostsHome base e) (r : StartJob) :
    ∀ e ∈ (d.startJob s r).2.trace, PostsHome base e := by
  rcases startJob_course s r d with
    ⟨refusal, hcourse, -⟩ | ⟨job, d₁, verdict, d₂, -, -, hmake, hask, hcourse⟩
  · rw [hcourse]
    exact h
  · have hconsult := consult_quiet s (Risk.assess r.survivorContext) r.approved
      r.mode.isLive .callJob job.id.toString d₁
    rw [hask] at hconsult
    obtain ⟨-, rfl⟩ := Prod.mk.inj hmake
    have hasked : Grows (PostsHome base) _ d₂ := hconsult.mono fun e => postsHome_of_quiet
    -- making a job has no effects
    rcases hcourse with ⟨denial, -, hcourse⟩ | ⟨-, d₃, rfl, hcourse⟩
    · rw [hcourse]
      exact hasked.forall h
    · rw [hcourse]
      have hregistered := hasked.trans
        ((registerJob_notes job d₂).toGrows.mono fun e => postsHome_of_quiet)
      refine Grows.forall (List.foldlRecOn (motive := Grows (PostsHome base) _) _ _ hregistered ?_)
        h
      exact fun d' hd' a _ => hd'.trans (dial_postsHome hs hbase _ d' a)

/-- Every call that an operation places for an attempt posts home if all calls before do. -/
theorem perform_postsHome (hs : s.baseUrl = some base) (hbase : FreeOf badMarks base.toList)
    (h : ∀ e ∈ d.trace, PostsHome base e) (op : Operation) :
    ∀ e ∈ (d.perform s op).2.trace, PostsHome base e := by
  rintro _ hcall line ref order rfl
  rcases mem_perform_call hcall with hbefore | ⟨-, ⟨r, rfl⟩, -⟩
  · exact h _ hbefore line ref order rfl
  · exact startJob_postsHome hs hbase h r _ hcall line ref order rfl

/-- Every call for an attempt in a run posts home. -/
theorem run_postsHome {c : SafetyConfig} {ops : List (Surroundings × Operation)}
    (hs : ∀ p ∈ ops, p.1.baseUrl = some base) (hbase : FreeOf badMarks base.toList) :
    ∀ e ∈ ((ofConfig c).run ops).trace, PostsHome base e := by
  induction ops using List.reverseRecOn with
  | nil => exact fun e he => absurd he List.not_mem_nil
  | append_singleton ops last ih =>
    have hbefore := ih fun p hp => hs p (List.mem_append_left _ hp)
    rw [run_concat]
    exact perform_postsHome (hs last (by simp)) hbase hbefore last.2

/-- A turn posts what is heard next to the address of the same attempt, unless it hangs up. -/
theorem gather_postsTo (hs : s.baseUrl = some base) (hbase : FreeOf badMarks base.toList)
    (ref : AttemptRef) (speech : Option String) (d : Desk) :
    PostsTo (d.gather s ref speech).1.toString (gatherAddress base ref) ∨
      ∃ tree, Markup.tree? (d.gather s ref speech).1.toString.toList = some tree ∧ tree.actions =
        [] := by
  unfold gather
  cases d.jobs.attempt? ref with
  | none =>
    dsimp only
    exact Or.inr (Markup.followUp_postsNowhere "Thank you for your time. Goodbye." (Or.inl rfl))
  | some found =>
    dsimp only
    obtain ⟨url, hurl, haddress, hplain⟩ := exists_gatherUrl hs hbase ref
    rw [hurl, ← haddress]
    generalize (Script.replyFrom _ _).value = reply
    cases reply.endCall with
    | true => exact Or.inr (Markup.followUp_postsNowhere _ (Or.inr rfl))
    | false => exact Or.inl (Markup.followUp_postsTo reply.text hplain)

/-- **What is heard comes back to its own attempt.** The documents of a call post to the address of
the attempt that the call is for, and to no other; the address is the base, the path and a query
that is read as the two identifiers of the attempt; whoever posts speech there has the next turn of
this attempt; different attempts have different addresses, also as they are written; and all calls
of a run for an attempt, and all turns of it, post to its address. -/
theorem speech_comes_back (hs : s.baseUrl = some base) (hbase : FreeOf badMarks base.toList) :
    (∀ ref : AttemptRef,
      (∀ c : IntakeCall, c.gatherUrl = gatherUrl s ref →
        PostsTo (Markup.intake c).toString (gatherAddress base ref)) ∧
      (∀ reply, PostsTo (Markup.followUp reply (gatherUrl s ref) false).toString
        (gatherAddress base ref)) ∧
      (∀ speech (d : Desk), PostsTo (d.gather s ref speech).1.toString (gatherAddress base ref) ∨
        ∃ tree, Markup.tree? (d.gather s ref speech).1.toString.toList = some tree ∧ tree.actions =
          []) ∧
      ∀ r : Web.Request, r.GoesTo base.toList (gatherAddress base ref) →
        (Web.queryFields ["job_id", "attempt_id"] r =
            .ok [("job_id", ref.jobId.toString), ("attempt_id", ref.attemptId.toString)] ∧
          Uuid.ofString? ref.jobId.toString = some ref.jobId ∧
          Uuid.ofString? ref.attemptId.toString = some ref.attemptId) ∧
        ∀ s' persistent d fields, r.method = .post → Web.formBody ["SpeechResult"] r = .ok fields →
          Web.respond s' persistent r d =
            ({ status := 200, payload := .markup (d.gather s' ref
              (fields.lookup "SpeechResult")).1 },
              (d.gather s' ref (fields.lookup "SpeechResult")).2)) ∧
    (∀ ref ref' : AttemptRef,
      Markup.escape (gatherAddress base ref) =
      Markup.escape (gatherAddress base ref') → ref = ref') ∧
    ∀ c ops, (∀ p ∈ ops, p.1.baseUrl = some base) → ∀ line ref order,
      .call line (.attempt ref) order ∈ ((ofConfig c).run ops).trace →
        PostsTo order.document (gatherAddress base ref) := by
  refine ⟨fun ref => ?_, fun ref ref' => gatherAddress_inj,
    fun c ops hops line ref order hcall => ?_⟩
  · obtain ⟨url, hurl, haddress, hplain⟩ := exists_gatherUrl hs hbase ref
    refine ⟨fun c hc => ?_, fun reply => ?_, fun speech d => gather_postsTo hs hbase ref speech d,
      fun r hr => ⟨⟨?_, Uuid.ofString?_toString _, Uuid.ofString?_toString _⟩, ?_⟩⟩
    · rw [← haddress]
      exact Markup.intake_postsTo (hc.trans hurl) hplain
    · rw [hurl, ← haddress]
      exact Markup.followUp_postsTo reply hplain
    · exact queryFields_gather (goesTo_gather hbase hr).2
    · exact fun s' persistent d fields hpost hbody => respond_gather hbase hr hpost hbody persistent
  · exact run_postsHome hops hbase _ hcall line ref order rfl

/-- Surroundings that the provider reaches at an address with an ampersand. -/
def amidAmpersands : Surroundings :=
  { Surroundings.calm with baseUrl := some "https://eden.test/a&b" }

/-- A job with one shelter. -/
def harborJob : StartJob where
  mode := .dryRun
  survivorContext := "Needs a bed tonight."
  callbackNumber := none
  anonymous := false
  approved := false
  targets := [⟨1, "Harbor House", some "555-010-0100", none, none⟩]

/-- What the provider posts when somebody at this shelter says that there is room. -/
def harborPost : Web.Request where
  method := .post
  target := "/webhooks/twilio/gather?job_id=00000000-0000-0000-0000-000000000000" ++
    "&attempt_id=00000000-0000-0000-0000-000000000000"
  contentType := some "application/x-www-form-urlencoded"
  body := "CallSid=CA0&SpeechResult=We+have+a+bed."

/-- The desk after such a job. -/
def harborDesk : Desk := (ofConfig {}).run [(amidAmpersands, .startJob harborJob)]

/-- The call of such a job posts to an address that has the ampersand, and what is posted there is
the next turn of its attempt. -/
theorem speech_comes_back_harborPost :
    (∃ line order, .call line (.attempt ⟨.ofNat 0, .ofNat 0⟩) order ∈ harborDesk.trace ∧
      PostsTo order.document ("https://eden.test/a&b".toList ++ harborPost.target.toList)) ∧
    Web.respond amidAmpersands false harborPost harborDesk =
      let turn := harborDesk.gather amidAmpersands ⟨.ofNat 0, .ofNat 0⟩ (some "We have a bed.")
      ({ status := 200, payload := .markup turn.1 }, turn.2) := by
  have hs : amidAmpersands.baseUrl = some "https://eden.test/a&b" := rfl
  have hbase : FreeOf badMarks "https://eden.test/a&b".toList := by decide
  have haddress : gatherAddress "https://eden.test/a&b" ⟨.ofNat 0, .ofNat 0⟩ =
      "https://eden.test/a&b".toList ++ harborPost.target.toList := by decide +kernel
  have hplace : harborPost.place =
      gatherPath.toList ++ '?' :: gatherQuery ⟨.ofNat 0, .ofNat 0⟩ := by decide +kernel
  have hcalled : harborDesk.Called ⟨.ofNat 0, .ofNat 0⟩ := by decide +kernel
  have hbody : Web.formBody ["SpeechResult"] harborPost =
      .ok [("SpeechResult", "We have a bed.")] := by rfl
  obtain ⟨hhome, -, hcalls⟩ := speech_comes_back hs hbase
  constructor
  · obtain ⟨_, hcall, line, order, rfl⟩ := hcalled
    refine ⟨line, order, hcall, ?_⟩
    rw [← haddress]
    exact hcalls {} _ (List.forall_mem_singleton.2 hs) line _ order hcall
  · obtain ⟨-, -, -, hposts⟩ := hhome ⟨.ofNat 0, .ofNat 0⟩
    have hgoes := Web.goesTo_of_place hplace
      (hbase.mono (List.subset_append_right Markup.lostMarks _))
      (gatherPath_plain.mono (List.subset_append_right Markup.lostMarks _))
      (fragment_not_mem_gatherQuery _)
    have hspeech : [("SpeechResult", "We have a bed.")].lookup "SpeechResult" =
        some "We have a bed." := rfl
    have hturn := (hposts harborPost hgoes).2 amidAmpersands false harborDesk _ rfl hbody
    rw [hspeech] at hturn
    exact hturn

end Desk

end ShelterLine
