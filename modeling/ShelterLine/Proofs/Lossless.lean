import ShelterLine.Desk.Request
import ShelterLine.Event
import ShelterLine.Proofs.Row
import ShelterLine.Proofs.TakenIn
import ShelterLine.Script.Generator

/-!
# Nothing is lost in JSON

Every record that is sent, stored or asked for is read from its text as it was, so nothing is lost
when it is read, written again and read once more. Where a record was read from another text, with
fields in another order, left out, or unknown, with a time at an offset, it is then written in the
one way that its writer has.

A time is written for years of four digits only, so this is said of records whose times
lie in such years. An event says which kind it is in a field that may come last; its
reader takes in the text first.
-/

namespace ShelterLine

open Json Json.Codec Json.Members

/-- What is written is read back, and what was read from any text is written so that it is read
again and then written the same. This is said of values that can be written. -/
structure Json.Codec.Lossless {α : Type} (c : Codec α) (writable : α → Prop) : Prop where
  read_print : ∀ a, writable a → c.read (c.print a) = .ok a
  canonical : ∀ text a, c.read text = .ok a → writable a →
    c.read (c.print a) = .ok a ∧ (c.read (c.print a)).map c.print = .ok (c.print a)

theorem Json.Codec.lossless_of_keeps {α : Type} {c : Codec α} {writable : α → Prop} {depth : Nat}
    (h : ∀ a, writable a → c.Keeps depth a) (hdepth : depth ≤ maxDepth) : c.Lossless writable where
  read_print a ha := (h a ha).read_print hdepth
  canonical _ a _ ha := by
    rw [(h a ha).read_print hdepth]
    exact ⟨rfl, rfl⟩

/-! ## What is asked for -/

theorem Role.naming_faithful : Role.naming.Faithful := fun r => by cases r <;> rfl

theorem Event.Kind.naming_faithful : Event.Kind.naming.Faithful := fun k => by cases k <;> rfl

theorem Target.keeps_codec {depth : Nat} (t : Target) :
    Target.members.codec.Keeps (depth + 1) t := by
  have hmembers : Target.members.Keeps depth t t :=
    keeps_required (keeps_int64 _) |>.map Target.mk
      |>.seq (keeps_required (keeps_string _))
      |>.seq (keeps_withDefault (keeps_option keeps_string nofun _))
      |>.seq (keeps_optional keeps_string nofun)
      |>.seq (keeps_optional keeps_string nofun)
  exact hmembers.codec (by decide)

theorem StartJob.keeps_codec {depth : Nat} (r : StartJob) :
    StartJob.members.codec.Keeps (depth + 3) r := by
  have hmembers : StartJob.members.Keeps (depth + 2) r r :=
    keeps_withDefault (keeps_name Mode.naming_faithful _) |>.map StartJob.mk
      |>.seq (keeps_required (keeps_string _))
      |>.seq (keeps_withDefault (keeps_option keeps_string nofun _))
      |>.seq (keeps_withDefault (keeps_bool _))
      |>.seq (keeps_withDefault (keeps_bool _))
      |>.seq (keeps_required (keeps_list fun t _ => Target.keeps_codec t))
  exact hmembers.codec (by decide)

theorem StartTransfer.keeps_codec {depth : Nat} (r : StartTransfer) :
    StartTransfer.members.codec.Keeps (depth + 1) r := by
  have hmembers : StartTransfer.members.Keeps depth r r :=
    keeps_withDefault (keeps_name Mode.naming_faithful _) |>.map StartTransfer.mk
      |>.seq (keeps_required (keeps_uuid _))
      |>.seq (keeps_required (keeps_uuid _))
      |>.seq (keeps_required (keeps_string _))
      |>.seq (keeps_withDefault (keeps_option keeps_string nofun _))
      |>.seq (keeps_withDefault (keeps_option keeps_string nofun _))
      |>.seq (keeps_withDefault (keeps_bool _))
  exact hmembers.codec (by decide)

theorem ChatMessage.keeps_codec {depth : Nat} (m : ChatMessage) :
    ChatMessage.members.codec.Keeps (depth + 1) m := by
  have hmembers : ChatMessage.members.Keeps depth m m :=
    keeps_required (keeps_name Role.naming_faithful _) |>.map ChatMessage.mk
      |>.seq (keeps_required (keeps_string _))
  exact hmembers.codec (by decide)

theorem SpokenReply.keeps_codec {depth : Nat} (r : SpokenReply) :
    Script.replyMembers.codec.Keeps (depth + 1) r := by
  have hmembers : Script.replyMembers.Keeps depth r r :=
    keeps_required (keeps_string _) |>.map SpokenReply.mk
      |>.seq (keeps_withDefault (keeps_bool _))
  exact hmembers.codec (by decide)

/-! ## Records -/

theorem JobRequest.keeps_codec {depth : Nat} (r : JobRequest) :
    JobRequest.members.codec.Keeps (depth + 2) r := by
  have hmembers : JobRequest.members.Keeps (depth + 1) r r :=
    keeps_required (keeps_string _) |>.map JobRequest.mk
      |>.seq (keeps_optional keeps_string nofun)
      |>.seq (keeps_withDefault (keeps_bool _))
      |>.seq (keeps_withDefault (keeps_bool _))
      |>.seq (keeps_required (keeps_list fun n _ => keeps_int64 n))
  exact hmembers.codec (by decide)

theorem Job.keeps_codec {depth : Nat} {j : Job} (h : j.FourDigitYears) :
    Job.members.codec.Keeps (depth + 5) j := by
  have hmembers : Job.members.Keeps (depth + 4) j j :=
    keeps_required (keeps_uuid _) |>.map Job.mk
      |>.seq (keeps_required (keeps_name Mode.naming_faithful _))
      |>.seq (keeps_required (keeps_name JobStatus.naming_faithful _))
      |>.seq (keeps_required (keeps_instant h.createdAt))
      |>.seq (keeps_required (keeps_instant h.updatedAt))
      |>.seq (keeps_required (JobRequest.keeps_codec _))
      |>.seq (keeps_required (keeps_list fun a ha => Attempt.keeps_codec (h.attempts a ha)))
  exact hmembers.codec (by decide)

theorem Session.keeps_codec {depth : Nat} {s : Session} (h : s.FourDigitYears) :
    Session.members.codec.Keeps (depth + 2) s := by
  have hmembers : Session.members.Keeps (depth + 1) s s :=
    keeps_required (keeps_uuid _) |>.map Session.mk
      |>.seq (keeps_required (keeps_name Mode.naming_faithful _))
      |>.seq (keeps_required (keeps_name TransferStatus.naming_faithful _))
      |>.seq (keeps_required (keeps_instant h.createdAt))
      |>.seq (keeps_required (keeps_instant h.updatedAt))
      |>.seq (keeps_required (keeps_string _))
      |>.seq (keeps_required (keeps_uuid _))
      |>.seq (keeps_required (keeps_uuid _))
      |>.seq (keeps_required (keeps_string _))
      |>.seq (keeps_required (keeps_string _))
      |>.seq (keeps_required (keeps_string _))
      |>.seq (keeps_optional keeps_string nofun)
      |>.seq (keeps_optional keeps_string nofun)
      |>.seq (keeps_withDefault (LegSids.keeps_codec _))
  exact hmembers.codec (by decide)

theorem Escalation.keeps_codec {depth : Nat} {e : Escalation} (h : e.createdAt.FourDigitYear) :
    Escalation.members.codec.Keeps (depth + 1) e := by
  have hmembers : Escalation.members.Keeps depth e e :=
    keeps_required (keeps_uuid _) |>.map Escalation.mk
      |>.seq (keeps_required (keeps_instant h))
      |>.seq (keeps_required (keeps_name EscalationSource.naming_faithful _))
      |>.seq (keeps_required (keeps_string _))
      |>.seq (keeps_required (keeps_string _))
      |>.seq (keeps_optional keeps_string nofun)
  exact hmembers.codec (by decide)

/-! ## Records in texts that have been taken in -/

theorem IntakeReport.readsTakenIn : IntakeReport.members.codec.ReadsTakenIn := by
  refine ReadsTakenIn.codec ?_
  exact readsTakenIn_required (readsTakenIn_name _) |>.map _
    |>.seq (readsTakenIn_optional (readsTakenIn_whole _ _))
    |>.seq (readsTakenIn_withDefault readsTakenIn_string.list)
    |>.seq (readsTakenIn_withDefault readsTakenIn_bool)
    |>.seq (readsTakenIn_required readsTakenIn_string)

theorem JobRequest.readsTakenIn : JobRequest.members.codec.ReadsTakenIn := by
  refine ReadsTakenIn.codec ?_
  exact readsTakenIn_required readsTakenIn_string |>.map _
    |>.seq (readsTakenIn_optional readsTakenIn_string)
    |>.seq (readsTakenIn_withDefault readsTakenIn_bool)
    |>.seq (readsTakenIn_withDefault readsTakenIn_bool)
    |>.seq (readsTakenIn_required (readsTakenIn_whole _ _).list)

theorem Attempt.readsTakenIn : Attempt.members.codec.ReadsTakenIn := by
  refine ReadsTakenIn.codec ?_
  exact readsTakenIn_required (readsTakenIn_text _ _) |>.map _
    |>.seq (readsTakenIn_required (readsTakenIn_text _ _))
    |>.seq (readsTakenIn_required (readsTakenIn_whole _ _))
    |>.seq (readsTakenIn_required readsTakenIn_string)
    |>.seq (readsTakenIn_nullable readsTakenIn_string)
    |>.seq (readsTakenIn_required (readsTakenIn_name _))
    |>.seq (readsTakenIn_optional readsTakenIn_string)
    |>.seq (readsTakenIn_optional readsTakenIn_string)
    |>.seq (readsTakenIn_optional (readsTakenIn_name _))
    |>.seq (readsTakenIn_optional readsTakenIn_string)
    |>.seq (readsTakenIn_optional readsTakenIn_string)
    |>.seq (readsTakenIn_optional readsTakenIn_string)
    |>.seq (readsTakenIn_optional IntakeReport.readsTakenIn)
    |>.seq (readsTakenIn_required (readsTakenIn_text _ _))

theorem Job.readsTakenIn : Job.members.codec.ReadsTakenIn := by
  refine ReadsTakenIn.codec ?_
  exact readsTakenIn_required (readsTakenIn_text _ _) |>.map _
    |>.seq (readsTakenIn_required (readsTakenIn_name _))
    |>.seq (readsTakenIn_required (readsTakenIn_name _))
    |>.seq (readsTakenIn_required (readsTakenIn_text _ _))
    |>.seq (readsTakenIn_required (readsTakenIn_text _ _))
    |>.seq (readsTakenIn_required JobRequest.readsTakenIn)
    |>.seq (readsTakenIn_required Attempt.readsTakenIn.list)

theorem LegSids.readsTakenIn : LegSids.members.codec.ReadsTakenIn := by
  refine ReadsTakenIn.codec ?_
  exact readsTakenIn_optional readsTakenIn_string |>.map _
    |>.seq (readsTakenIn_optional readsTakenIn_string)

theorem Session.readsTakenIn : Session.members.codec.ReadsTakenIn := by
  refine ReadsTakenIn.codec ?_
  exact readsTakenIn_required (readsTakenIn_text _ _) |>.map _
    |>.seq (readsTakenIn_required (readsTakenIn_name _))
    |>.seq (readsTakenIn_required (readsTakenIn_name _))
    |>.seq (readsTakenIn_required (readsTakenIn_text _ _))
    |>.seq (readsTakenIn_required (readsTakenIn_text _ _))
    |>.seq (readsTakenIn_required readsTakenIn_string)
    |>.seq (readsTakenIn_required (readsTakenIn_text _ _))
    |>.seq (readsTakenIn_required (readsTakenIn_text _ _))
    |>.seq (readsTakenIn_required readsTakenIn_string)
    |>.seq (readsTakenIn_required readsTakenIn_string)
    |>.seq (readsTakenIn_required readsTakenIn_string)
    |>.seq (readsTakenIn_optional readsTakenIn_string)
    |>.seq (readsTakenIn_optional readsTakenIn_string)
    |>.seq (readsTakenIn_withDefault LegSids.readsTakenIn)

theorem Escalation.readsTakenIn : Escalation.members.codec.ReadsTakenIn := by
  refine ReadsTakenIn.codec ?_
  exact readsTakenIn_required (readsTakenIn_text _ _) |>.map _
    |>.seq (readsTakenIn_required (readsTakenIn_text _ _))
    |>.seq (readsTakenIn_required (readsTakenIn_name _))
    |>.seq (readsTakenIn_required readsTakenIn_string)
    |>.seq (readsTakenIn_required readsTakenIn_string)
    |>.seq (readsTakenIn_optional readsTakenIn_string)

/-! ## Values have no flaw -/

namespace Json

mutual

theorem value_toDraft : ∀ v : Json, ∃ w, (toDraft v).value = .ok w
  | .null => ⟨.null, rfl⟩
  | .bool b => ⟨.bool b, rfl⟩
  | .num n => ⟨.num n, rfl⟩
  | .str s => ⟨.str s, rfl⟩
  | .arr items => by
    obtain ⟨ws, hws⟩ := valueItems_itemsToDraft items
    refine ⟨.arr ws, ?_⟩
    rw [toDraft, Draft.value, hws]
    rfl
  | .obj fields => by
    obtain ⟨ws, hws⟩ := valueFields_fieldsToDraft [] fields
    refine ⟨.obj ws, ?_⟩
    rw [toDraft, Draft.value, hws]
    rfl

theorem valueItems_itemsToDraft : ∀ vs : List Json, ∃ ws, valueItems (itemsToDraft vs) = .ok ws
  | [] => ⟨[], rfl⟩
  | v :: vs => by
    obtain ⟨w, hw⟩ := value_toDraft v
    obtain ⟨ws, hws⟩ := valueItems_itemsToDraft vs
    refine ⟨w :: ws, ?_⟩
    rw [itemsToDraft, valueItems, hw, hws]
    rfl

theorem valueFields_fieldsToDraft (done : List (String × Json)) :
    ∀ fs : List (String × Json), ∃ gs, valueFields done (fieldsToDraft fs) = .ok gs
  | [] => ⟨done, rfl⟩
  | (k, v) :: fs => by
    obtain ⟨w, hw⟩ := value_toDraft v
    obtain ⟨gs, hgs⟩ := valueFields_fieldsToDraft (insertField k w done) fs
    refine ⟨gs, ?_⟩
    rw [fieldsToDraft, valueFields, hw]
    exact hgs

end

end Json

/-! ## Events -/

namespace Event

/-- An event all of whose times lie in years of four digits. -/
structure FourDigitYears (e : Event) : Prop where
  jobs : ∀ j ∈ e.jobs, j.FourDigitYears
  transfers : ∀ t ∈ e.transfers, t.FourDigitYears
  escalations : ∀ r ∈ e.escalations, r.createdAt.FourDigitYear

/-- Fields that are not the kind are passed. -/
theorem findKind_fieldsToDraft (kind : Option Kind) {fs : List (String × Json)}
    (h : ∀ f ∈ fs, f.1 ≠ "type") : findKind kind (fieldsToDraft fs) = .ok kind := by
  induction fs with
  | nil => rfl
  | cons f fs ih =>
    obtain ⟨k, v⟩ := f
    obtain ⟨w, hw⟩ := value_toDraft v
    have hk : k ≠ "type" := h (k, v) List.mem_cons_self
    rw [fieldsToDraft, findKind, checkText, hw]
    · exact ih fun g hg => h g (List.mem_cons_of_mem _ hg)
    · exact hk

theorem filter_fieldsToDraft {fs : List (String × Json)} (h : ∀ f ∈ fs, f.1 ≠ "type") :
    ((fieldsToDraft fs).filter fun f => f.1 ≠ some "type") = fieldsToDraft fs := by
  induction fs with
  | nil => rfl
  | cons f fs ih =>
    obtain ⟨k, v⟩ := f
    have hk : k ≠ "type" := h (k, v) List.mem_cons_self
    rw [fieldsToDraft, List.filter_cons_of_pos (by simpa using hk),
      ih fun g hg => h g (List.mem_cons_of_mem _ hg)]

/-- **An event is kept if the members of its kind are kept**, taken in or not, and none of them is
called like the kind. -/
theorem keeps_codec_of_members {σ : Type} {m : Members σ Event} {s : σ} {e : Event} {depth : Nat}
    (h : m.Keeps depth s e) (htaken : m.ReadsTakenIn) (hnodup : m.names.Nodup)
    (htype : "type" ∉ m.names) (hwrite : e.encodeBody = m.write s)
    (hread : ∀ d, decodeBody e.kind d = (decodeBody.body d m).mapError fun _ => .mismatch) :
    codec.Keeps (depth + 1) e where
  plain := .obj fun f hf => by
    rcases List.mem_cons.1 hf with rfl | hf
    · exact .str _
    · rw [hwrite] at hf
      exact h.plain f hf
  decode := by
    have hnames : ∀ f ∈ m.write s, f.1 ≠ "type" := by
      rintro f hf heq
      exact htype (heq ▸ h.names.subset (List.mem_map_of_mem hf))
    have hkind : decodeKind (.str (Kind.naming.name e.kind)) = .ok e.kind := by
      have hstring : string.decode (.str (Kind.naming.name e.kind)) =
          .ok (Kind.naming.name e.kind) := rfl
      rw [decodeKind, hstring]
      dsimp only [bind, Except.bind]
      rw [Kind.naming_faithful e.kind]
    have hfind : findKind none
        ((some "type", .str (Kind.naming.name e.kind)) :: fieldsToDraft (m.write s)) =
        .ok (some e.kind) := by
      rw [findKind, hkind]
      exact findKind_fieldsToDraft (some e.kind) hnames
    have hbody : decodeBody.body (.obj (fieldsToDraft (m.write s)) none) m = .ok e :=
      htaken.decodeFields (h.decodeFields hnodup)
    change codec.decode (.obj ((some "type", .str (Kind.naming.name e.kind)) ::
      fieldsToDraft e.encodeBody) none) = .ok e
    rw [hwrite, codec]
    dsimp only
    rw [hfind]
    dsimp only [bind, Except.bind, checkStop]
    rw [List.filter_cons_of_neg (by simp), filter_fieldsToDraft hnames, hread, hbody]
    rfl

theorem keeps_codec {depth : Nat} {e : Event} (h : e.FourDigitYears) :
    codec.Keeps (depth + 7) e := by
  cases e with
  | snapshot js ts es =>
    refine keeps_codec_of_members (m := snapshotMembers) (s := .snapshot js ts es) ?_ ?_ (by decide)
      (by decide) rfl fun _ => rfl
    · exact keeps_required (keeps_list fun j hj => Job.keeps_codec (h.jobs j hj)) |>.map snapshot
        |>.seq (keeps_required (keeps_list fun t ht => Session.keeps_codec (h.transfers t ht)))
        |>.seq (keeps_required (keeps_list fun r hr => Escalation.keeps_codec (h.escalations r hr)))
    · exact readsTakenIn_required Job.readsTakenIn.list |>.map _
        |>.seq (readsTakenIn_required Session.readsTakenIn.list)
        |>.seq (readsTakenIn_required Escalation.readsTakenIn.list)
  | jobUpdated j =>
    refine keeps_codec_of_members (m := jobMembers) (s := j) ?_ ?_ (by decide) (by decide) rfl
      fun _ => rfl
    · exact keeps_required (Job.keeps_codec (h.jobs j List.mem_cons_self)) |>.map jobUpdated
    · exact readsTakenIn_required Job.readsTakenIn |>.map _
  | transferUpdated t =>
    refine keeps_codec_of_members (m := transferMembers) (s := t) ?_ ?_ (by decide) (by decide) rfl
      fun _ => rfl
    · exact keeps_required (Session.keeps_codec (h.transfers t List.mem_cons_self))
        |>.map transferUpdated
    · exact readsTakenIn_required Session.readsTakenIn |>.map _
  | escalationRecorded r =>
    have hr : Escalation.members.codec.Keeps (depth + 6) r :=
      Escalation.keeps_codec (h.escalations r List.mem_cons_self)
    refine keeps_codec_of_members (m := escalationMembers) (s := r) ?_ ?_ (by decide)
      (by decide) rfl fun _ => rfl
    · exact keeps_required hr |>.map escalationRecorded
    · exact readsTakenIn_required Escalation.readsTakenIn |>.map _

end Event

/-! ## All codecs -/

/-- **Nothing is lost in JSON**, whichever record it is. -/
theorem codecs_lossless :
    Job.members.codec.Lossless Job.FourDigitYears ∧
    Attempt.members.codec.Lossless (·.updatedAt.FourDigitYear) ∧
    JobRequest.members.codec.Lossless (fun _ => True) ∧
    Target.members.codec.Lossless (fun _ => True) ∧
    IntakeReport.members.codec.Lossless (fun _ => True) ∧
    Session.members.codec.Lossless Session.FourDigitYears ∧
    LegSids.members.codec.Lossless (fun _ => True) ∧
    Escalation.members.codec.Lossless (·.createdAt.FourDigitYear) ∧
    StartJob.members.codec.Lossless (fun _ => True) ∧
    StartTransfer.members.codec.Lossless (fun _ => True) ∧
    ChatMessage.members.codec.Lossless (fun _ => True) ∧
    Script.replyMembers.codec.Lossless (fun _ => True) ∧
    Event.codec.Lossless Event.FourDigitYears := by
  -- no record is nested as deep as a reader goes
  have hdepth : 7 ≤ maxDepth := by decide
  refine ⟨?job, ?attempt, ?request, ?target, ?report, ?session, ?sids, ?escalation, ?startJob,
    ?startTransfer, ?message, ?reply, ?event⟩
  case job => exact lossless_of_keeps (fun _ => Job.keeps_codec) hdepth
  case attempt => exact lossless_of_keeps (fun _ => Attempt.keeps_codec) hdepth
  case request => exact lossless_of_keeps (fun r _ => JobRequest.keeps_codec r) hdepth
  case target => exact lossless_of_keeps (fun t _ => Target.keeps_codec t) hdepth
  case report => exact lossless_of_keeps (fun r _ => IntakeReport.keeps_codec r) hdepth
  case session => exact lossless_of_keeps (fun _ => Session.keeps_codec) hdepth
  case sids => exact lossless_of_keeps (fun s _ => LegSids.keeps_codec s) hdepth
  case escalation => exact lossless_of_keeps (fun _ => Escalation.keeps_codec) hdepth
  case startJob => exact lossless_of_keeps (fun r _ => StartJob.keeps_codec r) hdepth
  case startTransfer =>
    exact lossless_of_keeps (fun r _ => StartTransfer.keeps_codec r) hdepth
  case message => exact lossless_of_keeps (fun m _ => ChatMessage.keeps_codec m) hdepth
  case reply => exact lossless_of_keeps (fun r _ => SpokenReply.keeps_codec r) hdepth
  case event => exact lossless_of_keeps (fun _ => Event.keeps_codec) hdepth

/-- The fields of an escalation in another order, one of them unknown, its source as an object, its
identifier as a URN and its time at an offset. -/
theorem codecs_lossless_from_offset :
    ∃ e, Escalation.members.codec.read
      ("\x7b\"reason\":\"r\\u00e9\",\"source\":\x7b\"call_job\":null\x7d," ++
      "\"later\":[1.5,\x7b\x7d],\"created_at\":\"2024-03-01T01:30:59.25+01:30\"," ++
      "\"details\":null,\"escalation_id\":" ++
      "\"urn:uuid:00000000-0000-0000-0000-00000000000A\",\"reference_id\":\"\"\x7d") =
        .ok e ∧
      Escalation.members.codec.read (Escalation.members.codec.print e) = .ok e := by
  obtain ⟨-, -, -, -, -, -, -, hescalation, -⟩ := codecs_lossless
  refine ⟨⟨.ofNat 10, ⟨739311, 59, 250000000, by decide, by decide⟩, .callJob, "", "ré", none⟩,
    ?_, ?_⟩
  · decide +kernel
  · exact hescalation.read_print _ (by decide +kernel)

end ShelterLine
