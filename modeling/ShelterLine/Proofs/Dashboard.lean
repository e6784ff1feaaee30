import Mathlib.Data.List.Nodup
import ShelterLine.Proofs.Told
import ShelterLine.Service

/-!
# Dashboards

One who watches has a view of the registers: a snapshot at first, and from then on what every event
says. One who falls behind loses events and gets a snapshot in their place, which is newer than the
events that come next, so the view goes back before it goes on. It still ends where the registers
are: an event has a whole record, the last event about a record has it as it is, and every event
that is lost is older than the snapshot, every event that is not is still to come.
-/

namespace ShelterLine

/-- The job that an event says has changed. -/
def Event.job? : Event → Option Job
  | jobUpdated j => some j
  | _ => none

/-- The session that an event says has changed. -/
def Event.session? : Event → Option Session
  | transferUpdated t => some t
  | _ => none

/-! ## The last word about a record -/

section

variable {σ : Type} {id : σ → Uuid} {f : Event → Option σ} {es new : List Event}
  {k : Nat} {u : Uuid} {xs ys view : List σ}

/-- The record of an identifier as some events have it last. -/
def latest (id : σ → Uuid) (f : Event → Option σ) (u : Uuid) (es : List Event) : Option σ :=
  (es.filterMap f).reverse.find? (id · = u)

theorem latest_append : latest id f u (es ++ new) = (latest id f u new).or (latest id f u es) := by
  unfold latest
  rw [List.filterMap_append, List.reverse_append, List.find?_append]

theorem latest_of_filterMap {o : Option σ} (h : es.filterMap f = o.toList) :
    latest id f u es = o.filter (id · = u) := by
  unfold latest
  rw [h]
  cases o with
  | none => rfl
  | some x => simp [Option.filter]

/-- Puts a record in the place of an older version. -/
def put (id : σ → Uuid) (x : σ) (xs : List σ) : List σ := x :: xs.filter (id · ≠ id x)

/-- Records are what events say of them last. -/
structure Mirrors (id : σ → Uuid) (f : Event → Option σ) (es : List Event) (xs : List σ) :
    Prop where
  nodup : (xs.map id).Nodup
  find? : ∀ u, xs.find? (id · = u) = latest id f u es

theorem Mirrors.recorded {fresh : σ → Prop} {next : σ → σ → Prop} {o : Option σ}
    (h : Mirrors id f es xs) (hr : Recorded id fresh next xs o ys)
    (hnew : new.filterMap f = o.toList) :
    Mirrors id f (es ++ new) ys := by
  refine ⟨hr.nodup h.nodup, fun u => ?_⟩
  rw [hr.find?, latest_append, latest_of_filterMap hnew, h.find?]

/-- Whoever has this view and goes on with event `k` sees what the events say last. -/
structure Sees (id : σ → Uuid) (f : Event → Option σ) (es : List Event) (k : Nat) (view : List σ) :
    Prop where
  nodup : (view.map id).Nodup
  sees : ∀ u, latest id f u es = (latest id f u (es.drop k)).or (view.find? (id · = u))

/-- What is new is read later. -/
theorem Sees.append (h : Sees id f es k view) (hk : k ≤ es.length) :
    Sees id f (es ++ new) k view := by
  refine ⟨h.nodup, fun u => ?_⟩
  rw [List.drop_append_of_le_length hk, latest_append, latest_append, h.sees, Option.or_assoc]

/-- What is read is seen. -/
theorem Sees.read {e : Event} (h : Sees id f es k view) (he : es[k]? = some e) :
    Sees id f es (k + 1) ((f e).elim view (put id · view)) := by
  obtain ⟨hlt, hget⟩ := List.getElem?_eq_some_iff.1 he
  have hunread : es.drop k = [e] ++ es.drop (k + 1) := by
    rw [List.drop_eq_getElem_cons hlt, hget, List.singleton_append]
  have hlatest : ∀ u, latest id f u es = (latest id f u (es.drop (k + 1))).or
      (((f e).filter (id · = u)).or (view.find? (id · = u))) := by
    intro u
    have hfirst : [e].filterMap f = (f e).toList := by cases hf : f e <;> simp [hf]
    rw [h.sees, hunread, latest_append, latest_of_filterMap hfirst, Option.or_assoc]
  cases hf : f e with
  | none =>
    rw [hf] at hlatest
    exact ⟨h.nodup, hlatest⟩
  | some x =>
    refine ⟨nodup_key_cons_filter id x h.nodup, fun u => ?_⟩
    rw [hlatest, hf, Option.elim_some]
    unfold put
    rw [find?_key_cons_filter, Option.filter_some]
    split <;> simp_all

/-- A snapshot shows the records as they are: nothing that is still unread says anything else. -/
theorem Mirrors.sees (h : Mirrors id f es xs) (hview : view.Perm xs) (k : Nat) :
    Sees id f es k view := by
  have hnodup : (view.map id).Nodup := (hview.map id).nodup_iff.2 h.nodup
  refine ⟨hnodup, fun u => ?_⟩
  have hfound : view.find? (id · = u) = xs.find? (id · = u) := by
    refine Option.ext fun x => ?_
    rw [find?_key_eq_some_iff hnodup, find?_key_eq_some_iff h.nodup, hview.mem_iff]
  have hsplit : latest id f u es = (latest id f u (es.drop k)).or (latest id f u (es.take k)) := by
    rw [← latest_append, List.take_append_drop]
  rw [hfound, h.find?, hsplit, ← Option.or_assoc, Option.or_self]

/-- Where nothing is unread the view is what there is. -/
theorem Sees.perm (h : Sees id f es k view) (hk : es.drop k = []) (hxs : Mirrors id f es xs) :
    view.Perm xs := by
  refine (List.perm_ext_iff_of_nodup (List.Nodup.of_map id h.nodup)
    (List.Nodup.of_map id hxs.nodup)).2 fun x => ?_
  have hfound : view.find? (id · = id x) = xs.find? (id · = id x) := by
    rw [hxs.find?, h.sees, hk]
    rfl
  have hmem : ∀ {zs : List σ}, (zs.map id).Nodup → (x ∈ zs ↔ zs.find? (id · = id x) = some x) :=
    fun hz => by rw [find?_key_eq_some_iff hz, and_iff_left rfl]
  rw [hmem h.nodup, hmem hxs.nodup, hfound]

end

/-! ## The bus as a window -/

namespace Bus

variable {α : Type} {b : Bus α} {es : List α} {name : String} {k : Nat}

/-- The bus has the newest of these events, and these are all. -/
structure Holds (b : Bus α) (es : List α) : Prop where
  published : b.published = es.length
  kept : b.kept = es.reverse.take capacity

theorem Holds.publish (h : b.Holds es) (e : α) : (b.publish e).Holds (es ++ [e]) where
  published := by
    rw [List.length_append, List.length_singleton, ← h.published]
    rfl
  kept := by
    change (e :: b.kept).take capacity = _
    rw [h.kept, List.reverse_append, List.reverse_singleton, List.singleton_append]
    change e :: (es.reverse.take capacity).take (capacity - 1) = e :: es.reverse.take (capacity - 1)
    rw [List.take_take, Nat.min_eq_left (Nat.sub_le _ _)]

theorem Holds.publishAll (h : b.Holds es) (new : List α) :
    (new.foldl Bus.publish b).Holds (es ++ new) := by
  induction new generalizing b es with
  | nil => rwa [List.append_nil]
  | cons e new ih =>
    have hholds := ih (h.publish e)
    rwa [List.append_assoc] at hholds

/-- To publish moves no reader. -/
theorem readers_publishAll (b : Bus α) (new : List α) :
    (new.foldl Bus.publish b).readers = b.readers := by
  induction new generalizing b with
  | nil => rfl
  | cons e new ih => exact ih (b.publish e)

theorem Holds.subscribe (h : b.Holds es) (name : String) : (b.subscribe name).Holds es :=
  ⟨h.published, h.kept⟩

theorem Holds.moveTo (h : b.Holds es) (name : String) (k : Nat) : (b.moveTo name k).Holds es :=
  ⟨h.published, h.kept⟩

theorem lookup_subscribe (b : Bus α) (name : String) :
    (b.subscribe name).readers.lookup name = some b.published := List.lookup_cons_self

theorem lookup_moveTo (h : b.readers.lookup name = some k) (next : Nat) :
    (b.moveTo name next).readers.lookup name = some next := by
  unfold Bus.moveTo
  dsimp only
  generalize b.readers = rs at h ⊢
  induction rs with
  | nil => cases h
  | cons r rs ih =>
    obtain ⟨name', k'⟩ := r
    rw [List.map_cons]
    dsimp only
    by_cases hname : name' = name
    · rw [if_pos hname]
      exact List.lookup_cons_self
    · have hne : (name == name') = false := beq_false_of_ne (Ne.symm hname)
      rw [List.lookup_cons, hne] at h
      rw [if_neg hname, List.lookup_cons, hne]
      exact ih h

theorem exists_lookup_of_has (h : b.has name = true) : ∃ k, b.readers.lookup name = some k := by
  unfold Bus.has at h
  generalize b.readers = rs at h ⊢
  induction rs with
  | nil => cases h
  | cons r rs ih =>
    obtain ⟨name', k⟩ := r
    rw [List.lookup_cons]
    by_cases hname : name' = name
    · rw [hname, beq_self_eq_true]
      exact ⟨k, rfl⟩
    · rw [beq_false_of_ne (Ne.symm hname)]
      rw [List.any_cons, decide_eq_false hname, Bool.false_or] at h
      exact ih h

theorem Holds.oldest (h : b.Holds es) : b.oldest = es.length - capacity := by
  unfold Bus.oldest
  rw [h.kept, h.published, List.length_take, List.length_reverse]
  omega

/-- A reader gets the first event that it has not read, unless it is too old to be kept. -/
theorem Holds.receive (h : b.Holds es) (hname : b.readers.lookup name = some k)
    (hk : k ≤ es.length) : b.receive name =
      if k < es.length - capacity then
        (.lagged (es.length - capacity - k), b.moveTo name (es.length - capacity))
      else match es[k]? with
        | some e => (.event e, b.moveTo name (k + 1))
        | none => (.empty, b) := by
  unfold Bus.receive
  rw [hname]
  dsimp only
  rw [h.oldest]
  split
  · rfl
  · rename_i hnew
    -- everything that was not read is kept
    have hunread : (b.kept.take (b.published - k)).getLast? = es[k]? := by
      rw [h.kept, h.published, List.take_take, Nat.min_eq_left (by omega), List.take_reverse,
        List.getLast?_reverse, List.head?_drop, Nat.sub_sub_self hk]
    generalize (b.kept.take (b.published - k)).getLast? = unread at hunread
    subst hunread
    cases es[k]? <;> rfl

end Bus

/-! ## What a desk publishes -/

namespace Desk

variable {s : Surroundings} {d d' : Desk}

/-- The registers are what the events that were published say. -/
structure Published (d : Desk) : Prop where
  jobs : Mirrors (·.id) Event.job? d.events d.jobs.jobs
  sessions : Mirrors (·.id) Event.session? d.events d.transfers.sessions
  changes : ∀ e ∈ d.events, e.kind ≠ .snapshot

theorem published_ofConfig (c : SafetyConfig) : Published (ofConfig c) :=
  ⟨⟨List.nodup_nil, fun _ => rfl⟩, ⟨List.nodup_nil, fun _ => rfl⟩,
    fun _ he => absurd he List.not_mem_nil⟩

/-- **A turn publishes the record that it changes.** -/
theorem Turn.published (h : Turn s False d d') (hd : d.Published) :
    d'.Published ∧ d.events <+: d'.events := by
  obtain ⟨job, session, escalation, policy, htells⟩ := h.tells hd.jobs.nodup hd.sessions.nodup
  refine ⟨⟨?_, ?_, fun e he => ?_⟩, ⟨_, htells.events.symm⟩⟩
  · rw [htells.events]
    refine hd.jobs.recorded htells.jobs ?_
    cases job <;> cases session <;> cases escalation <;> rfl
  · rw [htells.events]
    refine hd.sessions.recorded htells.sessions ?_
    cases job <;> cases session <;> cases escalation <;> rfl
  · rw [htells.events, List.mem_append] at he
    rcases he with he | he
    · exact hd.changes e he
    · simp only [List.mem_append, List.mem_map] at he
      rcases he with (⟨_, -, rfl⟩ | ⟨_, -, rfl⟩) | ⟨_, -, rfl⟩ <;> exact Event.Kind.noConfusion

end Desk

/-- A service publishes the events of its desk in order. -/
theorem Service.bus_settle (s : Service) :
    s.settle.2.bus = s.desk.events.foldl Bus.publish s.bus := by
  have hall : ∀ (effects : List Effect) (t : Service), (effects.foldl handOn t).bus =
      (effects.filterMap Effect.event?).foldl Bus.publish t.bus := by
    intro effects
    induction effects with
    | nil => exact fun t => rfl
    | cons e effects ih =>
      intro t
      rw [List.foldl_cons, ih, List.filterMap_cons]
      cases e <;> rfl
  unfold Service.settle Desk.events
  rw [← List.filterMap_reverse]
  exact hall ..

/-! ## Watching -/

/-- What one who watches sees of the registers. -/
structure Dashboard where
  jobs : List Job := []
  transfers : List Session := []

/-- Takes in an event: a snapshot in place of everything, a record in place of an older version. -/
def Dashboard.takeIn (v : Dashboard) : Event → Dashboard
  | .snapshot jobs transfers _ => ⟨jobs, transfers⟩
  | .jobUpdated j => { v with jobs := put (·.id) j v.jobs }
  | .transferUpdated t => { v with transfers := put (·.id) t v.transfers }
  | .escalationRecorded _ => v

theorem Dashboard.takeIn_change (v : Dashboard) {e : Event} (h : e.kind ≠ .snapshot) :
    v.takeIn e = ⟨e.job?.elim v.jobs (put (·.id) · v.jobs),
      e.session?.elim v.transfers (put (·.id) · v.transfers)⟩ := by
  cases e with
  | snapshot => exact absurd rfl h
  | jobUpdated | transferUpdated | escalationRecorded => rfl

/-- A desk, the desks that it comes to next, the bus that its events go to, and one who watches:
what they see, and whether a snapshot is due to them. -/
structure Scene where
  desk : Desk
  ahead : List Desk
  bus : Bus Event := {}
  view : Dashboard := {}
  due : Bool := false

/-- What can happen next. -/
inductive Move where
  /-- The desk comes to the next one, and its new events are published. -/
  | turn
  /-- Someone begins to watch, and a snapshot is due to them. -/
  | connect
  /-- A snapshot that is due is taken and shown. -/
  | refresh
  /-- The next event is shown, or a snapshot is due because there are events missing. -/
  | receive
deriving DecidableEq

namespace Scene

variable {w : Scene} {name : String}

/-- Lets something happen. Whoever waits for a snapshot receives nothing else. -/
def play (name : String) (w : Scene) : Move → Scene
  | .turn => match w.ahead with
    | [] => w
    | d :: ahead => { w with
      desk := d
      ahead
      bus := (d.events.drop w.desk.events.length).foldl Bus.publish w.bus }
  | .connect => { w with bus := w.bus.subscribe name, view := {}, due := true }
  | .refresh =>
    if w.due then { w with view := w.view.takeIn w.desk.snapshot, due := false } else w
  | .receive =>
    if w.due then w
    else match w.bus.receive name with
      | (.event e, bus) => { w with bus, view := w.view.takeIn e }
      | (.lagged _, bus) => { w with bus, due := true }
      | (.empty, bus) | (.noReader, bus) => { w with bus }

/-- Lets one thing happen after the other. -/
def follow (name : String) (w : Scene) (moves : List Move) : Scene := moves.foldl (play name) w

/-- Nothing is unread, and no snapshot is due. -/
def CaughtUp (name : String) (w : Scene) : Prop :=
  w.due = false ∧ ∃ bus, w.bus.receive name = (.empty, bus)

/-- Someone who begins to watch gets the frame that the feed hands out. -/
theorem follow_connect (w : Scene) :
    w.follow name [.connect, .refresh] = { w with
      bus := (Feed.connect name w.desk.snapshot w.bus).2
      view := .takeIn {} (Feed.connect name w.desk.snapshot w.bus).1
      due := false } := rfl

/-- Someone who watches gets the frames that the feed hands out. -/
theorem follow_receive (h : w.due = false) :
    w.follow name [.receive, .refresh] = { w with
      bus := (Feed.next name w.desk.snapshot w.bus).2
      view := (Feed.next name w.desk.snapshot w.bus).1.elim w.view w.view.takeIn } := by
  obtain ⟨desk, ahead, bus, view, due⟩ := w
  obtain rfl : due = false := h
  simp only [follow, List.foldl_cons, List.foldl_nil, play, Feed.next]
  rcases bus.receive name with ⟨_ | _ | _ | _, bus'⟩ <;> rfl

/-- What holds while a desk takes its turns and someone watches. -/
structure Sound (name : String) (w : Scene) : Prop where
  published : w.desk.Published
  holds : w.bus.Holds w.desk.events
  chain : (w.desk :: w.ahead).IsChain fun d d' => ∃ s, Desk.Turn s False d d'
  reader : ∀ k, w.bus.readers.lookup name = some k → k ≤ w.desk.events.length
  jobs : ∀ k, w.bus.readers.lookup name = some k → w.due = false →
    Sees (·.id) Event.job? w.desk.events k w.view.jobs
  sessions : ∀ k, w.bus.readers.lookup name = some k → w.due = false →
    Sees (·.id) Event.session? w.desk.events k w.view.transfers

theorem Sound.turn (h : w.Sound name) : (w.play name .turn).Sound name := by
  obtain ⟨desk, ahead, bus, view, due⟩ := w
  cases ahead with
  | nil => exact h
  | cons d ahead =>
    obtain ⟨⟨s, hturn⟩, hchain⟩ := List.isChain_cons_cons.1 h.chain
    obtain ⟨hpublished, new, hevents⟩ := hturn.published h.published
    have hreaders := Bus.readers_publishAll bus new
    have hnew : d.events.drop desk.events.length = new := by
      rw [← hevents, List.drop_left]
    dsimp only [play]
    rw [hnew]
    refine ⟨hpublished, hevents ▸ h.holds.publishAll new, hchain, fun k hk => ?_,
      fun k hk hdue => ?_, fun k hk hdue => ?_⟩
    all_goals
      rw [hreaders] at hk
      have hle : k ≤ desk.events.length := h.reader k hk
      dsimp only
      rw [← hevents]
    · exact Nat.le_trans hle (List.prefix_append ..).length_le
    · exact (h.jobs k hk hdue).append hle
    · exact (h.sessions k hk hdue).append hle

theorem Sound.connect (h : w.Sound name) : (w.play name .connect).Sound name := by
  have hlookup : (w.play name .connect).bus.readers.lookup name = some w.desk.events.length := by
    rw [← h.holds.published]
    exact Bus.lookup_subscribe ..
  refine ⟨h.published, h.holds.subscribe name, h.chain, fun k hk => ?_, fun k hk hdue => ?_,
    fun k hk hdue => ?_⟩
  · rw [hlookup] at hk
    exact Nat.le_of_eq (Option.some.inj hk).symm
  · cases hdue
  · cases hdue

theorem Sound.refresh (h : w.Sound name) : (w.play name .refresh).Sound name := by
  unfold play
  dsimp only
  split
  · exact ⟨h.published, h.holds, h.chain, h.reader,
      fun k _ _ => h.published.jobs.sees (List.mergeSort_perm ..) k,
      fun k _ _ => h.published.sessions.sees (List.mergeSort_perm ..) k⟩
  · exact h

/-- What someone who watches receives: notice of a snapshot, an event or nothing. -/
theorem Sound.play_receive (h : w.Sound name) {k : Nat}
    (hk : w.bus.readers.lookup name = some k) (hdue : w.due = false) :
    w.play name .receive =
      if k < w.desk.events.length - Bus.capacity then
        { w with bus := w.bus.moveTo name (w.desk.events.length - Bus.capacity), due := true }
      else match w.desk.events[k]? with
        | some e => { w with bus := w.bus.moveTo name (k + 1), view := w.view.takeIn e }
        | none => w := by
  have hreceive := h.holds.receive hk (h.reader k hk)
  unfold play
  dsimp only
  rw [if_neg (by rw [hdue]; exact Bool.false_ne_true)]
  by_cases hlag : k < w.desk.events.length - Bus.capacity
  · rw [if_pos hlag] at hreceive ⊢
    rw [hreceive]
  · rw [if_neg hlag] at hreceive ⊢
    rw [hreceive]
    cases w.desk.events[k]? <;> rfl

theorem Sound.receive (h : w.Sound name) : (w.play name .receive).Sound name := by
  by_cases hdue : w.due = true
  · unfold play
    dsimp only
    rwa [if_pos hdue]
  · have hdue' : w.due = false := Bool.eq_false_iff.2 hdue
    cases hk : w.bus.readers.lookup name with
    | none =>
      unfold play
      dsimp only
      rw [if_neg hdue]
      unfold Bus.receive
      rwa [hk]
    | some k =>
      rw [h.play_receive hk hdue']
      split
      · -- events are missing, and until the snapshot comes nothing is said about the view
        refine ⟨h.published, h.holds.moveTo .., h.chain, fun k' hk' => ?_, fun k' hk' hdue' => ?_,
          fun k' hk' hdue' => ?_⟩
        · rw [Bus.lookup_moveTo hk] at hk'
          rw [← Option.some.inj hk']
          exact Nat.sub_le ..
        · cases hdue'
        · cases hdue'
      · cases he : w.desk.events[k]? with
        | none => exact h
        | some e =>
          obtain ⟨hlt, hget⟩ := List.getElem?_eq_some_iff.1 he
          have hchange := h.published.changes e (hget ▸ List.getElem_mem hlt)
          refine ⟨h.published, h.holds.moveTo .., h.chain, fun k' hk' => ?_, fun k' hk' _ => ?_,
            fun k' hk' _ => ?_⟩
          all_goals
            rw [Bus.lookup_moveTo hk] at hk'
            obtain rfl := Option.some.inj hk'
          · exact hlt
          · dsimp only
            rw [Dashboard.takeIn_change _ hchange]
            exact (h.jobs k hk hdue').read he
          · dsimp only
            rw [Dashboard.takeIn_change _ hchange]
            exact (h.sessions k hk hdue').read he

/-- **Whatever happens, whoever watches and reads on sees what the events say last.** -/
theorem Sound.follow (h : w.Sound name) (moves : List Move) : (w.follow name moves).Sound name := by
  induction moves generalizing w with
  | nil => exact h
  | cons m moves ih =>
    cases m with
    | turn => exact ih h.turn
    | connect => exact ih h.connect
    | refresh => exact ih h.refresh
    | receive => exact ih h.receive

/-- Whoever has caught up sees the registers. -/
theorem Sound.converged (h : w.Sound name) (hcaught : w.CaughtUp name) :
    w.view.jobs.Perm w.desk.jobs.jobs ∧ w.view.transfers.Perm w.desk.transfers.sessions := by
  obtain ⟨hdue, bus, hreceive⟩ := hcaught
  cases hk : w.bus.readers.lookup name with
  | none =>
    unfold Bus.receive at hreceive
    rw [hk] at hreceive
    cases hreceive
  | some k =>
    rw [h.holds.receive hk (h.reader k hk)] at hreceive
    have hnone : w.desk.events.drop k = [] := by
      by_cases hlag : k < w.desk.events.length - Bus.capacity
      · rw [if_pos hlag] at hreceive
        cases hreceive
      · rw [if_neg hlag] at hreceive
        cases he : w.desk.events[k]? with
        | none => exact List.drop_eq_nil_of_le (List.getElem?_eq_none_iff.1 he)
        | some e =>
          rw [he] at hreceive
          cases hreceive
    exact ⟨(h.jobs k hk hdue).perm hnone h.published.jobs,
      (h.sessions k hk hdue).perm hnone h.published.sessions⟩

/-- Whoever waits for no snapshot catches up with what is still unread. -/
theorem Sound.catchUp (h : w.Sound name) {k : Nat} (hk : w.bus.readers.lookup name = some k)
    (hdue : w.due = false) :
    ∃ moves : List Move, (∀ m ∈ moves, m = .refresh ∨ m = .receive) ∧
      (w.follow name moves).CaughtUp name := by
  induction hn : w.desk.events.length - k using Nat.strong_induction_on generalizing w k with
  | _ n ih =>
    have hle := h.reader k hk
    have hnext := h.play_receive hk hdue
    by_cases hlag : k < w.desk.events.length - Bus.capacity
    · -- the snapshot comes, and the oldest event that is kept is next
      rw [if_pos hlag] at hnext
      have hsound := h.receive.refresh
      rw [hnext] at hsound
      obtain ⟨moves, hmoves, hcaught⟩ := ih (w.desk.events.length -
        (w.desk.events.length - Bus.capacity)) (by omega) hsound (Bus.lookup_moveTo hk _) rfl rfl
      refine ⟨.receive :: .refresh :: moves, by simpa using hmoves, ?_⟩
      change (((w.play name .receive).play name .refresh).follow name moves).CaughtUp name
      rwa [hnext]
    · rw [if_neg hlag] at hnext
      by_cases hlast : k < w.desk.events.length
      · have hsound := h.receive
        rw [List.getElem?_eq_getElem hlast] at hnext
        rw [hnext] at hsound
        obtain ⟨moves, hmoves, hcaught⟩ := ih (w.desk.events.length - (k + 1)) (by omega) hsound
          (Bus.lookup_moveTo hk _) hdue rfl
        refine ⟨.receive :: moves, by simpa using hmoves, ?_⟩
        change ((w.play name .receive).follow name moves).CaughtUp name
        rwa [hnext]
      · refine ⟨[], by simp, hdue, w.bus, ?_⟩
        change w.bus.receive name = _
        rw [h.holds.receive hk hle, if_neg hlag, List.getElem?_eq_none (by omega)]

/-- Whoever watches catches up by going on to watch. -/
theorem Sound.exists_caughtUp (h : w.Sound name) (hhas : w.bus.has name = true) :
    ∃ moves : List Move, (∀ m ∈ moves, m = .refresh ∨ m = .receive) ∧
      (w.follow name moves).CaughtUp name := by
  obtain ⟨k, hk⟩ := Bus.exists_lookup_of_has hhas
  cases hdue : w.due with
  | false => exact h.catchUp hk hdue
  | true =>
    have hrefreshed : w.play name .refresh =
        { w with view := w.view.takeIn w.desk.snapshot, due := false } := by
      unfold play
      exact if_pos hdue
    have hsound := h.refresh
    rw [hrefreshed] at hsound
    obtain ⟨moves, hmoves, hcaught⟩ := hsound.catchUp hk rfl
    refine ⟨.refresh :: moves, by simpa using hmoves, ?_⟩
    change ((w.play name .refresh).follow name moves).CaughtUp name
    rwa [hrefreshed]

/-- Only turns change the desk. -/
theorem play_desk (name : String) {m : Move} (hm : m ≠ .turn) (w : Scene) :
    (w.play name m).desk = w.desk ∧ (w.play name m).ahead = w.ahead := by
  cases m with
  | turn => exact absurd rfl hm
  | connect => exact ⟨rfl, rfl⟩
  | refresh =>
    unfold play
    dsimp only
    split <;> exact ⟨rfl, rfl⟩
  | receive =>
    unfold play
    dsimp only
    split
    · exact ⟨rfl, rfl⟩
    · split <;> exact ⟨rfl, rfl⟩

theorem follow_desk {moves : List Move} (hmoves : ∀ m ∈ moves, m ≠ .turn) (w : Scene) :
    (w.follow name moves).desk = w.desk ∧ (w.follow name moves).ahead = w.ahead := by
  induction moves generalizing w with
  | nil => exact ⟨rfl, rfl⟩
  | cons m moves ih =>
    obtain ⟨hdesk, hahead⟩ := play_desk name (hmoves m List.mem_cons_self) w
    obtain ⟨hdesk', hahead'⟩ := ih (fun m hm => hmoves m (List.mem_cons_of_mem _ hm))
      (w.play name m)
    exact ⟨hdesk'.trans hdesk, hahead'.trans hahead⟩

/-- Desks are left behind one by one, and the last one is the last one still. -/
theorem getLast?_follow (name : String) (w : Scene) (moves : List Move) :
    ((w.follow name moves).desk :: (w.follow name moves).ahead).getLast? =
      (w.desk :: w.ahead).getLast? := by
  induction moves generalizing w with
  | nil => rfl
  | cons m moves ih =>
    refine (ih (w.play name m)).trans ?_
    by_cases hm : m = .turn
    · obtain ⟨desk, ahead, bus, view, due⟩ := w
      rw [hm]
      cases ahead <;> rfl
    · obtain ⟨hdesk, hahead⟩ := play_desk name hm w
      rw [hdesk, hahead]

/-- After as many turns as there are desks the last one is left. -/
theorem follow_turns (name : String) (desk : Desk) (ahead : List Desk) (bus : Bus Event)
    (view : Dashboard) (due : Bool) : ∃ desk' bus', bus'.readers = bus.readers ∧
      follow name ⟨desk, ahead, bus, view, due⟩ (.replicate ahead.length .turn) =
        ⟨desk', [], bus', view, due⟩ := by
  induction ahead generalizing desk bus with
  | nil => exact ⟨desk, bus, rfl, rfl⟩
  | cons d ahead ih =>
    obtain ⟨desk', bus', hreaders, hfollow⟩ :=
      ih d ((d.events.drop desk.events.length).foldl Bus.publish bus)
    refine ⟨desk', bus', hreaders.trans (Bus.readers_publishAll ..), hfollow⟩

/-- At first nothing has been published and nobody watches. -/
theorem sound_start {c : SafetyConfig} {ops : List (Surroundings × Operation)} {desks : List Desk}
    (h : (Desk.ofConfig c).Passes ops desks) :
    Sound name { desk := .ofConfig c, ahead := desks } where
  published := Desk.published_ofConfig c
  holds := ⟨rfl, rfl⟩
  chain := h.chain
  reader k hk := by cases hk
  jobs k hk := by cases hk
  sessions k hk := by cases hk

end Scene

namespace Desk

/-- **Dashboards converge.** A run that forgets nothing and takes nothing in passes from turn
to turn. Whatever happens between the turns, whenever someone begins to watch, and however far
behind they fall: at any time those who have caught up see the jobs and the transfers of the
registers, and those who watch catch up by going on. After the last turn the registers are
those that the run leaves. -/
theorem dashboards_converge (c : SafetyConfig) {ops : List (Surroundings × Operation)}
    (hkept : ∀ p ∈ ops, Remembers p.1 p.2) (hmemory : Unrestored ops) (hdistinct : DistinctSids ops)
    (name : String) :
    (∃ desks, (ofConfig c).Passes ops desks) ∧
    ∀ desks, (ofConfig c).Passes ops desks → ∀ (moves : List Move) (w : Scene),
      w = Scene.follow name { desk := ofConfig c, ahead := desks } moves →
      (w.CaughtUp name → w.view.jobs.Perm w.desk.jobs.jobs ∧
        w.view.transfers.Perm w.desk.transfers.sessions) ∧
      (w.bus.has name = true → ∃ more : List Move,
        (∀ m ∈ more, m = .refresh ∨ m = .receive) ∧ (w.follow name more).CaughtUp name) ∧
      (w.ahead = [] → w.desk = (ofConfig c).run ops) := by
  refine ⟨exists_passes hdistinct ops _ (List.Subset.refl ops) hkept hmemory (names_ofConfig c),
    fun desks hpasses moves w hw => ?_⟩
  have hsound : w.Sound name := hw ▸ (Scene.sound_start hpasses).follow moves
  refine ⟨hsound.converged, hsound.exists_caughtUp, fun hlast => ?_⟩
  have hend := Scene.getLast?_follow name { desk := ofConfig c, ahead := desks } moves
  rw [← hw, hlast, List.getLast?_eq_getLast_of_ne_nil (List.cons_ne_nil _ desks),
    hpasses.getLast] at hend
  exact Option.some.inj hend

/-- Whoever watches from the start sees in the end that one shelter was called and the
other was not. -/
theorem dashboards_converge_twoShelters : ∃ desks, (ofConfig {}).Passes twoSheltersRun desks ∧
    ∃ moves, .connect :: .refresh :: .replicate desks.length .turn <+: moves ∧
      (Scene.follow "ada" { desk := ofConfig {}, ahead := desks } moves).CaughtUp "ada" ∧
      (Scene.follow "ada" { desk := ofConfig {}, ahead := desks } moves).view.jobs.map
        (fun j => j.attempts.map (·.status)) = [[.completed, .failed]] := by
  have hcalm : ∀ p ∈ twoSheltersRun, p.1 = .calm := by simp [twoSheltersRun]
  have hkept : ∀ p ∈ twoSheltersRun, Remembers p.1 p.2 := by
    intro p hp
    refine ⟨?_, fun n line h => ?_⟩
    · simp only [twoSheltersRun, List.mem_cons, List.not_mem_nil, or_false] at hp
      rcases hp with rfl | rfl <;> exact Operation.noConfusion
    · rw [hcalm p hp] at h
      cases h
  have hmemory : Unrestored twoSheltersRun := by
    intro p hp stored
    simp only [twoSheltersRun, List.mem_cons, List.not_mem_nil, or_false] at hp
    rcases hp with rfl | rfl <;> exact Operation.noConfusion
  have hdistinct : DistinctSids twoSheltersRun :=
    distinctSids_calm fun p hp => congrArg Surroundings.place (hcalm p hp)
  obtain ⟨⟨desks, hpasses⟩, hall⟩ := dashboards_converge {} hkept hmemory hdistinct "ada"
  -- the whole run goes by before anything is read
  obtain ⟨last, bus, hreaders, hturns⟩ := Scene.follow_turns "ada" (ofConfig {}) desks
    (Bus.subscribe {} "ada") (Dashboard.takeIn {} (ofConfig {}).snapshot) false
  let moves : List Move := .connect :: .refresh :: .replicate desks.length .turn
  have hpassed : Scene.follow "ada" { desk := ofConfig {}, ahead := desks } moves =
      ⟨last, [], bus, _, false⟩ := hturns
  obtain ⟨more, hmore, hcaught⟩ := (hall desks hpasses moves _ rfl).2.1 (by
    rw [hpassed]
    unfold Bus.has
    rw [hreaders]
    rfl)
  have hstill : ∀ m ∈ more, m ≠ .turn := by
    intro m hm
    rcases hmore m hm with rfl | rfl <;> exact Move.noConfusion
  have hboth : Scene.follow "ada" { desk := ofConfig {}, ahead := desks } (moves ++ more) =
      Scene.follow "ada" (Scene.follow "ada" { desk := ofConfig {}, ahead := desks } moves) more :=
    List.foldl_append ..
  rw [← hboth] at hcaught
  obtain ⟨hview, -, hlast⟩ := hall desks hpasses (moves ++ more) _ rfl
  have hdesk := hlast (by rw [hboth, (Scene.follow_desk hstill _).2, hpassed])
  have hjobs := (hview hcaught).1.map fun j => j.attempts.map (·.status)
  rw [hdesk] at hjobs
  exact ⟨desks, hpasses, moves ++ more, List.prefix_append .., hcaught, List.perm_singleton.1 hjobs⟩

end Desk

end ShelterLine
