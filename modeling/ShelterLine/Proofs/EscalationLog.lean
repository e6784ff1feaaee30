import Mathlib.Data.List.Nodup
import ShelterLine.Proofs.Row

/-!
# The log of escalations

Stored escalations are merged into the log by time, and of those with one identifier the first
stays, so the newest. The row of an escalation reads back as that escalation with its time cut to
microseconds, so what comes back from storage is never newer than what is there.
-/

namespace ShelterLine

/-! ## Rows -/

/-- The escalation with its time cut to microseconds. -/
def Escalation.toMicros (e : Escalation) : Escalation :=
  { e with createdAt := e.createdAt.toMicros }

/-- **The row of an escalation reads back as the escalation.** -/
theorem EscalationRow.toEscalation?_ofEscalation {e : Escalation} (h : e.createdAt.FourDigitYear) :
    (EscalationRow.ofEscalation e).toEscalation? = some e.toMicros := by
  unfold toEscalation? ofEscalation Escalation.toMicros
  simp only [Option.bind_eq_bind, Option.bind_some, Option.pure_def, Uuid.ofString?_toString,
    EscalationSource.naming_faithful e.source, Instant.ofStored_toStored h]

theorem Instant.toMicros_le_self (t : Instant) : t.toMicros ≤ t := by
  rw [le_iff]
  change t.day < t.day ∨ t.day = t.day ∧ (t.second < t.second ∨ t.second = t.second ∧
    t.nano / 1000 * 1000 ≤ t.nano)
  omega

namespace EscalationLog

variable {seen : List Uuid} {es log stored kept : List Escalation}

/-! ## Dropping what is repeated -/

theorem sublist_dropRepeated : ∀ (seen : List Uuid) (es : List Escalation),
    (dropRepeated seen es).Sublist es
  | _, [] => .slnil
  | seen, e :: es => by
    unfold dropRepeated
    split
    · exact (sublist_dropRepeated seen es).cons e
    · exact (sublist_dropRepeated (e.id :: seen) es).cons_cons e

theorem not_mem_of_mem_dropRepeated : ∀ {es : List Escalation} {seen : List Uuid} {e : Escalation},
    e ∈ dropRepeated seen es → e.id ∉ seen
  | [], _, _, h => absurd h List.not_mem_nil
  | e :: es, seen, e', h => by
    unfold dropRepeated at h
    split at h
    · exact not_mem_of_mem_dropRepeated h
    · rcases List.mem_cons.1 h with rfl | h
      · assumption
      · exact fun hseen => not_mem_of_mem_dropRepeated h (List.mem_cons_of_mem _ hseen)

theorem nodup_dropRepeated : ∀ (seen : List Uuid) (es : List Escalation),
    ((dropRepeated seen es).map (·.id)).Nodup
  | _, [] => List.nodup_nil
  | seen, e :: es => by
    unfold dropRepeated
    split
    · exact nodup_dropRepeated seen es
    · refine List.nodup_cons.2 ⟨fun h => ?_, nodup_dropRepeated (e.id :: seen) es⟩
      obtain ⟨e', he', hid⟩ := List.mem_map.1 h
      exact not_mem_of_mem_dropRepeated he' (hid ▸ List.mem_cons_self)

/-- What is dropped comes after something with its identifier that stays. -/
theorem exists_mem_dropRepeated {before : Escalation → Escalation → Prop} :
    ∀ {es : List Escalation} {seen : List Uuid} {e : Escalation}, es.Pairwise before → e ∈ es →
      e.id ∉ seen → ∃ e' ∈ dropRepeated seen es, e'.id = e.id ∧ (e' = e ∨ before e' e)
  | [], _, _, _, h, _ => absurd h List.not_mem_nil
  | e₀ :: es, seen, e, hsorted, h, hseen => by
    obtain ⟨hfirst, hrest⟩ := List.pairwise_cons.1 hsorted
    unfold dropRepeated
    by_cases hfirstSeen : e₀.id ∈ seen
    · rw [if_pos hfirstSeen]
      rcases List.mem_cons.1 h with rfl | h
      · exact absurd hfirstSeen hseen
      · exact exists_mem_dropRepeated hrest h hseen
    · rw [if_neg hfirstSeen]
      by_cases hid : e₀.id = e.id
      · refine ⟨e₀, List.mem_cons_self, hid, ?_⟩
        rcases List.mem_cons.1 h with rfl | h
        · exact Or.inl rfl
        · exact Or.inr (hfirst e h)
      · rcases List.mem_cons.1 h with rfl | h
        · exact absurd rfl hid
        · have hnew : e.id ∉ e₀.id :: seen :=
            fun hmem => (List.mem_cons.1 hmem).elim (Ne.symm hid) hseen
          obtain ⟨e', he', hsame⟩ := exists_mem_dropRepeated hrest h hnew
          exact ⟨e', List.mem_cons_of_mem _ he', hsame⟩

/-! ## Merging what was stored -/

/-- Newer escalations come first. -/
def NewestFirst (es : List Escalation) : Prop := es.Pairwise fun a b => b.createdAt ≤ a.createdAt

theorem newer_trans (a b c : Escalation) : decide (b.createdAt ≤ a.createdAt) →
    decide (c.createdAt ≤ b.createdAt) → decide (c.createdAt ≤ a.createdAt) := by
  intro hab hbc
  exact decide_eq_true (Instant.le_trans (of_decide_eq_true hbc) (of_decide_eq_true hab))

theorem newer_total (a b : Escalation) :
    decide (b.createdAt ≤ a.createdAt) || decide (a.createdAt ≤ b.createdAt) := by
  simpa using Instant.le_total b.createdAt a.createdAt

theorem newestFirst_merged (log stored : List Escalation) :
    NewestFirst ((stored ++ log).mergeSort fun a b => b.createdAt ≤ a.createdAt) := by
  have hsorted := List.pairwise_mergeSort newer_trans newer_total (stored ++ log)
  exact hsorted.imp of_decide_eq_true

theorem newestFirst_seed (log stored : List Escalation) : NewestFirst (seed log stored) :=
  (newestFirst_merged log stored).sublist
    ((List.take_sublist _ _).trans (sublist_dropRepeated [] _))

/-- **Escalations that are newer than all others with their identifiers are what a
merge leaves.** -/
theorem seed_perm (hn : (kept.map (·.id)).Nodup) (hlength : kept.length ≤ capacity)
    (hthere : ∀ k ∈ kept, k ∈ stored ++ log)
    (hnewest : ∀ e ∈ stored ++ log, ∃ k ∈ kept, k.id = e.id ∧
      (k.createdAt ≤ e.createdAt → e = k)) : (seed log stored).Perm kept := by
  unfold seed
  dsimp only
  have hsorted := newestFirst_merged log stored
  have hmem : ∀ e, e ∈ (stored ++ log).mergeSort (fun a b => b.createdAt ≤ a.createdAt) ↔
      e ∈ stored ++ log := fun e => List.mem_mergeSort
  generalize (stored ++ log).mergeSort (fun a b => b.createdAt ≤ a.createdAt) =
    merged at hsorted hmem ⊢
  have hids := nodup_dropRepeated [] merged
  have hsub := sublist_dropRepeated [] merged
  have heq : ∀ {es : List Escalation}, (es.map (·.id)).Nodup → ∀ {a b}, a ∈ es →
      b ∈ es → a.id = b.id → a = b := by
    intro es hn a b ha hb hab
    exact List.inj_on_of_nodup_map hn ha hb hab
  -- whoever stays is the newest, since everything with its identifier came after it
  have hleft : ∀ e ∈ dropRepeated [] merged, e ∈ kept := by
    intro e he
    obtain ⟨k, hk, hid, hlast⟩ := hnewest e ((hmem e).1 (hsub.subset he))
    obtain ⟨e', he', hid', hbefore⟩ := exists_mem_dropRepeated hsorted ((hmem k).2 (hthere k hk))
      List.not_mem_nil
    obtain rfl := heq hids he' he (hid'.trans hid)
    rcases hbefore with rfl | hbefore
    · exact hk
    · rw [hlast hbefore]
      exact hk
  have hright : ∀ k ∈ kept, k ∈ dropRepeated [] merged := by
    intro k hk
    obtain ⟨e', he', hid', -⟩ := exists_mem_dropRepeated hsorted ((hmem k).2 (hthere k hk))
      List.not_mem_nil
    rwa [heq hn hk (hleft e' he') hid'.symm]
  have hperm : (dropRepeated [] merged).Perm kept :=
    (List.perm_ext_iff_of_nodup (List.Nodup.of_map _ hids) (List.Nodup.of_map _ hn)).2
      fun e => ⟨hleft e, hright e⟩
  rwa [List.take_of_length_le (hperm.length_eq ▸ hlength)]

/-- Merging stored versions of escalations that are there changes their order at most. -/
theorem seed_perm_log (hn : (log.map (·.id)).Nodup) (hlength : log.length ≤ capacity)
    (hstored : ∀ e ∈ stored, ∃ k ∈ log, e = k.toMicros) : (seed log stored).Perm log := by
  refine seed_perm hn hlength (fun k hk => List.mem_append_right _ hk) fun e he => ?_
  rcases List.mem_append.1 he with he | he
  · obtain ⟨k, hk, rfl⟩ := hstored e he
    refine ⟨k, hk, rfl, fun hle => ?_⟩
    have htime : k.createdAt.toMicros = k.createdAt :=
      Instant.le_antisymm (Instant.toMicros_le_self _) hle
    unfold Escalation.toMicros
    rw [htime]
  · exact ⟨e, he, rfl, fun _ => rfl⟩

/-- An empty log takes over what was stored. -/
theorem seed_perm_stored (hn : (stored.map (·.id)).Nodup) (hlength : stored.length ≤ capacity) :
    (seed [] stored).Perm stored :=
  seed_perm hn hlength (fun k hk => List.mem_append_left _ hk) fun e he =>
    ⟨e, by simpa using he, rfl, fun _ => rfl⟩

end EscalationLog

end ShelterLine
