import Mathlib.Data.List.Perm.Basic
import ShelterLine.Proofs.Identifier
import ShelterLine.Proofs.Timestamp
import ShelterLine.Store.Table

/-!
# Records in tables

A table into which rows are put one after another falls apart into one table for each key: what is
put under one key is not noticed under another. Under one key only one row stays. If the rule for a
taken key prefers the greater of two stamps, the row that stays is that of the record with the
greatest stamp, whatever the order of the rows and however often each is put.

Everything here is about any kind of record that is kept under an identifier.
-/

namespace ShelterLine

namespace Table

variable {ρ : Type} {key : ρ → Option String} {settle : ρ → ρ → ρ}

/-- What stays of two rows with one key has that key. -/
def KeepsKey (key : ρ → Option String) (settle : ρ → ρ → ρ) : Prop :=
  ∀ old new, key old = key new → key (settle old new) = key new

/-- Puts rows into a table, one after another. -/
def putAll (key : ρ → Option String) (settle : ρ → ρ → ρ) (news rows : List ρ) : List ρ :=
  news.foldl (fun rows new => put key settle new rows) rows

@[simp] theorem putAll_cons (new : ρ) (news rows : List ρ) :
    putAll key settle (new :: news) rows = putAll key settle news (put key settle new rows) := rfl

theorem put_of_key_eq {k : String} {new r : ρ} {rows : List ρ} (hnew : key new = some k)
    (hr : key r = some k) : put key settle new (r :: rows) = settle r new :: rows := by
  unfold put
  rw [hnew, hr]
  exact if_pos (by simp)

theorem put_of_key_ne {new r : ρ} {rows : List ρ} (h : ¬ ((key new).isSome ∧ key r = key new)) :
    put key settle new (r :: rows) = r :: put key settle new rows := by
  rw [put]
  exact if_neg (by simpa using h)

/-- A key is taken by the first row of a table, or what is put goes on to the others. -/
theorem taken_cases (key : ρ → Option String) (new r : ρ) :
    (∃ k, key new = some k ∧ key r = some k) ∨ ¬ ((key new).isSome ∧ key r = key new) := by
  refine (Classical.em ((key new).isSome ∧ key r = key new)).imp_left ?_
  rintro ⟨hsome, heq⟩
  obtain ⟨k, hk⟩ := Option.isSome_iff_exists.mp hsome
  exact ⟨k, hk, heq.trans hk⟩

/-- A row of a table into which one is put is that row, was there before, or is what
the two settle on. -/
theorem mem_put {new r : ρ} {rows : List ρ} (h : r ∈ put key settle new rows) :
    r = new ∨ r ∈ rows ∨ ∃ old ∈ rows, key old = key new ∧ r = settle old new := by
  induction rows with
  | nil => exact Or.inl (List.mem_singleton.mp h)
  | cons s rows ih =>
    rcases taken_cases key new s with ⟨k, hnew, hs⟩ | hfree
    · rw [put_of_key_eq hnew hs] at h
      rcases List.mem_cons.mp h with rfl | hmem
      · exact Or.inr (Or.inr ⟨s, List.mem_cons_self, hs.trans hnew.symm, rfl⟩)
      · exact Or.inr (Or.inl (List.mem_cons_of_mem s hmem))
    · rw [put_of_key_ne hfree] at h
      rcases List.mem_cons.mp h with rfl | hmem
      · exact Or.inr (Or.inl List.mem_cons_self)
      · rcases ih hmem with rfl | hold | ⟨old, hold, hsettled⟩
        · exact Or.inl rfl
        · exact Or.inr (Or.inl (List.mem_cons_of_mem s hold))
        · exact Or.inr (Or.inr ⟨old, List.mem_cons_of_mem s hold, hsettled⟩)

theorem key_of_mem_put (hkey : KeepsKey key settle) {new r : ρ} {rows : List ρ}
    (h : r ∈ put key settle new rows) : key r = key new ∨ r ∈ rows := by
  rcases mem_put h with rfl | hold | ⟨old, -, hsame, rfl⟩
  · exact Or.inl rfl
  · exact Or.inr hold
  · exact Or.inl (hkey old new hsame)

/-- How rows with different keys would be settled does not matter. -/
theorem put_congr {settle' : ρ → ρ → ρ} {new : ρ} {rows : List ρ}
    (h : ∀ old ∈ rows, key old = key new → settle old new = settle' old new) :
    put key settle new rows = put key settle' new rows := by
  induction rows with
  | nil => rfl
  | cons r rows ih =>
    obtain ⟨hfirst, hrest⟩ := List.forall_mem_cons.mp h
    rcases taken_cases key new r with ⟨k, hnew, hr⟩ | hfree
    · rw [put_of_key_eq hnew hr, put_of_key_eq hnew hr, hfirst (hr.trans hnew.symm)]
    · rw [put_of_key_ne hfree, put_of_key_ne hfree, ih hrest]

/-- A row of a table has the key of a row that was put into it, or was there before. -/
theorem key_of_mem_putAll (hkey : KeepsKey key settle) {r : ρ} {news rows : List ρ}
    (h : r ∈ putAll key settle news rows) : (∃ new ∈ news, key r = key new) ∨ r ∈ rows := by
  induction news generalizing rows with
  | nil => exact Or.inr h
  | cons new news ih =>
    rcases ih h with ⟨new', hmem, heq⟩ | hput
    · exact Or.inl ⟨new', List.mem_cons_of_mem new hmem, heq⟩
    · refine (key_of_mem_put hkey hput).imp_left fun heq => ?_
      exact ⟨new, List.mem_cons_self, heq⟩

/-- Among the rows with some of the keys only a row with one of these keys is noticed. -/
theorem filter_put (hkey : KeepsKey key settle) (p : Option String → Bool) (new : ρ)
    (rows : List ρ) : (put key settle new rows).filter (fun r => p (key r)) =
      if p (key new) then put key settle new (rows.filter fun r => p (key r))
      else rows.filter fun r => p (key r) := by
  induction rows with
  | nil =>
    change [new].filter (fun r => p (key r)) = _
    rw [List.filter_cons]
    rfl
  | cons r rows ih =>
    rcases taken_cases key new r with ⟨k, hnew, hr⟩ | hfree
    · rw [put_of_key_eq hnew hr, List.filter_cons, List.filter_cons,
        hkey r new (hr.trans hnew.symm), hr, hnew]
      split
      · rw [put_of_key_eq hnew hr]
      · rfl
    · rw [put_of_key_ne hfree, List.filter_cons, List.filter_cons, ih]
      split
      · rw [put_of_key_ne hfree]
        split <;> rfl
      · rfl

theorem filter_putAll (hkey : KeepsKey key settle) (p : Option String → Bool) (news rows : List ρ) :
    (putAll key settle news rows).filter (fun r => p (key r)) =
      putAll key settle (news.filter fun r => p (key r)) (rows.filter fun r => p (key r)) := by
  induction news generalizing rows with
  | nil => rfl
  | cons new news ih =>
    rw [putAll_cons, ih, filter_put hkey, List.filter_cons]
    split
    · rfl
    · rfl

/-- Rows of one key that are put upon a row of that key leave one row. -/
theorem putAll_singleton (hkey : KeepsKey key settle) {k : String} {r : ρ} {news : List ρ}
    (hr : key r = some k) (hnews : ∀ new ∈ news, key new = some k) :
    putAll key settle news [r] = [news.foldl settle r] := by
  induction news generalizing r with
  | nil => rfl
  | cons new news ih =>
    have hnew : key new = some k := hnews new List.mem_cons_self
    rw [putAll_cons, put_of_key_eq hnew hr, ih ((hkey r new (hr.trans hnew.symm)).trans hnew)
      fun s hs => hnews s (List.mem_cons_of_mem new hs)]
    rfl

/-- A query that is not limited gives every row. -/
theorem newest_perm {text : ρ → String} {limit : Nat} {rows : List ρ} (h : rows.length ≤ limit) :
    (newest text limit rows).Perm rows := by
  unfold newest
  rw [List.take_of_length_le (by rwa [List.length_mergeSort])]
  exact List.mergeSort_perm rows _

end Table

/-! ## The record with the latest stamp -/

section Later

variable {σ ρ : Type} (stamp : σ → Instant)

/-- Of two records the one with the later stamp, and the second where the stamps are the same. -/
def later (a b : σ) : σ := if stamp a ≤ stamp b then b else a

theorem later_eq (a b : σ) : later stamp a b = a ∨ later stamp a b = b := by
  unfold later
  split
  · exact Or.inr rfl
  · exact Or.inl rfl

theorem le_later_left (a b : σ) : stamp a ≤ stamp (later stamp a b) := by
  unfold later
  split
  · assumption
  · exact Instant.le_refl _

theorem le_later_right (a b : σ) : stamp b ≤ stamp (later stamp a b) := by
  unfold later
  split
  · exact Instant.le_refl _
  · exact (Instant.le_total _ _).resolve_left ‹_›

theorem foldl_later_mem (a : σ) (bs : List σ) : bs.foldl (later stamp) a ∈ a :: bs := by
  induction bs generalizing a with
  | nil => exact List.mem_singleton_self a
  | cons b bs ih =>
    rw [List.foldl_cons]
    rcases List.mem_cons.mp (ih (later stamp a b)) with heq | hmem
    · rw [heq]
      rcases later_eq stamp a b with hab | hab <;> rw [hab]
      · exact List.mem_cons_self
      · exact List.mem_cons_of_mem a List.mem_cons_self
    · exact List.mem_cons_of_mem a (List.mem_cons_of_mem b hmem)

/-- No record has a later stamp than the one that is left over. -/
theorem le_foldl_later (a : σ) (bs : List σ) {c : σ} (hc : c ∈ a :: bs) :
    stamp c ≤ stamp (bs.foldl (later stamp) a) := by
  induction bs generalizing a c with
  | nil =>
    rw [List.mem_singleton.mp hc]
    exact Instant.le_refl _
  | cons b bs ih =>
    rw [List.foldl_cons]
    have hab : stamp (later stamp a b) ≤ stamp (bs.foldl (later stamp) (later stamp a b)) :=
      ih (later stamp a b) List.mem_cons_self
    rcases List.mem_cons.mp hc with rfl | hc
    · exact Instant.le_trans (le_later_left stamp c b) hab
    · rcases List.mem_cons.mp hc with rfl | hc
      · exact Instant.le_trans (le_later_right stamp a c) hab
      · exact ih (later stamp a b) (List.mem_cons_of_mem _ hc)

variable {stamp}

/-- Where the rule for rows prefers the later stamp, the row that is left over is that of the record
that is left over. -/
theorem foldl_settle {row : σ → ρ} {settle : ρ → ρ → ρ} {snapshots : List σ}
    (hsettle : ∀ a ∈ snapshots, ∀ b ∈ snapshots, settle (row a) (row b) = row (later stamp a b))
    {a : σ} {bs : List σ} (ha : a ∈ snapshots) (hbs : ∀ b ∈ bs, b ∈ snapshots) :
    (bs.map row).foldl settle (row a) = row (bs.foldl (later stamp) a) := by
  induction bs generalizing a with
  | nil => rfl
  | cons b bs ih =>
    have hb : b ∈ snapshots := hbs b List.mem_cons_self
    have hlater : later stamp a b ∈ snapshots := by
      rcases later_eq stamp a b with heq | heq <;> rw [heq]
      · exact ha
      · exact hb
    rw [List.map_cons, List.foldl_cons, List.foldl_cons, hsettle a ha b hb]
    exact ih hlater fun c hc => hbs c (List.mem_cons_of_mem b hc)

end Later

/-! ## Records under identifiers -/

/-- How records are kept: the row of each, how a row is read, and which of two rows
with one key stays. -/
structure Keeping (σ ρ : Type) where
  id : σ → Uuid
  row : σ → ρ
  read? : ρ → Option σ
  key : ρ → Option String
  settle : ρ → ρ → ρ
  key_row : ∀ s, key (row s) = some (id s).toString
  key_settle : Table.KeepsKey key settle
  key_read : ∀ {r s}, read? r = some s → (key r).bind Uuid.ofString? = some (id s)

namespace Keeping

open Table

variable {σ ρ : Type} (k : Keeping σ ρ) {stamp : σ → Instant} {u : Uuid} {rows : List ρ}
  {written snapshots : List σ}

/-- Whether a row belongs to an identifier. -/
def owns (u : Uuid) (r : ρ) : Bool := k.key r = some u.toString

/-- Puts records into a table, one after another. -/
def putAll (written : List σ) (rows : List ρ) : List ρ :=
  Table.putAll k.key k.settle (written.map k.row) rows

theorem owns_row (s : σ) : k.owns u (k.row s) = decide (k.id s = u) := by
  unfold owns
  refine decide_eq_decide.mpr ?_
  rw [k.key_row, Uuid.some_toString_inj]

/-- The rows of an identifier are those of its own records. -/
theorem filter_owns_putAll : (k.putAll written rows).filter (k.owns u) =
    k.putAll (written.filter (k.id · = u)) (rows.filter (k.owns u)) := by
  unfold putAll
  rw [show k.owns u = fun r => decide (k.key r = some u.toString) from rfl,
    filter_putAll k.key_settle (fun key => decide (key = some u.toString)), List.filter_map]
  congr 3
  funext s
  exact k.owns_row s

/-- Among the rows of other identifiers a record of this one is not noticed. -/
theorem filter_ne_put (s : σ) : (put k.key k.settle (k.row s) rows).filter
      (fun r => decide (k.key r ≠ some u.toString)) =
    if k.id s = u then rows.filter fun r => decide (k.key r ≠ some u.toString)
    else put k.key k.settle (k.row s)
      (rows.filter fun r => decide (k.key r ≠ some u.toString)) := by
  rw [filter_put k.key_settle (fun key => decide (key ≠ some u.toString)), k.key_row]
  by_cases hid : k.id s = u
  · rw [if_pos hid, hid, if_neg (by simp)]
  · have hother : some (k.id s).toString ≠ some u.toString :=
      fun h => hid (Uuid.some_toString_inj.mp h)
    rw [if_neg hid, if_pos (decide_eq_true hother)]

/-- A row of an identifier reads as a record of it. -/
theorem bind_key_row (s : σ) : (k.key (k.row s)).bind Uuid.ofString? = some (k.id s) := by
  rw [k.key_row, Option.bind_some, Uuid.ofString?_toString]

theorem id_of_read_row {s s' : σ} (h : k.read? (k.row s) = some s') : k.id s' = k.id s := by
  have hread := k.key_read h
  rw [k.bind_key_row] at hread
  exact (Option.some.inj hread).symm

/-- A row that reads as a record of an identifier was put there, if there was none before. -/
theorem owns_of_mem_putAll (habsent : ∀ r ∈ rows, (k.key r).bind Uuid.ofString? ≠ some u) {r : ρ}
    (hr : r ∈ k.putAll written rows) (hread : (k.key r).bind Uuid.ofString? = some u) :
    k.owns u r := by
  rcases key_of_mem_putAll k.key_settle hr with ⟨new, hnew, hkey⟩ | hold
  · obtain ⟨s, -, rfl⟩ := List.mem_map.mp hnew
    rw [hkey, k.bind_key_row] at hread
    unfold owns
    rw [decide_eq_true_eq, hkey, k.key_row, Option.some.inj hread]
  · exact absurd hread (habsent r hold)

/-- Records of one identifier, of which the one with the later stamp stays wherever
two of them meet. -/
structure Snapshots (stamp : σ → Instant) (u : Uuid) (snapshots : List σ) : Prop where
  nonempty : snapshots ≠ []
  id : ∀ s ∈ snapshots, k.id s = u
  settle : ∀ a ∈ snapshots, ∀ b ∈ snapshots,
    k.settle (k.row a) (k.row b) = k.row (later stamp a b)

variable {k}

/-- **One row of the identifier is left, that of the snapshot with the latest stamp.** -/
theorem filter_owns_eq (hs : k.Snapshots stamp u snapshots) (hfree : ∀ r ∈ rows, ¬ k.owns u r)
    (hwritten : ∀ s, k.id s = u → (s ∈ written ↔ s ∈ snapshots)) :
    ∃ newest ∈ snapshots, (∀ s ∈ snapshots, stamp s ≤ stamp newest) ∧
      (k.putAll written rows).filter (k.owns u) = [k.row newest] := by
  have hmem : ∀ s, s ∈ written.filter (k.id · = u) ↔ s ∈ snapshots := by
    intro s
    rw [List.mem_filter, decide_eq_true_eq]
    constructor
    · exact fun h => (hwritten s h.2).mp h.1
    · exact fun h => ⟨(hwritten s (hs.id s h)).mpr h, hs.id s h⟩
  rw [k.filter_owns_putAll, List.filter_eq_nil_iff.mpr hfree]
  cases hown : written.filter (k.id · = u) with
  | nil =>
    refine absurd (List.eq_nil_iff_forall_not_mem.mpr fun s h => ?_) hs.nonempty
    have hin := (hmem s).mpr h
    rw [hown] at hin
    exact List.not_mem_nil hin
  | cons a bs =>
    rw [hown] at hmem
    refine ⟨bs.foldl (later stamp) a, (hmem _).mp (foldl_later_mem stamp a bs),
      fun s h => le_foldl_later stamp a bs ((hmem s).mpr h), ?_⟩
    have hbs : ∀ b ∈ bs, b ∈ snapshots := fun b hb => (hmem b).mp (List.mem_cons_of_mem a hb)
    have ha : a ∈ snapshots := (hmem a).mp List.mem_cons_self
    have hkey : ∀ s ∈ snapshots, k.key (k.row s) = some u.toString := fun s h => by
      rw [k.key_row, hs.id s h]
    change Table.putAll k.key k.settle (bs.map k.row) [k.row a] = _
    rw [putAll_singleton k.key_settle (hkey a ha), foldl_settle hs.settle ha hbs]
    intro new hnew
    obtain ⟨b, hb, rfl⟩ := List.mem_map.mp hnew
    exact hkey b (hbs b hb)

/-- An unlimited query reads one record of the identifier from the one row that the
identifier has. -/
theorem filter_load_eq {text : ρ → String} {limit : Nat} {s s' : σ} (hlimit : rows.length ≤ limit)
    (howns : ∀ r ∈ rows, (k.key r).bind Uuid.ofString? = some u → k.owns u r)
    (hrow : rows.filter (k.owns u) = [k.row s]) (hid : k.id s = u)
    (hread : k.read? (k.row s) = some s') :
    ((newest text limit rows).filterMap k.read?).filter (k.id · = u) = [s'] := by
  have hperm : (((newest text limit rows).filterMap k.read?).filter (k.id · = u)).Perm
      ((rows.filterMap k.read?).filter (k.id · = u)) :=
    ((newest_perm hlimit).filterMap k.read?).filter _
  -- rows of other identifiers give nothing
  have hrows : (rows.filterMap k.read?).filter (k.id · = u) =
      ((rows.filter (k.owns u)).filterMap k.read?).filter (k.id · = u) := by
    rw [List.filter_filterMap, List.filter_filterMap, List.filterMap_filter]
    refine List.filterMap_congr fun r hr => ?_
    split
    · rfl
    · rename_i hother
      rw [Option.filter_eq_none_iff]
      intro t ht hmine
      rw [decide_eq_true_eq] at hmine
      refine hother (howns r hr ?_)
      rw [k.key_read ht, hmine]
  have hone : [s'].filter (k.id · = u) = [s'] :=
    List.filter_cons_of_pos (decide_eq_true ((k.id_of_read_row hread).trans hid))
  rw [hrows, hrow, List.filterMap_cons_some hread, List.filterMap_nil, hone] at hperm
  exact List.perm_singleton.mp hperm

/-- **Whatever the order in which the snapshots of a record are put, and however often each, an
unlimited query reads the one with the latest stamp.** -/
theorem exists_newest (text : ρ → String) {limit : Nat} {cut : σ → σ}
    (hs : k.Snapshots stamp u snapshots)
    (habsent : ∀ r ∈ rows, (k.key r).bind Uuid.ofString? ≠ some u)
    (hwritten : ∀ s, k.id s = u → (s ∈ written ↔ s ∈ snapshots))
    (hread : ∀ s ∈ snapshots, k.read? (k.row s) = some (cut s))
    (hlimit : (k.putAll written rows).length ≤ limit) :
    ∃ newest ∈ snapshots, (∀ s ∈ snapshots, stamp s ≤ stamp newest) ∧
      ((Table.newest text limit (k.putAll written rows)).filterMap k.read?).filter (k.id · = u) =
        [cut newest] := by
  have hfree : ∀ r ∈ rows, ¬ k.owns u r := fun r hr howned => habsent r hr (by
    rw [of_decide_eq_true howned, Option.bind_some, Uuid.ofString?_toString])
  obtain ⟨newest, hmem, hmax, hrow⟩ := filter_owns_eq hs hfree hwritten
  exact ⟨newest, hmem, hmax, filter_load_eq hlimit (fun r => k.owns_of_mem_putAll habsent) hrow
    (hs.id newest hmem) (hread newest hmem)⟩

end Keeping

end ShelterLine
