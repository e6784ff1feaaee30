import ShelterLine.Proofs.Snapshot
import ShelterLine.Store.Columns

/-!
# Migrations that were cut off

Bringing a database up to date is not one transaction: it may be cut off after any of its
statements, and be cut off again when it is taken up. Still there is one order in which things
come into being. All statements of all migrations, with the ledger's in front, make up one script,
and whatever happened, what is there is what the first statements of the script leave. A version
is in the ledger only if everything before it is there, so what the next run skips is done; what
it repeats changes nothing.

This is so as long as nobody else tells the ledger of a version that is not there: such a version is
believed.
-/

namespace ShelterLine

open Schema

/-! ## The script -/

/-- What a statement leaves in a database: a table, an index or a version in the ledger. -/
inductive Schema.Mark where
  | object (o : SchemaObject)
  | version (v : Int)
deriving DecidableEq

namespace Schema.Statement

/-- What a statement leaves. -/
def mark : Statement → Mark
  | .createTable name => .object ⟨.table, name⟩
  | .createIndex name _ => .object ⟨.index, name⟩
  | .record v _ => .version v

/-- A statement finds what it needs among what was made before it, and nothing of all that is
ever made is in its way. -/
def fits (before all : List Mark) : Statement → Bool
  | .createTable name => !all.contains (.object ⟨.index, name⟩)
  | .createIndex name table =>
    before.contains (.object ⟨.table, table⟩) && !all.contains (.object ⟨.table, name⟩)
  | .record _ _ => before.contains (.object ⟨.table, ledgerTable⟩)

end Schema.Statement

namespace Migration

/-- All statements of all migrations, after the one that makes the ledger. -/
def script : List Step := makeLedger :: all.flatMap steps

/-- What the statements leave, in order. -/
def marks : List Mark := script.map (·.statement.mark)

/-- The statements behind a database of a version. -/
def applied (v : Int) : List Step := (all.filter fun m => m.version ≤ v).flatMap steps

/-- What is made once is not made again. -/
theorem marks_nodup : marks.Nodup := by decide +kernel

theorem script_fits : ∀ j, (hj : j < script.length) →
    script[j].statement.fits (marks.take j) marks = true := by decide +kernel

theorem length_marks : marks.length = script.length := List.length_map ..

theorem getElem_marks {j : Nat} (hj : j < marks.length) :
    marks[j] = (script.get ⟨j, length_marks ▸ hj⟩).statement.mark := List.getElem_map ..

theorem versions_increasing : all.Pairwise fun m n => m.version < n.version := by decide

theorem version_pos : ∀ m ∈ all, 0 < m.version := by decide

theorem filter_append_filter {v : Int} : ∀ {ms : List Migration},
    (ms.Pairwise fun m n => m.version < n.version) →
      (ms.filter fun m => m.version ≤ v) ++ (ms.filter fun m => v < m.version) = ms
  | [], _ => rfl
  | m :: ms, h => by
    obtain ⟨hfirst, hrest⟩ := List.pairwise_cons.1 h
    by_cases hm : m.version ≤ v
    · have hrest := filter_append_filter (v := v) hrest
      simp [hm, hrest, Int.not_lt.2 hm]
    · -- and all that follow are later still
      have hlater : ∀ n ∈ m :: ms, v < n.version := by
        intro n hn
        rcases List.mem_cons.1 hn with rfl | hn
        · omega
        · have := hfirst n hn
          omega
      rw [List.filter_eq_nil_iff.2 fun n hn => by simpa using hlater n hn,
        List.filter_eq_self.2 fun n hn => decide_eq_true (hlater n hn), List.nil_append]

/-- **A version divides the script** into what is behind it and what it lacks. -/
theorem script_eq (v : Int) : script = (makeLedger :: applied v) ++ pending v := by
  unfold applied pending script
  rw [List.cons_append, ← List.flatMap_append, filter_append_filter versions_increasing]

theorem applied_of_nonpos {v : Int} (h : v ≤ 0) : applied v = [] := by
  unfold applied
  rw [List.filter_eq_nil_iff.2 fun m hm => by have := version_pos m hm; simp; omega]
  rfl

/-- The record of a version comes right behind all else that it stands for. -/
theorem applied_record : ∀ j, (hj : j < script.length) →
    (match script[j].statement with
      | .record v _ => decide (applied v = (script.take (j + 1)).drop 1)
      | _ => true) = true := by decide +kernel

/-- What is left by the statements behind a version. -/
theorem take_marks (v : Int) :
    marks.take ((applied v).length + 1) =
      makeLedger.statement.mark :: (applied v).map (·.statement.mark) := by
  unfold marks
  rw [script_eq v, List.map_append, List.take_left' (by simp), List.map_cons]

theorem applied_of_mark {j : Nat} (hj : j < marks.length) {v : Int}
    (hmark : marks[j] = .version v) :
    applied v = (script.take (j + 1)).drop 1 := by
  have hj' : j < script.length := length_marks ▸ hj
  have hrecord := applied_record j hj'
  rw [getElem_marks, List.get_eq_getElem] at hmark
  cases hstatement : script[j].statement with
  | createTable | createIndex =>
    rw [hstatement] at hmark
    cases hmark
  | record w n =>
    rw [hstatement] at hmark hrecord
    cases hmark
    exact of_decide_eq_true hrecord

theorem mem_marks_take {s : Step} {j : Nat} (h : s ∈ (script.take j).drop 1) :
    s.statement.mark ∈ marks.take j := by
  unfold marks
  rw [← List.map_take]
  exact List.mem_map_of_mem (List.mem_of_mem_drop h)

theorem mem_applied_of_lt {i j : Nat} (hij : i + 1 < j) (hj : j < marks.length) {v : Int}
    (hmark : marks[j] = .version v) : ∃ s ∈ applied v, marks[i + 1] = s.statement.mark := by
  refine ⟨_, ?_, getElem_marks _⟩
  rw [applied_of_mark hj hmark, List.mem_iff_getElem]
  rw [length_marks] at hj
  exact ⟨i, by simp; omega, by simp⟩

end Migration

/-! ## Databases that are half-way up to date -/

namespace Database

open Migration

variable {db db' : Database}

/-- What is there of what statements leave. -/
def Has (db : Database) : Mark → Prop
  | .object o => o ∈ db.objects
  | .version v => ∃ name, (v, name) ∈ db.ledger.rows

theorem hasTable_iff {name : String} : db.hasTable name = true ↔ db.Has (.object ⟨.table, name⟩) :=
  List.contains_iff_mem

theorem hasIndex_iff {name : String} : db.hasIndex name = true ↔ db.Has (.object ⟨.index, name⟩) :=
  List.contains_iff_mem

/-- No row of `db` is lost, and none comes but to the ledger. -/
structure KeepsRows (db db' : Database) : Prop where
  jobs : db'.jobs = db.jobs
  sessions : db'.sessions = db.sessions
  escalations : db'.escalations = db.escalations
  blocked : db'.blocked = db.blocked
  ledger : db.ledger.rows ⊆ db'.ledger.rows

theorem KeepsRows.refl (db : Database) : KeepsRows db db := ⟨rfl, rfl, rfl, rfl, fun _ h => h⟩

theorem KeepsRows.trans {db'' : Database} (h : KeepsRows db db') (h' : KeepsRows db' db'') :
    KeepsRows db db'' :=
  ⟨h'.jobs.trans h.jobs, h'.sessions.trans h.sessions, h'.escalations.trans h.escalations,
    h'.blocked.trans h.blocked, fun _ hr => h'.ledger (h.ledger hr)⟩

/-- The ledger has every version once, in order, and is as migrations make it. -/
structure Ordered (l : Ledger) : Prop where
  hasVersions : l.hasVersions = true
  takesRows : l.takesRows = true
  increasing : l.rows.Pairwise fun r q => r.1 < q.1

/-- All that the ledger says was applied is there. -/
def Honest (db : Database) : Prop :=
  ∀ v, db.Has (.version v) → ∀ s ∈ applied v, db.Has s.statement.mark

/-- What is there of tables, indexes and versions came into being in the order of the script, as far
as the script knows it. -/
structure Sound (db : Database) : Prop where
  ordered : Ordered db.ledger
  known : ∀ o ∈ db.objects, Mark.object o ∈ marks
  closed : ∀ i j, i ≤ j → ∀ (hi : i < marks.length) (hj : j < marks.length),
    db.Has marks[j] → db.Has marks[i]
  honest : db.Honest

theorem has_congr (hobjects : db'.objects = db.objects)
    (hledger : db'.ledger = db.ledger) (x : Mark) :
    db'.Has x ↔ db.Has x := by
  cases x with
  | object o =>
    unfold Has
    rw [hobjects]
  | version v =>
    unfold Has
    rw [hledger]

/-- A database with the same schema and ledger is as sound. -/
theorem Sound.congr (h : db.Sound) (hobjects : db'.objects = db.objects)
    (hledger : db'.ledger = db.ledger) : db'.Sound := by
  have hhas := has_congr hobjects hledger
  refine ⟨hledger ▸ h.ordered, hobjects ▸ h.known, fun i j hij hi hj hthere => ?_,
    fun v hv s hs => ?_⟩
  · exact (hhas _).2 (h.closed i j hij hi hj ((hhas _).1 hthere))
  · exact (hhas _).2 (h.honest v ((hhas _).1 hv) s hs)

/-- Nothing is sound. -/
theorem sound_empty : Sound {} where
  ordered := ⟨rfl, rfl, List.Pairwise.nil⟩
  known := fun _ ho => absurd ho List.not_mem_nil
  closed := fun _ j _ _ _ hthere => by
    cases hmark : marks[j] with
    | object o =>
      rw [hmark] at hthere
      cases hthere
    | version v =>
      rw [hmark] at hthere
      exact absurd hthere.choose_spec List.not_mem_nil
  honest := fun _ hv => absurd hv.choose_spec List.not_mem_nil

/-! ## Versions in the ledger -/

theorem mem_of_mem_insertVersion {v : Int} {name : String} {r : Int × String} :
    ∀ {rows : List (Int × String)}, r ∈ insertVersion v name rows → r = (v, name) ∨ r ∈ rows
  | [], h => Or.inl (List.mem_singleton.1 h)
  | (w, n) :: rest, h => by
    unfold insertVersion at h
    split at h
    · exact Or.inr h
    · split at h
      · exact List.mem_cons.1 h
      · rcases List.mem_cons.1 h with rfl | h
        · exact Or.inr List.mem_cons_self
        · exact (mem_of_mem_insertVersion h).imp_right (List.mem_cons_of_mem _)

theorem subset_insertVersion (v : Int) (name : String) :
    ∀ rows : List (Int × String), rows ⊆ insertVersion v name rows
  | [], _, h => absurd h List.not_mem_nil
  | (w, n) :: rest, r, h => by
    unfold insertVersion
    split
    · exact h
    · split
      · exact List.mem_cons_of_mem _ h
      · rcases List.mem_cons.1 h with rfl | h
        · exact List.mem_cons_self
        · exact List.mem_cons_of_mem _ (subset_insertVersion v name rest h)

/-- The version is there then, if perhaps under another name. -/
theorem exists_mem_insertVersion (v : Int) (name : String) :
    ∀ rows : List (Int × String), ∃ n, (v, n) ∈ insertVersion v name rows
  | [] => ⟨name, List.mem_singleton_self _⟩
  | (w, n) :: rest => by
    unfold insertVersion
    split
    · rename_i hvw
      exact ⟨n, hvw ▸ List.mem_cons_self⟩
    · split
      · exact ⟨name, List.mem_cons_self⟩
      · obtain ⟨m, hm⟩ := exists_mem_insertVersion v name rest
        exact ⟨m, List.mem_cons_of_mem _ hm⟩

theorem increasing_insertVersion {v : Int} {name : String} : ∀ {rows : List (Int × String)},
    (rows.Pairwise fun r q => r.1 < q.1) → (insertVersion v name rows).Pairwise fun r q => r.1 < q.1
  | [], _ => List.pairwise_singleton ..
  | (w, n) :: rest, h => by
    obtain ⟨hfirst, hrest⟩ := List.pairwise_cons.1 h
    unfold insertVersion
    split
    · exact h
    · rename_i hne
      split
      · rename_i hlt
        refine List.pairwise_cons.2 ⟨fun q hq => ?_, h⟩
        rcases List.mem_cons.1 hq with rfl | hq
        · exact hlt
        · exact Int.lt_trans hlt (hfirst q hq)
      · rename_i hge
        refine List.pairwise_cons.2 ⟨fun q hq => ?_, increasing_insertVersion hrest⟩
        rcases mem_of_mem_insertVersion hq with rfl | hq
        · dsimp only
          omega
        · exact hfirst q hq

/-- A version that is in the ledger is there once. -/
theorem Ordered.length_filter {l : Ledger} (h : Ordered l) {v : Int} {name : String}
    (hv : (v, name) ∈ l.rows) : (l.rows.filter (·.1 = v)).length = 1 := by
  have hnodup : (l.rows.map Prod.fst).Nodup := by
    rw [List.Nodup, List.pairwise_map]
    exact h.increasing.imp fun hlt => Int.ne_of_lt hlt
  have hone : (l.rows.map Prod.fst).count v = 1 :=
    List.count_eq_one_of_mem hnodup (List.mem_map.2 ⟨_, hv, rfl⟩)
  rw [List.count, List.countP_map] at hone
  rw [← List.countP_eq_length_filter, ← hone]
  exact List.countP_congr fun r _ => by simp

theorem foldl_max_spec : ∀ (rows : List (Int × String)) (v : Int),
    (rows.foldl (fun m r => max m r.1) v = v ∨
      ∃ r ∈ rows, rows.foldl (fun m r => max m r.1) v = r.1) ∧
    v ≤ rows.foldl (fun m r => max m r.1) v ∧ ∀ r ∈ rows, r.1 ≤ rows.foldl (fun m r => max m r.1) v
  | [], v => ⟨Or.inl rfl, Int.le_refl v, fun _ hr => absurd hr List.not_mem_nil⟩
  | q :: rows, v => by
    obtain ⟨hfound, hle, hall⟩ := foldl_max_spec rows (max v q.1)
    rw [List.foldl_cons]
    refine ⟨?_, by omega, fun r hr => ?_⟩
    · rcases hfound with hmax | ⟨r, hr, heq⟩
      · rcases Int.le_total v q.1 with hvq | hqv
        · exact Or.inr ⟨q, List.mem_cons_self, by omega⟩
        · exact Or.inl (by omega)
      · exact Or.inr ⟨r, List.mem_cons_of_mem q hr, heq⟩
    · rcases List.mem_cons.1 hr with rfl | hr
      · omega
      · exact hall r hr

/-- The version of a database is the greatest in its ledger. -/
theorem version?_spec (hledger : db.hasTable ledgerTable = true) (hordered : Ordered db.ledger) :
    ∃ v, db.version? = some v ∧
      (v ≤ 0 ∨ db.Has (.version v)) ∧ ∀ w, db.Has (.version w) → w ≤ v := by
  unfold version? Has
  rw [hledger, hordered.hasVersions]
  cases db.ledger.rows with
  | nil => exact ⟨0, rfl, Or.inl (Int.le_refl 0),
    fun _ hw => absurd hw.choose_spec List.not_mem_nil⟩
  | cons q rest =>
    obtain ⟨hfound, hle, hall⟩ := foldl_max_spec rest q.1
    refine ⟨_, rfl, Or.inr ?_, fun w ⟨name, hw⟩ => ?_⟩
    · rcases hfound with hfirst | ⟨r, hr, heq⟩
      · rw [hfirst]
        exact ⟨q.2, List.mem_cons_self⟩
      · rw [heq]
        exact ⟨r.2, List.mem_cons_of_mem q hr⟩
    · rcases List.mem_cons.1 hw with rfl | hw
      · exact hle
      · exact hall _ hw

/-! ## One statement -/

/-- A table or an index is made at the end of the schema. -/
theorem has_makeObject (o : SchemaObject) (x : Mark) :
    Has { db with objects := db.objects ++ [o] } x ↔ x = .object o ∨ db.Has x := by
  cases x with
  | object p => simp [Has, or_comm]
  | version v => simp [Has]

theorem has_insertVersion (v : Int) (name : String) (x : Mark) :
    Has { db with ledger.rows := insertVersion v name db.ledger.rows } x ↔
      x = .version v ∨ db.Has x := by
  cases x with
  | object o => simp [Has]
  | version w =>
    unfold Has
    constructor
    · rintro ⟨n, hn⟩
      rcases mem_of_mem_insertVersion hn with heq | hn
      · exact Or.inl (congrArg Mark.version (Prod.mk.inj heq).1)
      · exact Or.inr ⟨n, hn⟩
    · rintro (heq | ⟨n, hn⟩)
      · cases heq
        exact exists_mem_insertVersion v name _
      · exact ⟨n, subset_insertVersion v name _ hn⟩

/-- **A statement that fits is carried out, and adds what it leaves.** -/
theorem execute_of_fits {before : List Mark} {s : Statement} (hfits : s.fits before marks = true)
    (h : db.Sound) (hbefore : ∀ x ∈ before, db.Has x) :
    ∃ db', db.execute s = some db' ∧ Ordered db'.ledger ∧ KeepsRows db db' ∧
      ∀ x, db'.Has x ↔ x = s.mark ∨ db.Has x := by
  have hthere : ∀ {x}, db.Has x → ∀ y, db.Has y ↔ y = x ∨ db.Has y := fun hx y =>
    ⟨Or.inr, fun hy => hy.elim (fun heq => heq ▸ hx) id⟩
  cases s with
  | createTable name =>
    have hindex : db.hasIndex name = false := by
      rw [Statement.fits, Bool.not_eq_true', ← Bool.not_eq_true, List.contains_iff_mem] at hfits
      rw [← Bool.not_eq_true, hasIndex_iff]
      exact fun hhas => hfits (h.known _ hhas)
    rw [execute, hindex]
    split
    · rename_i htable
      exact ⟨db, rfl, h.ordered, .refl db, hthere (hasTable_iff.1 htable)⟩
    · exact ⟨_, rfl, h.ordered, ⟨rfl, rfl, rfl, rfl, fun _ hr => hr⟩, has_makeObject _⟩
  | createIndex name table =>
    rw [Statement.fits, Bool.and_eq_true, List.contains_iff_mem, Bool.not_eq_true',
      ← Bool.not_eq_true, List.contains_iff_mem] at hfits
    have hneeds : db.hasTable table = true := hasTable_iff.2 (hbefore _ hfits.1)
    have hfree : db.hasTable name = false := by
      rw [← Bool.not_eq_true, hasTable_iff]
      exact fun hhas => hfits.2 (h.known _ hhas)
    rw [execute, hneeds, hfree]
    change ∃ db', (if db.hasIndex name = true then some db else _) = some db' ∧ _
    split
    · rename_i hindex
      exact ⟨db, rfl, h.ordered, .refl db, hthere (hasIndex_iff.1 hindex)⟩
    · exact ⟨_, rfl, h.ordered, ⟨rfl, rfl, rfl, rfl, fun _ hr => hr⟩, has_makeObject _⟩
  | record v name =>
    have hneeds : db.hasTable ledgerTable = true :=
      hasTable_iff.2 (hbefore _ (List.contains_iff_mem.1 hfits))
    rw [execute, hneeds, h.ordered.takesRows]
    exact ⟨_, rfl,
      ⟨h.ordered.hasVersions, h.ordered.takesRows, increasing_insertVersion h.ordered.increasing⟩,
      ⟨rfl, rfl, rfl, rfl, subset_insertVersion v name _⟩, has_insertVersion v name⟩

/-- **A statement takes a sound database on**, if everything before it in the script is there. -/
theorem Sound.step (h : db.Sound) {j : Nat} (hj : j < script.length)
    (hbefore : ∀ x ∈ marks.take j, db.Has x) :
    ∃ db', db.step script[j] = .ok db' ∧ db'.Sound ∧ KeepsRows db db' ∧
      ∀ x ∈ marks.take (j + 1), db'.Has x := by
  obtain ⟨db', hexecute, hordered, hkeeps, hhas⟩ := execute_of_fits (script_fits j hj) h hbefore
  have hj' : j < marks.length := length_marks ▸ hj
  have hmark := getElem_marks hj'
  rw [List.get_eq_getElem] at hmark
  rw [← hmark] at hhas
  have hdone : ∀ x ∈ marks.take (j + 1), db'.Has x := by
    intro x hx
    rw [List.take_succ_eq_append_getElem hj', List.mem_append, List.mem_singleton] at hx
    exact (hhas x).2 (hx.elim (fun hx => Or.inr (hbefore x hx)) Or.inl)
  refine ⟨db', by rw [Database.step, hexecute], ⟨hordered, ?_, ?_, ?_⟩, hkeeps, hdone⟩
  · intro o ho
    rcases (hhas (.object o)).1 ho with heq | ho
    · exact heq ▸ List.getElem_mem hj'
    · exact h.known o ho
  · intro i k hik hi hk hthere
    rcases (hhas _).1 hthere with heq | hthere
    · -- what was made now has its place in the script
      have hkj : k = j := (marks_nodup.getElem_inj_iff).1 heq
      exact hdone _ (List.mem_take_iff_getElem.2 ⟨i, by omega, rfl⟩)
    · exact (hhas _).2 (Or.inr (h.closed i k hik hi hk hthere))
  · intro v hv s hs
    rcases (hhas _).1 hv with heq | hv
    · rw [applied_of_mark hj' heq.symm] at hs
      exact hdone _ (mem_marks_take hs)
    · exact (hhas _).2 (Or.inr (h.honest v hv s hs))

/-- **So do several**, one after the other. -/
theorem Sound.run (n : Nat) {j : Nat} (h : db.Sound) (hbefore : ∀ x ∈ marks.take j, db.Has x) :
    ∃ db', db.run ((script.drop j).take n) = .ok db' ∧ db'.Sound ∧ KeepsRows db db' ∧
      ∀ x ∈ marks.take (j + n), db'.Has x := by
  induction n generalizing db j with
  | zero => exact ⟨db, rfl, h, .refl db, hbefore⟩
  | succ n ih =>
    by_cases hj : j < script.length
    · obtain ⟨db₁, hstep, h₁, hkeeps₁, hbefore₁⟩ := h.step hj hbefore
      obtain ⟨db₂, hrun, h₂, hkeeps₂, hdone⟩ := ih h₁ hbefore₁
      refine ⟨db₂, ?_, h₂, hkeeps₁.trans hkeeps₂, ?_⟩
      · rw [List.drop_eq_getElem_cons hj, List.take_succ_cons, Database.run, hstep]
        exact hrun
      · rwa [Nat.add_right_comm] at hdone
    · refine ⟨db, ?_, h, .refl db, ?_⟩
      · rw [List.drop_eq_nil_of_le (Nat.le_of_not_lt hj)]
        rfl
      · rw [List.take_of_length_le (length_marks ▸ Nat.le_of_not_lt hj)] at hbefore
        exact fun x hx => hbefore x (List.mem_of_mem_take hx)

/-! ## A run -/

/-- The statements that bring a database up to date. -/
def plan (db : Database) : List Step :=
  makeLedger :: match (db.step makeLedger).toOption.bind version? with
    | some v => pending v
    | none => []

/-- The start of a run: the ledger is there, and its version tells no lie. -/
theorem Sound.start (h : db.Sound) :
    ∃ db' v, db.step makeLedger = .ok db' ∧ db'.version? = some v ∧ db'.Sound ∧ KeepsRows db db' ∧
      (∀ x ∈ marks.take ((applied v).length + 1), db'.Has x) ∧
      db.plan = makeLedger :: pending v := by
  obtain ⟨db', hstep, hsound, hkeeps, hdone⟩ :=
    h.step (j := 0) (by decide) fun x hx => absurd hx List.not_mem_nil
  have hledger : db'.Has makeLedger.statement.mark := hdone _ List.mem_cons_self
  obtain ⟨v, hversion, hv, -⟩ := version?_spec (hasTable_iff.2 hledger) hsound.ordered
  refine ⟨db', v, hstep, hversion, hsound, hkeeps, fun x hx => ?_, ?_⟩
  · rw [take_marks] at hx
    rcases List.mem_cons.1 hx with rfl | hx
    · exact hledger
    · obtain ⟨s, hs, rfl⟩ := List.mem_map.1 hx
      rcases hv with hnone | hv
      · rw [applied_of_nonpos hnone] at hs
        exact absurd hs List.not_mem_nil
      · exact hsound.honest v hv s hs
  · have hstep' : db.step makeLedger = .ok db' := hstep
    rw [plan, hstep']
    change makeLedger :: (match db'.version? with | some v => pending v | none => []) = _
    rw [hversion]

/-- What a version lacks follows in the script. -/
theorem drop_script (v : Int) : script.drop ((applied v).length + 1) = pending v := by
  rw [script_eq v]
  exact List.drop_left' rfl

/-- **A run that is cut off leaves a sound database.** -/
theorem Sound.cutOff (h : db.Sound) (n : Nat) :
    ∃ db', db.run (db.plan.take n) = .ok db' ∧ db'.Sound ∧ KeepsRows db db' := by
  cases n with
  | zero => exact ⟨db, rfl, h, .refl db⟩
  | succ n =>
    obtain ⟨db₁, v, hstep, -, h₁, hkeeps₁, hbefore, hplan⟩ := h.start
    obtain ⟨db₂, hrun, h₂, hkeeps₂, -⟩ := h₁.run n hbefore
    refine ⟨db₂, ?_, h₂, hkeeps₁.trans hkeeps₂⟩
    rw [hplan, List.take_succ_cons, Database.run, hstep, ← drop_script]
    exact hrun

/-- A run that is not cut off goes through the whole plan. -/
theorem Sound.migrate_eq_run (h : db.Sound) : db.migrate = db.run db.plan := by
  obtain ⟨db₁, v, hstep, hversion, -, -, -, hplan⟩ := h.start
  rw [hplan, Database.run, migrate, hstep]
  dsimp only [bind, Except.bind]
  rw [hversion]

/-- **A run that is not cut off makes everything.** -/
theorem Sound.migrate (h : db.Sound) :
    ∃ db', db.migrate = .ok db' ∧ db'.Sound ∧ KeepsRows db db' ∧ ∀ x ∈ marks, db'.Has x := by
  obtain ⟨db₁, v, hstep, hversion, h₁, hkeeps₁, hbefore, hplan⟩ := h.start
  obtain ⟨db₂, hrun, h₂, hkeeps₂, hdone⟩ := h₁.run script.length hbefore
  refine ⟨db₂, ?_, h₂, hkeeps₁.trans hkeeps₂, ?_⟩
  · rw [h.migrate_eq_run, hplan, Database.run, hstep, ← drop_script]
    rwa [List.take_of_length_le (by simp)] at hrun
  · rwa [List.take_of_length_le (by rw [length_marks]; omega)] at hdone

/-- Where everything is made, a run does nothing. -/
theorem Sound.migrate_eq (h : db.Sound) (hall : ∀ x ∈ marks, db.Has x) : db.migrate = .ok db := by
  have hledger : db.hasTable ledgerTable = true := hasTable_iff.2 (hall _ List.mem_cons_self)
  obtain ⟨v, hversion, -, hmax⟩ := version?_spec hledger h.ordered
  have hpending : pending v = [] := by
    have hversions : ∀ m ∈ all, Mark.version m.version ∈ marks := by decide
    unfold pending
    rw [List.filter_eq_nil_iff.2 fun m hm => by simpa using hmax _ (hall _ (hversions m hm))]
    rfl
  have hstep : db.step makeLedger = .ok db := by
    have hexecute : db.execute makeLedger.statement = some db := by
      change db.execute (.createTable ledgerTable) = some db
      rw [execute, hledger]
      rfl
    rw [Database.step, hexecute]
  rw [Database.migrate, hstep]
  dsimp only [bind, Except.bind]
  rw [hversion]
  dsimp only
  rw [hpending]
  rfl

/-! ## Rows put in by others -/

/-- Where a row that was read is added to another table, schema and ledger stay. -/
theorem frame_of_added {α ρ : Type} {row : Option α} {added : α → Option ρ} {put : ρ → Database}
    (h : (row >>= fun a => added a >>= fun rows => pure (put rows)) = some db')
    (hput : ∀ rows, (put rows).objects = db.objects ∧ (put rows).ledger = db.ledger) :
    db'.objects = db.objects ∧ db'.ledger = db.ledger := by
  obtain ⟨a, -, h⟩ := Option.bind_eq_some_iff.1 h
  obtain ⟨rows, -, h⟩ := Option.bind_eq_some_iff.1 h
  cases h
  exact hput rows

/-- A row that is put in by hand changes no schema, and the ledger only by a version. -/
theorem insertColumns_frame {table : String} {cs : Columns}
    (h : db.insertColumns table cs = some db') :
    (db'.objects = db.objects ∧ db'.ledger = db.ledger) ∨
      (table = ledgerTable ∧ db.hasTable ledgerTable = true ∧ ∃ v name,
        db' = { db with ledger.rows := insertVersion v name db.ledger.rows }) := by
  unfold insertColumns at h
  obtain ⟨_, htable, h⟩ := Option.bind_eq_some_iff.1 h
  rw [Option.guard_eq_some'] at htable
  split at h
  · exact Or.inl (frame_of_added h fun _ => ⟨rfl, rfl⟩)
  split at h
  · exact Or.inl (frame_of_added h fun _ => ⟨rfl, rfl⟩)
  split at h
  · exact Or.inl (frame_of_added h fun _ => ⟨rfl, rfl⟩)
  split at h
  · obtain ⟨_, -, h⟩ := Option.bind_eq_some_iff.1 h
    exact Or.inl (frame_of_added h fun _ => ⟨rfl, rfl⟩)
  split at h
  · rename_i hledger
    -- the version is given or the next one, and then there is one way on
    have hrecorded : ∀ v, (do
        let name ← cs.text "name"
        guard (db.ledger.takesRows && !db.ledger.rows.any (·.1 = v))
        pure { db with ledger.rows := insertVersion v name db.ledger.rows }) = some db' →
        ∃ v name, db' = { db with ledger.rows := insertVersion v name db.ledger.rows } := by
      intro v hrow
      obtain ⟨name, -, hrow⟩ := Option.bind_eq_some_iff.1 hrow
      obtain ⟨_, -, hrow⟩ := Option.bind_eq_some_iff.1 hrow
      cases hrow
      exact ⟨v, name, rfl⟩
    refine Or.inr ⟨hledger, hledger ▸ htable, ?_⟩
    obtain ⟨_, -, h⟩ := Option.bind_eq_some_iff.1 h
    obtain ⟨_, -, h⟩ := Option.bind_eq_some_iff.1 h
    dsimp only at h
    split at h
    · exact hrecorded _ h
    · exact hrecorded _ h
    · obtain ⟨v, -, h⟩ := Option.bind_eq_some_iff.1 h
      exact hrecorded v h
  · cases h

/-- **A row that is put in by hand keeps a database sound**, unless it makes the ledger lie. -/
theorem Sound.insertColumns (h : db.Sound) {table : String} {cs : Columns}
    (hinsert : db.insertColumns table cs = some db') (hhonest : table = ledgerTable → db'.Honest) :
    db'.Sound := by
  rcases insertColumns_frame hinsert with ⟨hobjects, hledger⟩ | ⟨htable, hthere, v, name, rfl⟩
  · exact h.congr hobjects hledger
  have hhas := @has_insertVersion db v name
  refine ⟨⟨h.ordered.hasVersions, h.ordered.takesRows,
    increasing_insertVersion h.ordered.increasing⟩,
    h.known, fun i j hij hi hj hj' => ?_, hhonest htable⟩
  rcases (hhas _).1 hj' with heq | hold
  · -- a version that was put in stands for all before it
    rcases Nat.eq_or_lt_of_le hij with rfl | hij
    · exact hj'
    · cases i with
      | zero => exact (hhas _).2 (Or.inr (hasTable_iff.1 hthere))
      | succ i =>
        obtain ⟨s, hs, hmark⟩ := mem_applied_of_lt hij hj heq
        rw [hmark]
        exact hhonest htable v ((hhas _).2 (Or.inl rfl)) s hs
  · exact (hhas _).2 (Or.inr (h.closed i j hij hi hj hold))

theorem ledger_absorb (w : Write) : (db.absorb w).ledger = db.ledger := by
  cases w with
  | job | session | escalation | block | unblock =>
    rw [absorb_eq rfl]
    split <;> rfl

/-! ## What may become of an empty database -/

/-- What an empty database may become while runs are cut off, each after some of its
statements, and rows come in between: by hand, if the ledger is then as it is allowed to be, or
as the service writes them. -/
inductive Reached (allowed : Database → Prop) : Database → Prop
  | empty : Reached allowed {}
  | cutOff {db db' : Database} (n : Nat) :
    Reached allowed db → db.run (db.plan.take n) = .ok db' → Reached allowed db'
  | insert {db db' : Database} (table : String) (cs : Columns) :
    Reached allowed db → db.insertColumns table cs = some db' →
    (table = ledgerTable → allowed db') →
      Reached allowed db'
  | write {db : Database} (w : Write) : Reached allowed db → Reached allowed (db.absorb w)

/-- **Whatever happened, a database is sound**, if nobody made its ledger lie. -/
theorem Reached.sound (h : Reached Honest db) : db.Sound := by
  induction h with
  | empty => exact sound_empty
  | cutOff n _ hrun ih =>
    obtain ⟨db', hrun', hsound, -⟩ := ih.cutOff n
    cases hrun.symm.trans hrun'
    exact hsound
  | insert table cs _ hinsert hhonest ih => exact ih.insertColumns hinsert hhonest
  | write w _ ih => exact ih.congr (objects_absorb w) (ledger_absorb w)

/-- All tables and indexes are there, and each version once in the ledger. -/
structure UpToDate (db : Database) : Prop where
  tables : ∀ t ∈ [jobTable, sessionTable, escalationTable, blockedTable], db.hasTable t = true
  indexes : ∀ i ∈ ["idx_call_jobs_updated_at", "idx_warm_transfers_updated_at",
    "idx_escalation_events_created_at"], db.hasIndex i = true
  versions : ∀ v ∈ [1, 2], (db.ledger.rows.filter (·.1 = v)).length = 1

theorem Sound.upToDate (h : db.Sound) (hall : ∀ x ∈ marks, db.Has x) : db.UpToDate where
  tables := fun t ht => hasTable_iff.2 (hall _ (by revert t; decide))
  indexes := fun i hi => hasIndex_iff.2 (hall _ (by revert i; decide))
  versions := fun v hv => by
    obtain ⟨name, hname⟩ := hall (.version v) (by revert v; decide)
    exact h.ordered.length_filter hname

/-- A run brings the database up to date and loses no row, and another one changes nothing. -/
def Recovers (db : Database) : Prop :=
  ∃ db', db.migrate = .ok db' ∧ db'.UpToDate ∧ KeepsRows db db' ∧ db'.migrate = .ok db'

/-- **Migrations recover wherever they were cut off.** However often that was, and
whatever rows came in between, one run that is not cut off makes all that is lacking and
keeps all that is there. -/
theorem migrate_recovers (h : Reached Honest db) : db.Recovers := by
  obtain ⟨db', hmigrate, hsound, hkeeps, hall⟩ := h.sound.migrate
  exact ⟨db', hmigrate, hsound.upToDate hall, hkeeps, hsound.migrate_eq hall⟩

/-- A run was cut off between the tables, a row was put into the first of them, and the next run was
cut off before it had made a new one. -/
theorem migrate_recovers_twice_cut :
    ∃ db, Reached Honest db ∧ db.jobs.length = 1 ∧ db.hasTable escalationTable = false ∧
      db.Recovers := by
  have hfirst : Reached Honest { objects := [⟨.table, ledgerTable⟩, ⟨.table, jobTable⟩] } :=
    .cutOff 2 .empty rfl
  have hrow : Reached Honest
      { objects := [⟨.table, ledgerTable⟩, ⟨.table, jobTable⟩]
        jobs := [{
          id := some "a", mode := "live", status := "queued", createdAt := "b", updatedAt := "c",
          survivorContext := "d", callbackNumber := none, anonymous := some 0, approved := some 0,
          shelterIds := "[]", attempts := "[]" }] } :=
    .insert jobTable [("job_id", .str "a"), ("mode", .str "live"), ("status", .str "queued"),
      ("created_at", .str "b"), ("updated_at", .str "c"), ("survivor_context", .str "d")] hfirst rfl
      (fun h => absurd h (by decide))
  have hsecond := hrow.cutOff 2 rfl
  exact ⟨_, hsecond, rfl, rfl, migrate_recovers hsecond⟩

/-- A version that was put into the ledger before its time is believed, and nothing is
made any more. -/
theorem migrate_believes_ledger : ¬ ∀ db, Reached (fun _ => True) db → db.Recovers := by
  intro hrecovers
  have hmade : Reached (fun _ => True) { objects := [⟨.table, ledgerTable⟩] } :=
    .cutOff 1 .empty rfl
  have htold : Reached (fun _ => True)
      { objects := [⟨.table, ledgerTable⟩], ledger.rows := [(99, "later")] } :=
    .insert ledgerTable [("version", .num (.int 99)), ("name", .str "later")] hmade rfl
      fun _ => trivial
  obtain ⟨db', hmigrate, hupToDate, -⟩ := hrecovers _ htold
  cases (Except.ok.inj hmigrate : _ = db')
  exact absurd (hupToDate.tables jobTable List.mem_cons_self) (by decide)

end Database

end ShelterLine
