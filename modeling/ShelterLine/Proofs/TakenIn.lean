import ShelterLine.Proofs.Codec

/-!
# Texts that are taken in before they are read

A reader who must know a field that may come last takes in the whole text and reads the fields from
there. An empty object is then nothing but hollow, and could also pass for null. Still, whatever is
read from a text is read from it when it has been taken in: this goes over from the codecs of
members to the codec of a structure.
-/

namespace ShelterLine.Json

/-- What comes first had to be read. -/
theorem exists_of_bind_eq_ok {ε α β : Type} {x : Except ε α} {f : α → Except ε β} {b : β}
    (h : x >>= f = .ok b) : ∃ a, x = .ok a ∧ f a = .ok b := by
  cases x with
  | error e => cases h
  | ok a => exact ⟨a, rfl, h⟩

theorem exists_of_map_eq_ok {ε α β : Type} {x : Except ε α} {f : α → β} {b : β}
    (h : x.map f = .ok b) : ∃ a, x = .ok a ∧ f a = b := by
  cases x with
  | error e => cases h
  | ok a => exact ⟨a, rfl, Except.ok.inj h⟩

/-! ## Drafts -/

theorem itemsTakenIn_eq (ds : List Draft) : itemsTakenIn ds = ds.map Draft.takenIn := by
  induction ds with
  | nil => rfl
  | cons d ds ih => rw [itemsTakenIn, ih, List.map_cons]

theorem fieldsTakenIn_eq (fs : List (Option String × Draft)) :
    fieldsTakenIn fs = fs.map fun f => (f.1, f.2.takenIn) := by
  induction fs with
  | nil => rfl
  | cons f fs ih => rw [fieldsTakenIn, ih, List.map_cons]

/-- An object with fields stays one. -/
theorem takenIn_obj {fs : List (Option String × Draft)} {stop : Option Break}
    (h : fs ≠ [] ∨ stop ≠ none) : (Draft.obj fs stop).takenIn = .obj (fieldsTakenIn fs) stop := by
  rw [Draft.takenIn]
  rintro rfl rfl
  exact h.elim (· rfl) (· rfl)

mutual

/-- Who passes over a text meets the same flaw when it has been taken in. -/
theorem skipFlaw_takenIn : ∀ d : Draft, d.takenIn.skipFlaw = d.skipFlaw
  | .null | .bool _ | .num _ | .str _ | .unreadable | .broken _ | .buried _ | .hollow => rfl
  | .arr items stop => by rw [Draft.takenIn, Draft.skipFlaw, Draft.skipFlaw, skipItems_takenIn]
  | .obj [] none => rfl
  | .obj [] (some b) => rfl
  | .obj (f :: fs) stop => by
    rw [takenIn_obj (Or.inl (List.cons_ne_nil f fs)), Draft.skipFlaw, Draft.skipFlaw,
      skipFields_takenIn]

theorem skipItems_takenIn : ∀ ds : List Draft, skipItems (itemsTakenIn ds) = skipItems ds
  | [] => rfl
  | d :: ds => by rw [itemsTakenIn, skipItems, skipItems, skipFlaw_takenIn, skipItems_takenIn]

theorem skipFields_takenIn :
    ∀ fs : List (Option String × Draft), skipFields (fieldsTakenIn fs) = skipFields fs
  | [] => rfl
  | (_, d) :: fs => by
    rw [fieldsTakenIn, skipFields, skipFields, skipFlaw_takenIn, skipFields_takenIn]

end

/-! ## Simple values -/

/-- What is read from a draft is read from it taken in. -/
def Codec.ReadsTakenIn {α : Type} (c : Codec α) : Prop :=
  ∀ d a, c.decode d = .ok a → c.decode d.takenIn = .ok a

namespace Codec

variable {α : Type} {c : Codec α}

theorem readsTakenIn_string : string.ReadsTakenIn := by
  intro d s h
  cases d with
  | arr | obj => cases h
  | null | bool | num | str | unreadable | broken | buried | hollow => exact h

theorem readsTakenIn_bool : bool.ReadsTakenIn := by
  intro d b h
  cases d with
  | arr | obj => cases h
  | null | bool | num | str | unreadable | broken | buried | hollow => exact h

theorem readsTakenIn_whole (toInt : α → Int) (ofInt? : Int → Option α) :
    (whole toInt ofInt?).ReadsTakenIn := by
  intro d a h
  cases d with
  | arr | obj => cases h
  | null | bool | num | str | unreadable | broken | buried | hollow => exact h

theorem readsTakenIn_text (write : α → String) (read? : String → Option α) :
    (text write read?).ReadsTakenIn := by
  intro d a h
  cases d with
  | arr | obj => cases h
  | null | bool | num | str | unreadable | broken | buried | hollow => exact h

theorem takenIn_of_decodeNull {d : Draft} (h : decodeNull d = .ok ()) : d.takenIn = d := by
  cases d with
  | null | hollow => rfl
  | bool | num | str | unreadable | broken | arr | obj | buried => cases h

theorem readsTakenIn_name (n : Naming α) : (name n).ReadsTakenIn := by
  intro d a h
  cases d with
  | arr => cases h
  | null | bool | num | str | unreadable | broken | buried | hollow => exact h
  | obj fields stop =>
    match fields, stop with
    | [], none => cases h
    | [], some b => cases h
    | (none, _) :: _, _ => cases h
    | (some k, d) :: rest, stop =>
      -- the only field has null for its value
      obtain ⟨b, hknown, hvalue⟩ := exists_of_bind_eq_ok h
      obtain ⟨u, hnull, hend⟩ := exists_of_bind_eq_ok hvalue
      match rest, stop with
      | _ :: _, _ => cases hend
      | [], some _ => cases hend
      | [], none =>
        rw [takenIn_obj (Or.inl (List.cons_ne_nil _ _)), fieldsTakenIn, fieldsTakenIn,
          takenIn_of_decodeNull hnull]
        exact h

/-! ## Options and lists -/

theorem ReadsTakenIn.option (h : c.ReadsTakenIn) : c.option.ReadsTakenIn := by
  intro d o hd
  cases d with
  | null | bool | num | str | unreadable | broken | buried | hollow => exact hd
  | arr items stop =>
    obtain ⟨a, ha, rfl⟩ := exists_of_map_eq_ok hd
    have hsame := h _ a ha
    rw [Draft.takenIn] at hsame ⊢
    exact congrArg (Except.map some) hsame
  | obj fields stop =>
    obtain ⟨a, ha, rfl⟩ := exists_of_map_eq_ok hd
    have hsame := h _ a ha
    by_cases hempty : fields = [] ∧ stop = none
    · obtain ⟨rfl, rfl⟩ := hempty
      exact congrArg (Except.map some) hsame
    · rw [takenIn_obj (not_and_or.1 hempty)] at hsame ⊢
      exact congrArg (Except.map some) hsame

theorem ReadsTakenIn.decodeItems (h : c.ReadsTakenIn) :
    ∀ {ds : List Draft} {as : List α}, Codec.decodeItems c ds = .ok as →
      Codec.decodeItems c (itemsTakenIn ds) = .ok as
  | [], as, hd => hd
  | d :: ds, as, hd => by
    obtain ⟨a, ha, hrest⟩ := exists_of_bind_eq_ok hd
    obtain ⟨bs, hbs, hcons⟩ := exists_of_bind_eq_ok hrest
    rw [itemsTakenIn, Codec.decodeItems, h d a ha, h.decodeItems hbs]
    exact hcons

theorem ReadsTakenIn.list (h : c.ReadsTakenIn) : (list c).ReadsTakenIn := by
  intro d as hd
  cases d with
  | obj => cases hd
  | null | bool | num | str | unreadable | broken | buried | hollow => exact hd
  | arr items stop =>
    obtain ⟨bs, hbs, hstop⟩ := exists_of_bind_eq_ok hd
    change (Codec.decodeItems c (itemsTakenIn items) >>= _) = _
    rw [h.decodeItems hbs]
    exact hstop

end Codec

/-! ## Members -/

/-- The entries of a text that has been taken in. -/
def Entries.takenIn (e : Entries) : Entries :=
  { e with values := e.values.map fun v => (v.1, v.2.1, v.2.2.takenIn) }

/-- What members read from entries they read from them taken in. -/
def Members.ReadsTakenIn {σ α : Type} (m : Members σ α) : Prop :=
  ∀ e a, m.read e = .ok a → m.read e.takenIn = .ok a

namespace Members

variable {σ α β : Type} {c : Codec α}

/-- Both had to be read. -/
theorem ap_eq_ok {f : Placed (α → β)} {x : Placed α} {b : β} (h : Placed.ap f x = .ok b) :
    ∃ g a, f = .ok g ∧ x = .ok a ∧ g a = b := by
  cases f with
  | error p => cases x <;> cases h
  | ok g =>
    cases x with
    | error p => cases h
    | ok a => exact ⟨g, a, rfl, rfl, Except.ok.inj h⟩

theorem readsTakenIn_pure (a : α) : (pure a : Members σ α).ReadsTakenIn := fun _ _ h => h

theorem ReadsTakenIn.seq {f : Members σ (α → β)} {x : Members σ α} (hf : f.ReadsTakenIn)
    (hx : x.ReadsTakenIn) : (f <*> x).ReadsTakenIn := by
  intro e b h
  obtain ⟨g, a, hg, ha, rfl⟩ := ap_eq_ok h
  change Placed.ap (f.read e.takenIn) (x.read e.takenIn) = .ok (g a)
  rw [hf e g hg, hx e a ha]
  rfl

theorem ReadsTakenIn.map {x : Members σ α} (h : x.ReadsTakenIn) (g : α → β) :
    (g <$> x).ReadsTakenIn := (readsTakenIn_pure g).seq h

theorem lookup_takenIn (name : String) (e : Entries) :
    e.takenIn.values.lookup name = (e.values.lookup name).map fun v => (v.1, v.2.takenIn) := by
  unfold Entries.takenIn
  dsimp only
  induction e.values with
  | nil => rfl
  | cons v vs ih =>
    rw [List.map_cons, List.lookup_cons, List.lookup_cons]
    cases name == v.1 with
    | true => rfl
    | false => exact ih

/-- A member is looked up by its name, and what its absence means does not depend on the others. -/
theorem readsTakenIn_readOr {m : Members σ α} {name : String} {absent : Entries → Placed α}
    (hm : m.read = readOr name c absent) (hc : c.ReadsTakenIn)
    (habsent : ∀ e : Entries, absent e.takenIn = absent e) : m.ReadsTakenIn := by
  intro e a h
  rw [hm] at h ⊢
  unfold readOr at h ⊢
  rw [lookup_takenIn]
  cases hfound : e.values.lookup name with
  | none =>
    rw [hfound] at h
    exact (habsent e).trans h
  | some v =>
    rw [hfound] at h
    change place v.1 (c.decode v.2) = .ok a at h
    change place v.1 (c.decode v.2.takenIn) = .ok a
    cases hvalue : c.decode v.2 with
    | error p =>
      rw [hvalue] at h
      cases h
    | ok b =>
      rw [hvalue] at h
      rw [hc v.2 b hvalue]
      exact h

theorem missing_takenIn (e : Entries) : (missing e.takenIn : Placed α) = missing e := rfl

variable {name : String}

theorem readsTakenIn_required {get : σ → α} (hc : c.ReadsTakenIn) :
    (required name c get).ReadsTakenIn := readsTakenIn_readOr rfl hc missing_takenIn

theorem readsTakenIn_withDefault {absent : α} {get : σ → α} (hc : c.ReadsTakenIn) :
    (withDefault name c absent get).ReadsTakenIn := readsTakenIn_readOr rfl hc fun _ => rfl

theorem readsTakenIn_nullable {get : σ → Option α} (hc : c.ReadsTakenIn) :
    (nullable name c get).ReadsTakenIn := readsTakenIn_readOr rfl hc.option fun _ => rfl

theorem readsTakenIn_optional {get : σ → Option α} (hc : c.ReadsTakenIn) :
    (optional name c get).ReadsTakenIn := readsTakenIn_readOr rfl hc.option fun _ => rfl

/-! ## Structures -/

theorem fieldProblem_fieldsTakenIn (names seen : List String) (n : Nat)
    (fs : List (Option String × Draft)) :
    fieldProblem names seen n (fieldsTakenIn fs) = fieldProblem names seen n fs := by
  induction fs generalizing seen n with
  | nil => rfl
  | cons f fs ih =>
    obtain ⟨k, d⟩ := f
    rw [fieldsTakenIn]
    cases k with
    | none => rfl
    | some k =>
      rw [fieldProblem, fieldProblem, skipFlaw_takenIn, ih, ih]

theorem entriesOf_fieldsTakenIn (n : Nat) (fs : List (Option String × Draft)) :
    entriesOf n (fieldsTakenIn fs) =
      (entriesOf n fs).map fun v => (v.1, v.2.1, v.2.2.takenIn) := by
  induction fs generalizing n with
  | nil => rfl
  | cons f fs ih =>
    obtain ⟨k, d⟩ := f
    rw [fieldsTakenIn]
    cases k with
    | none => exact ih (n + 1)
    | some k => rw [entriesOf, entriesOf, List.map_cons, ih]

variable {m : Members σ α}

/-- A structure is read if nothing about it as a whole is a problem and its members are read. -/
theorem mapError_ap_eq_ok {whole : Placed Unit} {value : Placed α} {a : α} :
    (Placed.ap (Placed.ap (.ok fun _ a => a) whole) value).mapError (·.2) = .ok a ↔
      whole = .ok () ∧ value = .ok a := by
  cases whole <;> cases value <;> simp [Placed.ap, Except.mapError]

theorem decodeFields_eq_ok {fs : List (Option String × Draft)} {stop : Option Break} {a : α} :
    m.decodeFields fs stop = .ok a ↔ fieldProblem m.names [] 0 fs = none ∧ stop = none ∧
      m.read ⟨true, entriesOf 0 fs, fs.length⟩ = .ok a := by
  unfold decodeFields
  rw [mapError_ap_eq_ok, ← and_assoc]
  refine and_congr_left' ?_
  cases fieldProblem m.names [] 0 fs <;> cases stop <;> simp

theorem decodeItems_eq_ok {ds : List Draft} {stop : Option Break} {a : α} :
    m.decodeItems ds stop = .ok a ↔ ds.length ≤ m.names.length ∧ stop = none ∧
      m.read ⟨false, entriesOf 0 ((m.names.map some).zip ds), ds.length⟩ = .ok a := by
  unfold decodeItems
  rw [mapError_ap_eq_ok, ← and_assoc]
  refine and_congr_left' ?_
  by_cases hlength : ds.length > m.names.length
  · simp [hlength, Nat.not_le.2 hlength]
  · cases stop <;> simp [hlength, Nat.not_lt.1 hlength]

/-- **What members read from fields they read from them taken in.** -/
theorem ReadsTakenIn.decodeFields (h : m.ReadsTakenIn) {fs : List (Option String × Draft)}
    {stop : Option Break} {a : α} (hd : m.decodeFields fs stop = .ok a) :
    m.decodeFields (fieldsTakenIn fs) stop = .ok a := by
  obtain ⟨hproblem, hstop, hread⟩ := decodeFields_eq_ok.1 hd
  refine decodeFields_eq_ok.2 ⟨(fieldProblem_fieldsTakenIn ..).trans hproblem, hstop, ?_⟩
  have hentries := h _ a hread
  unfold Entries.takenIn at hentries
  rwa [entriesOf_fieldsTakenIn, fieldsTakenIn_eq, List.length_map]

theorem ReadsTakenIn.decodeItems (h : m.ReadsTakenIn) {ds : List Draft}
    {stop : Option Break} {a : α} (hd : m.decodeItems ds stop = .ok a) :
    m.decodeItems (itemsTakenIn ds) stop = .ok a := by
  obtain ⟨hlength, hstop, hread⟩ := decodeItems_eq_ok.1 hd
  have hzip : (m.names.map some).zip (itemsTakenIn ds) =
      fieldsTakenIn ((m.names.map some).zip ds) := by
    rw [itemsTakenIn_eq, fieldsTakenIn_eq, List.zip_map_right]
    rfl
  have hsize : (itemsTakenIn ds).length = ds.length := by rw [itemsTakenIn_eq, List.length_map]
  refine decodeItems_eq_ok.2 ⟨hsize ▸ hlength, hstop, ?_⟩
  have hentries := h _ a hread
  unfold Entries.takenIn at hentries
  rwa [hzip, entriesOf_fieldsTakenIn, hsize]

/-- **A structure is read from a text that has been taken in** if its members are. -/
theorem ReadsTakenIn.codec {m : Members α α} (h : m.ReadsTakenIn) : m.codec.ReadsTakenIn := by
  intro d a hd
  cases d with
  | null | bool | num | str | unreadable | broken | buried | hollow => exact hd
  | arr items stop =>
    rw [Draft.takenIn]
    exact h.decodeItems hd
  | obj fields stop =>
    by_cases hempty : fields = [] ∧ stop = none
    · obtain ⟨rfl, rfl⟩ := hempty
      exact hd
    · rw [takenIn_obj (not_and_or.1 hempty)]
      exact h.decodeFields hd

end Members

end ShelterLine.Json
