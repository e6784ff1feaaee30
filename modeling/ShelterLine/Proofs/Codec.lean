import ShelterLine.Json.Codec
import ShelterLine.Proofs.Identifier
import ShelterLine.Proofs.JsonText
import ShelterLine.Proofs.Timestamp

/-!
# Codecs read back what they write

A codec *keeps* a value if it writes it as plain JSON and reads that as the value again. What is
said of a codec goes over to options, lists and structures. The members of a structure are found by
their names, so a structure is kept when each member is and no name is given twice.
-/

namespace ShelterLine.Json

/-- A codec writes a value as plain JSON, nested at most so deep, and reads it back. -/
structure Codec.Keeps {α : Type} (c : Codec α) (depth : Nat) (a : α) : Prop where
  plain : Plain depth (c.encode a)
  decode : c.decode (toDraft (c.encode a)) = .ok a

namespace Codec

variable {α : Type} {c : Codec α} {depth : Nat} {a : α}

/-- **What a codec keeps is read from its text.** -/
theorem Keeps.read_print (h : c.Keeps depth a) (hdepth : depth ≤ maxDepth) :
    c.read (c.print a) = .ok a := by
  unfold read print
  rw [draft_compress (h.plain.mono hdepth)]
  dsimp only
  rw [h.decode]
  rfl

/-! ## Simple values -/

theorem keeps_string (s : String) : string.Keeps depth s := ⟨.str s, rfl⟩

theorem keeps_bool (b : Bool) : bool.Keeps depth b := ⟨.bool b, rfl⟩

/-- A number is read if it is one that the type takes. -/
theorem keeps_whole {toInt : α → Int} {ofInt? : Int → Option α}
    (low : Int64.minValue.toInt ≤ toInt a) (high : toInt a < UInt64.size)
    (hread : ofInt? (toInt a) = some a) : (whole toInt ofInt?).Keeps depth a where
  plain := .int low high
  decode := by
    unfold whole
    dsimp only [Json.int, toDraft]
    rw [hread]

theorem keeps_int64 (n : Int64) : int64.Keeps depth n := by
  have hlow : Int64.minValue.toInt ≤ n.toInt := Int64.minValue_le_toInt n
  have hhigh : n.toInt ≤ Int64.maxValue.toInt := Int64.toInt_le n
  refine keeps_whole hlow ?_ ?_
  · have hsize : Int64.maxValue.toInt < UInt64.size := by decide
    omega
  · rw [if_pos ⟨hlow, hhigh⟩, Int64.ofInt_toInt]

theorem keeps_uint32 (n : UInt32) : uint32.Keeps depth n := by
  have hhigh : n.toNat < UInt32.size := n.toNat_lt
  refine keeps_whole ?_ ?_ ?_
  · have hmin : Int64.minValue.toInt ≤ 0 := by decide
    omega
  · have hsize : UInt32.size < UInt64.size := by decide
    omega
  · rw [if_pos (by omega), Int.toNat_natCast, UInt32.ofNat_toNat]

theorem keeps_text {write : α → String} {read? : String → Option α}
    (hread : read? (write a) = some a) : (text write read?).Keeps depth a where
  plain := .str (write a)
  decode := by
    have hstring : string.decode (toDraft (.str (write a))) = .ok (write a) := rfl
    unfold text
    dsimp only
    rw [hstring]
    dsimp only [bind, Except.bind]
    rw [hread]

theorem keeps_uuid (u : Uuid) : uuid.Keeps depth u := keeps_text (Uuid.ofString?_toString u)

theorem keeps_instant {t : Instant} (h : t.FourDigitYear) : instant.Keeps depth t :=
  keeps_text (Instant.ofString?_toString h)

theorem keeps_name {n : Naming α} (h : n.Faithful) (a : α) : (name n).Keeps depth a where
  plain := .str (n.name a)
  decode := by
    change name.known n (n.name a) = .ok a
    unfold name.known
    rw [h a]

/-! ## Options and lists -/

theorem keeps_none : c.option.Keeps depth none := ⟨.null, rfl⟩

/-- What is not written as null is not read as absence. -/
theorem keeps_some (h : c.Keeps depth a) (hnull : c.encode a ≠ .null) :
    c.option.Keeps depth (some a) where
  plain := h.plain
  decode := by
    have hdecode := h.decode
    change c.option.decode (toDraft (c.encode a)) = .ok (some a)
    cases hv : c.encode a with
    | null => exact absurd hv hnull
    | bool | num | str | arr | obj =>
      rw [hv] at hdecode
      exact congrArg (Except.map some) hdecode

theorem keeps_option (h : ∀ a, c.Keeps depth a) (hnull : ∀ a, c.encode a ≠ .null) (o : Option α) :
    c.option.Keeps depth o := by
  cases o with
  | none => exact keeps_none
  | some a => exact keeps_some (h a) (hnull a)

theorem decodeItems_itemsToDraft {as : List α} (h : ∀ a ∈ as, c.Keeps depth a) :
    decodeItems c (itemsToDraft (as.map c.encode)) = .ok as := by
  induction as with
  | nil => rfl
  | cons a as ih =>
    rw [List.map_cons, itemsToDraft, decodeItems, (h a List.mem_cons_self).decode,
      ih fun b hb => h b (List.mem_cons_of_mem a hb)]
    rfl

theorem keeps_list {as : List α} (h : ∀ a ∈ as, c.Keeps depth a) :
    (list c).Keeps (depth + 1) as where
  plain := .arr fun v hv => by
    obtain ⟨a, ha, rfl⟩ := List.mem_map.mp hv
    exact (h a ha).plain
  decode := by
    change (decodeItems c (itemsToDraft (as.map c.encode)) >>= fun as => Except.ok as) = .ok as
    rw [decodeItems_itemsToDraft h]
    rfl

end Codec

/-! ## Members -/

/-- Under these names the entries of a structure are the fields that were written. -/
def Entries.Hold (e : Entries) (names : List String) (fields : List (String × Json)) : Prop :=
  e.named ∧ ∀ k ∈ names, (e.values.lookup k).map (·.2) = (fields.lookup k).map toDraft

/-- From members that are written for `s` as plain JSON, under their own names and in
their order, `a` is read. -/
structure Members.Keeps {σ α : Type} (m : Members σ α) (depth : Nat) (s : σ) (a : α) : Prop where
  names : ((m.write s).map (·.1)).Sublist m.names
  plain : ∀ f ∈ m.write s, Plain depth f.2
  read : m.names.Nodup → ∀ e : Entries, e.Hold m.names (m.write s) → m.read e = .ok a

namespace Members

variable {σ α β : Type} {depth : Nat} {s : σ}

/-- A name that is not among the members' is not written. -/
theorem Keeps.lookup_none {m : Members σ α} {a : α} (h : m.Keeps depth s a) {k : String}
    (hk : k ∉ m.names) : (m.write s).lookup k = none := by
  rw [List.lookup_eq_none_iff]
  intro f hf
  have hmem : f.1 ∈ m.names := h.names.subset (List.mem_map_of_mem hf)
  rw [bne_iff_ne]
  rintro rfl
  exact hk hmem

theorem Keeps.seq {f : Members σ (α → β)} {x : Members σ α} {g : α → β} {a : α}
    (hf : f.Keeps depth s g) (hx : x.Keeps depth s a) : (f <*> x).Keeps depth s (g a) where
  names := by
    change ((f.write s ++ x.write s).map (·.1)).Sublist (f.names ++ x.names)
    rw [List.map_append]
    exact hf.names.append hx.names
  plain v hv := (List.mem_append.mp hv).elim (hf.plain v) (hx.plain v)
  read hnodup e he := by
    obtain ⟨hfs, hxs, hdisjoint⟩ :=
      List.nodup_append.mp (show (f.names ++ x.names).Nodup from hnodup)
    obtain ⟨hnamed, hheld⟩ := he
    have hfields : ∀ k ∈ f.names ++ x.names, (e.values.lookup k).map (·.2) =
        ((f.write s ++ x.write s).lookup k).map toDraft := hheld
    -- a name of one side is not written by the other
    have hleft : e.Hold f.names (f.write s) := by
      refine ⟨hnamed, fun k hk => ?_⟩
      have hnone := hx.lookup_none fun hkx => hdisjoint k hk k hkx rfl
      rw [hfields k (List.mem_append_left _ hk), List.lookup_append, hnone, Option.or_none]
    have hright : e.Hold x.names (x.write s) := by
      refine ⟨hnamed, fun k hk => ?_⟩
      have hnone := hf.lookup_none fun hkf => hdisjoint k hkf k hk rfl
      rw [hfields k (List.mem_append_right _ hk), List.lookup_append, hnone, Option.none_or]
    change Placed.ap (f.read e) (x.read e) = .ok (g a)
    rw [hf.read hfs e hleft, hx.read hxs e hright]
    rfl

theorem keeps_pure (a : α) : (pure a : Members σ α).Keeps depth s a where
  names := List.Sublist.refl []
  plain _ hf := nomatch hf
  read _ _ _ := rfl

theorem Keeps.map {x : Members σ α} {a : α} (h : x.Keeps depth s a) (g : α → β) :
    (g <$> x).Keeps depth s (g a) := (keeps_pure g).seq h

/-- A member under its name is read by its codec. -/
theorem readOr_of_hold {name : String} {c : Codec α} {absent : Entries → Placed α} {a : α}
    {e : Entries} (h : c.Keeps depth a) (he : e.Hold [name] [(name, c.encode a)]) :
    readOr name c absent e = .ok a := by
  have hfound := he.2 name List.mem_cons_self
  rw [List.lookup_cons_self, Option.map_some] at hfound
  obtain ⟨⟨n, d⟩, hlookup, hd⟩ := Option.map_eq_some_iff.mp hfound
  unfold readOr
  rw [hlookup]
  dsimp only at hd ⊢
  rw [hd, h.decode]
  rfl

/-- A member that is always written is kept by its codec. -/
theorem keeps_always {name : String} {c : Codec α} {absent : Entries → Placed α} {get : σ → α}
    (h : c.Keeps depth (get s)) :
    Members.Keeps ⟨[name], fun s => [(name, c.encode (get s))], readOr name c absent⟩ depth s
      (get s) where
  names := List.Sublist.refl [name]
  plain f hf := by
    rw [List.mem_singleton.mp hf]
    exact h.plain
  read _ _ he := readOr_of_hold h he

theorem keeps_required {name : String} {c : Codec α} {get : σ → α} (h : c.Keeps depth (get s)) :
    (required name c get).Keeps depth s (get s) := keeps_always h

theorem keeps_withDefault {name : String} {c : Codec α} {absent : α} {get : σ → α}
    (h : c.Keeps depth (get s)) : (withDefault name c absent get).Keeps depth s (get s) :=
  keeps_always h

theorem keeps_nullable {name : String} {c : Codec α} {get : σ → Option α}
    (h : c.option.Keeps depth (get s)) : (nullable name c get).Keeps depth s (get s) :=
  keeps_always h

/-- What has no value is not written, and is not found. -/
theorem keeps_optional {name : String} {c : Codec α} {get : σ → Option α} (h : ∀ a, c.Keeps depth a)
    (hnull : ∀ a, c.encode a ≠ .null) : (optional name c get).Keeps depth s (get s) := by
  cases hget : get s with
  | none =>
    have hwrite : (optional name c get).write s = [] := by
      unfold optional
      dsimp only
      rw [hget]
    refine ⟨?_, ?_, fun _ e he => ?_⟩
    · rw [hwrite]
      exact List.nil_sublist _
    · rw [hwrite]
      exact fun f hf => nomatch hf
    · rw [hwrite] at he
      have hmissing : e.values.lookup name = none :=
        Option.map_eq_none_iff.mp (he.2 name List.mem_cons_self)
      change readOr name c.option (fun _ => .ok none) e = .ok none
      unfold readOr
      rw [hmissing]
  | some a =>
    have hwrite : (optional name c get).write s = [(name, c.encode a)] := by
      unfold optional
      dsimp only
      rw [hget]
    have hsome : c.option.Keeps depth (some a) := Codec.keeps_some (h a) (hnull a)
    refine ⟨?_, ?_, fun _ e he => ?_⟩
    · rw [hwrite]
      exact List.Sublist.refl [name]
    · rw [hwrite]
      intro f hf
      rw [List.mem_singleton.mp hf]
      exact (h a).plain
    · rw [hwrite] at he
      change readOr name c.option (fun _ => .ok none) e = .ok (some a)
      exact readOr_of_hold hsome he

/-! ## Structures -/

/-- Known names, none of them twice, are no problem. -/
theorem fieldProblem_fieldsToDraft {names seen : List String} {fields : List (String × Json)}
    (hknown : ∀ f ∈ fields, f.1 ∈ names) (hnew : ∀ f ∈ fields, f.1 ∉ seen)
    (hnodup : (fields.map (·.1)).Nodup) (n : Nat) :
    fieldProblem names seen n (fieldsToDraft fields) = none := by
  induction fields generalizing seen n with
  | nil => rfl
  | cons f fields ih =>
    obtain ⟨hfirst, hrest⟩ := List.nodup_cons.mp hnodup
    have hin : names.contains f.1 := List.contains_iff_mem.mpr (hknown f List.mem_cons_self)
    have hout : ¬ seen.contains f.1 := fun h =>
      hnew f List.mem_cons_self (List.contains_iff_mem.mp h)
    rw [fieldsToDraft, fieldProblem, if_pos hin, if_neg hout]
    refine ih (fun g hg => hknown g (List.mem_cons_of_mem f hg)) (fun g hg => ?_) hrest (n + 1)
    rw [List.mem_cons, not_or]
    exact ⟨fun heq => hfirst (List.mem_map.mpr ⟨g, hg, heq⟩), hnew g (List.mem_cons_of_mem f hg)⟩

theorem lookup_entriesOf (fields : List (String × Json)) (k : String) (n : Nat) :
    ((entriesOf n (fieldsToDraft fields)).lookup k).map (·.2) = (fields.lookup k).map toDraft := by
  induction fields generalizing n with
  | nil => rfl
  | cons f fields ih =>
    obtain ⟨name, v⟩ := f
    rw [fieldsToDraft, entriesOf, List.lookup_cons, List.lookup_cons]
    cases k == name with
    | true => rfl
    | false => exact ih (n + 1)

/-- Members that are kept are read from the fields that they write. -/
theorem Keeps.decodeFields {m : Members σ α} {a : α} (h : m.Keeps depth s a)
    (hnodup : m.names.Nodup) : m.decodeFields (fieldsToDraft (m.write s)) none = .ok a := by
  have hproblem : fieldProblem m.names [] 0 (fieldsToDraft (m.write s)) = none :=
    fieldProblem_fieldsToDraft (fun f hf => h.names.subset (List.mem_map_of_mem hf))
      (fun _ _ => List.not_mem_nil) (hnodup.sublist h.names) 0
  have hvalue := h.read hnodup
    ⟨true, entriesOf 0 (fieldsToDraft (m.write s)), (fieldsToDraft (m.write s)).length⟩
    ⟨rfl, fun k _ => lookup_entriesOf (m.write s) k 0⟩
  unfold Members.decodeFields
  dsimp only
  rw [hproblem, hvalue]
  rfl

/-- **A structure whose members are kept is kept.** -/
theorem Keeps.codec {m : Members α α} {a : α} (h : m.Keeps depth a a) (hnodup : m.names.Nodup) :
    m.codec.Keeps (depth + 1) a where
  plain := .obj h.plain
  decode := h.decodeFields hnodup

end Members

end ShelterLine.Json
