import ShelterLine.Proofs.Blank
import ShelterLine.Proofs.BlockedWrites

/-!
# The block list is a set of canonical numbers

A number goes through its canonical form whenever it is blocked, unblocked or looked up, and the
form depends on little: on the digits, and of ten digits on whether a plus sign comes first. So
spellings do not matter. What is on the list is what the last call about a number made of it, or
what the configuration says where there was no such call.
-/

namespace ShelterLine

namespace Phone

variable {raw raw' : String}

/-! ## What the canonical form depends on -/

/-- The ASCII digits of a text. -/
def digits (raw : String) : List Char := raw.toList.filter Char.isDigit

/-- A plus sign comes first, apart from blanks. -/
def StartsWithPlus (raw : String) : Prop := (Text.trim raw.toList).head? = some '+'

instance (raw : String) : Decidable (StartsWithPlus raw) := inferInstanceAs (Decidable (_ = _))

/-- No digit is trimmed away. -/
theorem filter_isDigit_trim (cs : List Char) :
    (Text.trim cs).filter Char.isDigit = cs.filter Char.isDigit := by
  have hblanks : ∀ {bs : List Char}, (∀ b ∈ bs, Text.isBlank b) → bs.filter Char.isDigit = [] := by
    intro bs hbs
    refine List.filter_eq_nil_iff.2 fun b hb hdigit => ?_
    exact Bool.false_ne_true ((Text.isBlank_of_isDigit hdigit).symm.trans (hbs b hb))
  obtain ⟨bs, bs', hcs, hbs, hbs'⟩ := Text.exists_trim cs
  have hfilter := congrArg (List.filter Char.isDigit) hcs
  rw [List.filter_append, List.filter_append, hblanks hbs, hblanks hbs', List.append_nil,
    List.nil_append] at hfilter
  exact hfilter.symm

/-- The canonical form in terms of the digits and the sign. -/
theorem canonical?_eq (raw : String) : canonical? raw =
    if digits raw = [] then none
    else if ¬ StartsWithPlus raw ∧ (digits raw).length = 10 then
      some (String.ofList ('+' :: '1' :: digits raw))
    else some (String.ofList ('+' :: digits raw)) := by
  have hdigits : (Text.trim raw.toList).filter Char.isDigit = digits raw := filter_isDigit_trim _
  unfold canonical? canonicalChars?
  dsimp only
  rw [hdigits]
  by_cases hnone : digits raw = []
  · rw [if_pos hnone, if_pos hnone]
    rfl
  · rw [if_neg hnone, if_neg hnone]
    by_cases hplus : StartsWithPlus raw
    · have hsign : (Text.trim raw.toList).head? = some '+' := hplus
      rw [if_pos hsign, if_neg fun h => h.1 hplus]
      rfl
    · have hsign : (Text.trim raw.toList).head? ≠ some '+' := hplus
      by_cases hten : (digits raw).length = 10
      · rw [if_neg hsign, if_pos hten, if_pos ⟨hplus, hten⟩]
        rfl
      · rw [if_neg hsign, if_neg hten, if_neg fun h => hten h.2]
        rfl

theorem canonical?_eq_none_iff : canonical? raw = none ↔ digits raw = [] := by
  rw [canonical?_eq]
  by_cases hnone : digits raw = []
  · rw [if_pos hnone]
    exact iff_of_true rfl hnone
  · rw [if_neg hnone]
    refine iff_of_false ?_ hnone
    split <;> exact Option.some_ne_none _

/-- **Texts with the same digits are spellings of one number**, unless there are ten digits and only
one of the texts starts with a plus sign. -/
theorem canonical?_eq_iff_of_digits_eq (h : digits raw = digits raw') :
    canonical? raw = canonical? raw' ↔
      ¬ ((digits raw).length = 10 ∧ ¬ (StartsWithPlus raw ↔ StartsWithPlus raw')) := by
  rw [canonical?_eq, canonical?_eq, ← h]
  by_cases hten : (digits raw).length = 10
  · have hsome : digits raw ≠ [] := by
      intro hnil
      rw [hnil] at hten
      exact absurd hten (by decide)
    -- the country code makes one of the forms longer
    have hlonger : String.ofList ('+' :: '1' :: digits raw) ≠
        String.ofList ('+' :: digits raw) := by
      intro hsame
      have hlength := congrArg List.length (String.ofList_injective hsame)
      simp at hlength
    rw [if_neg hsome, if_neg hsome]
    by_cases hplus : StartsWithPlus raw
    · by_cases hplus' : StartsWithPlus raw'
      · simp [hplus, hplus']
      · rw [if_neg fun h => h.1 hplus, if_pos ⟨hplus', hten⟩]
        exact iff_of_false (fun hsame => hlonger (Option.some.inj hsame).symm)
          fun hsigns => hsigns ⟨hten, fun hiff => hplus' (hiff.1 hplus)⟩
    · by_cases hplus' : StartsWithPlus raw'
      · rw [if_pos ⟨hplus, hten⟩, if_neg fun h => h.1 hplus']
        exact iff_of_false (fun hsame => hlonger (Option.some.inj hsame))
          fun hsigns => hsigns ⟨hten, fun hiff => hplus (hiff.2 hplus')⟩
      · simp [hplus, hplus']
  · simp [hten]

/-- What is canonical looks like it. -/
theorem isCanonical_of_canonical? (h : canonical? raw = some raw) : IsCanonical raw.toList := by
  obtain ⟨cs, hcs, hraw⟩ := Option.map_eq_some_iff.1 h
  have hform := isCanonical_of_canonicalChars? hcs
  rw [← hraw, String.toList_ofList]
  exact hform

end Phone

namespace BlockList

variable {b : BlockList} {n : String}

/-! ## Calls -/

/-- A call that changes the list, with the number in some spelling. -/
inductive Call where
  | add (raw : String)
  | remove (raw : String)

/-- The number as it is spelled. -/
def Call.raw : Call → String
  | add raw | remove raw => raw

/-- Whether the number is added. -/
def Call.isAdd : Call → Bool
  | add _ => true
  | remove _ => false

/-- Makes a call. -/
def call (b : BlockList) : Call → BlockChange × BlockList
  | .add raw => b.add raw
  | .remove raw => b.remove raw

/-- Makes calls, one after the other. -/
def callAll (b : BlockList) (calls : List Call) : BlockList :=
  calls.foldl (fun b c => (b.call c).2) b

/-- The last call about a number. -/
def lastCall? (n : String) (calls : List Call) : Option Call :=
  (calls.filter (Phone.canonical? ·.raw = some n)).getLast?

theorem Sorted.call (h : b.Sorted) (c : Call) : (b.call c).2.Sorted := by
  cases c with
  | add raw => exact h.add raw
  | remove raw => exact h.remove raw

theorem Canonical.call (h : b.Canonical) (c : Call) : (b.call c).2.Canonical := by
  cases c with
  | add raw => exact h.add raw
  | remove raw => exact h.remove raw

theorem Sorted.callAll (h : b.Sorted) (calls : List Call) : (b.callAll calls).Sorted :=
  List.foldlRecOn calls _ h fun _ hb c _ => hb.call c

theorem Canonical.callAll (h : b.Canonical) (calls : List Call) : (b.callAll calls).Canonical :=
  List.foldlRecOn calls _ h fun _ hb c _ => hb.call c

/-- A call decides about its own number and leaves all others alone. -/
theorem contains_call (b : BlockList) (c : Call) (n : String) : (b.call c).2.contains n =
    if Phone.canonical? c.raw = some n then c.isAdd else b.contains n := by
  cases c with
  | add raw =>
    change (b.add raw).2.contains n = if Phone.canonical? raw = some n then true else _
    rw [contains_add]
    by_cases hraw : Phone.canonical? raw = some n
    · simp [hraw]
    · simp [hraw]
  | remove raw =>
    change (b.remove raw).2.contains n = if Phone.canonical? raw = some n then false else _
    rw [contains_remove]
    by_cases hraw : Phone.canonical? raw = some n
    · simp [hraw]
    · simp [hraw]

/-- **The last call about a number decides whether it is on the list.** -/
theorem contains_callAll (b : BlockList) (calls : List Call) (n : String) :
    (b.callAll calls).contains n = ((lastCall? n calls).map Call.isAdd).getD (b.contains n) := by
  -- the calls before the last one decide where that one is about another number
  induction calls using List.reverseRecOn with
  | nil => rfl
  | append_singleton calls c ih =>
    have hlast : (b.callAll (calls ++ [c])).contains n =
        (((b.callAll calls).call c).2).contains n := by
      unfold callAll
      rw [List.foldl_append]
      rfl
    rw [hlast, contains_call, ih]
    unfold lastCall?
    rw [List.filter_append, List.filter_singleton]
    by_cases hc : Phone.canonical? c.raw = some n
    · simp [hc]
    · simp [hc]

/-- Without a number a call does nothing. -/
theorem call_of_canonical?_eq_none (b : BlockList) {c : Call} (h : Phone.canonical? c.raw = none) :
    b.call c = (⟨false, none⟩, b) := by
  cases c with
  | add raw =>
    change Phone.canonical? raw = none at h
    change b.add raw = _
    unfold add
    rw [h]
  | remove raw =>
    change Phone.canonical? raw = none at h
    change b.remove raw = _
    unfold remove
    rw [h]

theorem changed_of_canonical? (b : BlockList) {c : Call} (h : Phone.canonical? c.raw = some n) :
    (b.call c).1.changed = (c.isAdd != b.contains n) := by
  cases c with
  | add raw =>
    change Phone.canonical? raw = some n at h
    change (b.add raw).1.changed = (true != b.contains n)
    unfold add
    rw [h, Bool.true_bne]
  | remove raw =>
    change Phone.canonical? raw = some n at h
    change (b.remove raw).1.changed = (false != b.contains n)
    unfold remove
    rw [h, Bool.false_bne]

/-- A call changes something just if its number comes onto the list or goes off it. -/
theorem changed_call (b : BlockList) (c : Call) : (b.call c).1.changed = true ↔
    ∃ n, Phone.canonical? c.raw = some n ∧ (b.call c).2.contains n ≠ b.contains n := by
  cases h : Phone.canonical? c.raw with
  | none =>
    rw [b.call_of_canonical?_eq_none h]
    simp
  | some n =>
    rw [b.changed_of_canonical? h, bne_iff_ne]
    have hafter : (b.call c).2.contains n = c.isAdd := by rw [contains_call, if_pos h]
    constructor
    · intro hflip
      exact ⟨n, rfl, hafter ▸ hflip⟩
    · intro hflips
      obtain ⟨m, hm, hflip⟩ := hflips
      obtain rfl := Option.some.inj hm
      exact hafter ▸ hflip

/-! ## The list after a history -/

/-- What a list is after calls on a configured one. -/
structure Follows (configured : List String) (calls : List Call) (b : BlockList) : Prop where
  /-- The numbers are listed once each, in order. -/
  sorted : b.Sorted
  canonical : ∀ n ∈ b.numbers, Phone.canonical? n = some n ∧ Phone.IsCanonical n.toList
  blocks_iff : ∀ raw, b.blocks raw = true ↔ ∃ n, Phone.canonical? raw = some n ∧
    ((∃ c, lastCall? n calls = some c ∧ c.isAdd) ∨
      lastCall? n calls = none ∧ ∃ entry ∈ configured, Phone.canonical? entry = some n)
  changed_iff : ∀ c : Call, (b.call c).1.changed = true ↔
    ∃ n, Phone.canonical? c.raw = some n ∧ (b.call c).2.contains n ≠ b.contains n
  digitless : ∀ c : Call, Phone.digits c.raw = [] →
    b.blocks c.raw = false ∧ b.call c = (⟨false, none⟩, b)

theorem follows_callAll (configured : List String) (calls : List Call) :
    Follows configured calls ((ofRaw configured).callAll calls) where
  sorted := (sorted_ofRaw configured).callAll calls
  canonical n hn := by
    have hcanonical := (canonical_ofRaw configured).callAll calls n hn
    exact ⟨hcanonical, Phone.isCanonical_of_canonical? hcanonical⟩
  blocks_iff raw := by
    rw [blocks_eq_true_iff]
    refine exists_congr fun n => and_congr_right fun _ => ?_
    rw [← contains_eq_true_iff, contains_callAll, ← mem_ofRaw, ← contains_eq_true_iff]
    cases lastCall? n calls with
    | none => simp
    | some c => simp
  changed_iff c := changed_call _ c
  digitless c h := by
    have hnone := Phone.canonical?_eq_none_iff.2 h
    refine ⟨?_, call_of_canonical?_eq_none _ hnone⟩
    unfold blocks
    rw [hnone]

/-- **The block list is a set of canonical numbers, whatever the spelling.** After any calls on
a configured list a text is blocked if it has a canonical form and the last call about that form
was an addition, or there was none and the form was configured. The form is its own form, and it
is the same for texts with the same digits, unless there are ten and only one of the texts
starts with a plus sign. -/
theorem last_call_decides (c : SafetyConfig) (calls : List Call) :
    Follows c.blockedNumbers calls ((Gate.ofConfig c).blocked.callAll calls) ∧
    (∀ raw, (Phone.canonical? raw).bind Phone.canonical? = Phone.canonical? raw) ∧
    ∀ raw raw', Phone.digits raw = Phone.digits raw' →
      (Phone.canonical? raw = Phone.canonical? raw' ↔ ¬ ((Phone.digits raw).length = 10 ∧
        ¬ (Phone.StartsWithPlus raw ↔ Phone.StartsWithPlus raw'))) := by
  refine ⟨follows_callAll c.blockedNumbers calls, fun raw => ?_,
    fun _ _ => Phone.canonical?_eq_iff_of_digits_eq⟩
  cases hraw : Phone.canonical? raw with
  | none => rfl
  | some n => exact Phone.canonical?_of_canonical? hraw

/-- Ten digits mean another number with a plus sign than without. -/
example : ((ofRaw ["415-555-0000"]).callAll [.remove "+4155550000"]).blocks "(415) 555-0000" =
      true ∧
    ((ofRaw ["415-555-0000"]).callAll [.remove "+1 415 555 0000"]).blocks "(415) 555-0000" =
      false := by
  decide

end BlockList

end ShelterLine
