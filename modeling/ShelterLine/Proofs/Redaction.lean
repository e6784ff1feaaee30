import Mathlib.Data.List.Basic
import ShelterLine.Proofs.Identifying

/-!
# Nothing that identifies a person is left

The tokens stand in brackets, and nothing that identifies a person has a bracket in it. So whatever
fits a pattern after a replacement consists of characters that were kept side by side, and would
have been found before. A bare number could owe its edges to a token beside it, but then the stretch
that the token stands for had an edge there too. Nor can a token be taken apart later on, so what is
shown is the text with stretches of it hidden, each of which identifies a person.
-/

namespace ShelterLine.Redaction

open Text

variable {before : Option Char} {cs m pre post word : List Char} {ps : List Piece} {k : Kind}

/-! ## Characters kept side by side -/

/-- A token: a word in brackets. -/
def bracketed (word : List Char) : List Char := '[' :: (word ++ [']'])

/-- What is free of brackets in front of a text was kept. -/
theorem exists_kept_front (h : writtenOf (bracketed word) ps = m ++ post) (hopen : '[' ∉ m) :
    ∃ qs, ps = m.map .kept ++ qs ∧ writtenOf (bracketed word) qs = post := by
  induction m generalizing ps with
  | nil => exact ⟨ps, rfl, h⟩
  | cons c m ih =>
    obtain ⟨hc, hm⟩ := not_or.1 (mt List.mem_cons.2 hopen)
    cases ps with
    | nil => cases h
    | cons p ps =>
      cases p with
      | kept d =>
        obtain ⟨rfl, hrest⟩ := List.cons.inj h
        obtain ⟨qs, rfl, hqs⟩ := ih hrest hm
        exact ⟨qs, rfl, hqs⟩
      | found s => exact absurd (List.cons.inj h).1 hc

/-- A stretch without some character lies before that character or after it. -/
theorem before_or_after {b : Char} {xs ys : List Char} (h : xs ++ b :: ys = pre ++ (m ++ post))
    (hb : b ∉ m) : (∃ post', xs = pre ++ (m ++ post')) ∨
      ∃ pre', pre = xs ++ b :: pre' ∧ ys = pre' ++ (m ++ post) := by
  rcases List.append_eq_append_iff.1 h with ⟨gap, rfl, hgap⟩ | ⟨inner, rfl, hinner⟩
  · cases gap with
    | nil =>
      cases m with
      | nil => exact Or.inl ⟨[], by simp⟩
      | cons c m => exact absurd (by rw [(List.cons.inj hgap).1]; exact List.mem_cons_self) hb
    | cons d gap =>
      obtain ⟨rfl, hrest⟩ := List.cons.inj hgap
      exact Or.inr ⟨gap, rfl, hrest⟩
  · rcases List.append_eq_append_iff.1 hinner with ⟨post', rfl, -⟩ | ⟨beyond, rfl, hbeyond⟩
    · exact Or.inl ⟨post', rfl⟩
    · cases beyond with
      | nil => exact Or.inl ⟨[], by simp⟩
      | cons d beyond => exact absurd (by rw [(List.cons.inj hbeyond).1]; simp) hb

/-- A stretch without brackets lies within the word of a token or after the token. -/
theorem infix_word_or_after {rest : List Char} (h : bracketed word ++ rest = pre ++ (m ++ post))
    (hm : m ≠ []) (hopen : '[' ∉ m) (hclose : ']' ∉ m) :
    m <:+: word ∨ ∃ pre', pre = bracketed word ++ pre' ∧ rest = pre' ++ (m ++ post) := by
  have htoken : [] ++ '[' :: (word ++ ']' :: rest) = pre ++ (m ++ post) := by
    rw [← h]
    simp [bracketed]
  rcases before_or_after htoken hopen with ⟨post', hnil⟩ | ⟨pre', rfl, hrest⟩
  · simp [hm] at hnil
  · rcases before_or_after hrest hclose with ⟨post', hword⟩ | ⟨pre'', rfl, hafter⟩
    · exact Or.inl ⟨pre', post', by rw [hword, List.append_assoc]⟩
    · exact Or.inr ⟨pre'', by simp [bracketed], hafter⟩

/-- **What is free of brackets was kept, character by character, or lies within the
word of a token.** -/
theorem exists_kept (h : writtenOf (bracketed word) ps = pre ++ (m ++ post)) (hm : m ≠ [])
    (hopen : '[' ∉ m) (hclose : ']' ∉ m) :
    m <:+: word ∨ ∃ qs rs, ps = qs ++ (m.map .kept ++ rs) ∧ writtenOf (bracketed word) qs = pre ∧
      writtenOf (bracketed word) rs = post := by
  induction ps generalizing pre with
  | nil => simp [hm] at h
  | cons p ps ih =>
    cases p with
    | kept c =>
      cases pre with
      | nil =>
        rw [List.nil_append] at h
        obtain ⟨rs, hps, hrs⟩ := exists_kept_front h hopen
        exact Or.inr ⟨[], rs, hps, rfl, hrs⟩
      | cons d pre =>
        obtain ⟨rfl, hrest⟩ := List.cons.inj h
        rcases ih hrest with hword | ⟨qs, rs, rfl, rfl, hrs⟩
        · exact Or.inl hword
        · exact Or.inr ⟨.kept c :: qs, rs, rfl, rfl, hrs⟩
    | found s =>
      rcases infix_word_or_after h hm hopen hclose with hword | ⟨pre', rfl, hrest⟩
      · exact Or.inl hword
      · rcases ih hrest with hword | ⟨qs, rs, rfl, rfl, hrs⟩
        · exact Or.inl hword
        · exact Or.inr ⟨.found s :: qs, rs, rfl, rfl, hrs⟩

/-! ## What the tokens are not -/

/-- Free of brackets, and with an `@` or a digit somewhere. -/
structure Marked (m : List Char) : Prop where
  no_open : '[' ∉ m
  no_close : ']' ∉ m
  mark : ∃ c ∈ m, c = '@' ∨ isDigit c

theorem Marked.ne_nil (h : Marked m) : m ≠ [] := by
  obtain ⟨c, hc, -⟩ := h.mark
  exact List.ne_nil_of_mem hc

theorem marked_of_class {p : Char → Bool} (h : ∀ c ∈ m, p c) (hopen : p '[' = false)
    (hclose : p ']' = false) (hmark : ∃ c ∈ m, c = '@' ∨ isDigit c) : Marked m where
  no_open hmem := Bool.false_ne_true (hopen.symm.trans (h _ hmem))
  no_close hmem := Bool.false_ne_true (hclose.symm.trans (h _ hmem))
  mark := hmark

theorem IsEmail.marked (h : IsEmail m) : Marked m := by
  obtain ⟨mailbox, domain, label, rfl, -, -, -, hmailbox, hdomain, hlabel⟩ := h
  refine marked_of_class (p := fun c => isMailboxChar c || isDomainChar c || c == '@')
    (fun c hc => ?_) (by decide) (by decide) ⟨'@', by simp, Or.inl rfl⟩
  simp only [List.mem_append, List.mem_cons] at hc
  rcases hc with hc | rfl | hc | rfl | hc
  · simp [hmailbox c hc]
  · decide
  · simp [hdomain c hc]
  · decide
  · simp [isDomainChar, hlabel c hc]

theorem IsTelephone.marked (h : IsTelephone m) : Marked m := by
  obtain ⟨plus, first, body, last, rfl, hplus, hfirst, -, hbody, hlast⟩ := h
  refine marked_of_class (p := fun c => isDialChar c || c == '+') (fun c hc => ?_)
    (by decide) (by decide) ⟨first, by simp, Or.inr hfirst⟩
  simp only [List.mem_append, List.mem_cons, List.not_mem_nil, or_false] at hc
  rcases hc with hc | rfl | hc | rfl
  · rcases hplus with rfl | rfl
    · cases hc
    · obtain rfl := List.mem_singleton.1 hc
      decide
  · simp [isDialChar, hfirst]
  · simp [hbody c hc]
  · simp [isDialChar, hlast]

theorem marked_of_bareNumbers {after : Option Char} (h : bareNumbers before m after) :
    Marked m := by
  obtain ⟨hlong, hdigits, -, -⟩ := h
  obtain ⟨d, hd⟩ := List.exists_mem_of_length_pos (show 0 < m.length by omega)
  exact marked_of_class hdigits (by decide) (by decide) ⟨d, hd, Or.inr (hdigits d hd)⟩

theorem Kind.marked {after : Option Char} (h : k.pattern before m after) : Marked m := by
  cases k with
  | email => exact IsEmail.marked h
  | telephone => exact IsTelephone.marked h
  | number => exact marked_of_bareNumbers h

/-- No word of a token has anything in it that identifies a person. -/
theorem Kind.not_infix_word (k : Kind) (h : Marked m) : ¬ m <:+: k.word := by
  have hplain : (k.word.all fun c => !(c == '@') && !isDigit c) = true := by
    cases k <;> decide
  intro hwithin
  obtain ⟨c, hc, hmark⟩ := h.mark
  have hplain := List.all_eq_true.1 hplain c (hwithin.subset hc)
  rcases hmark with rfl | hdigit
  · simp at hplain
  · simp [hdigit] at hplain

/-! ## Nothing is left -/

section

variable {token : List Char} {d : Char} {qs rs : List Piece}

/-- A number that was kept begins where a word begins, even if a number before it is hidden now. -/
theorem edge_before (hcut : cut bareNumber none cs = qs ++ (.kept d :: rs))
    (h : wordEdge (writtenOf token qs).getLast? (some d)) :
    wordEdge ((charsOf qs).getLast?.or none) (some d) := by
  rcases List.eq_nil_or_concat qs with rfl | ⟨qs, q, rfl⟩
  · exact h
  · rw [List.concat_eq_append] at hcut h ⊢
    cases q with
    | kept e => simpa using h
    | found s =>
      rw [List.append_assoc] at hcut
      obtain ⟨⟨-, -, -, hedge⟩, hs⟩ := bareNumber_sound.found hcut
      have hlast : (charsOf (qs ++ [.found s])).getLast?.or none = s.getLast? := by
        rw [charsOf_append, charsOf_found, charsOf_nil, List.append_nil, Option.or_none,
          List.getLast?_append_of_ne_nil _ hs]
      rw [hlast]
      exact hedge

/-- A number that was kept ends where a word ends, even if a number after it is hidden now. -/
theorem edge_after (hcut : cut bareNumber none cs = qs ++ rs)
    (h : wordEdge ((charsOf qs).getLast?.or none) (writtenOf token rs).head?) :
    wordEdge ((charsOf qs).getLast?.or none) (charsOf rs).head? := by
  cases rs with
  | nil => exact h
  | cons r rs =>
    cases r with
    | kept e => exact h
    | found s =>
      obtain ⟨⟨-, -, hedge, -⟩, hs⟩ := bareNumber_sound.found hcut
      rw [charsOf_found, List.head?_append_of_ne_nil _ hs]
      exact hedge

end

/-- **After all stretches of a kind are replaced none is there.** -/
theorem Kind.not_standsIn_replace (k : Kind) (cs : List Char) :
    ¬ k.pattern.StandsIn (k.replace cs) := by
  rintro ⟨pre, m, post, hsplit, hfits⟩
  have hmarked := Kind.marked hfits
  unfold Kind.replace at hsplit
  rw [replaceAll_eq] at hsplit
  rcases exists_kept hsplit hmarked.ne_nil hmarked.no_open hmarked.no_close with
    hword | ⟨qs, rs, hcut, rfl, rfl⟩
  · exact k.not_infix_word hmarked hword
  refine k.complete.kept hmarked.ne_nil hcut ?_
  cases k with
  | email => exact hfits
  | telephone => exact hfits
  | number =>
    obtain ⟨hlong, hdigits, hstart, hend⟩ := hfits
    obtain ⟨d, ds, rfl⟩ := List.exists_cons_of_ne_nil hmarked.ne_nil
    refine ⟨hlong, hdigits, edge_before hcut hstart, ?_⟩
    have hlast : (charsOf (qs ++ (d :: ds).map .kept)).getLast?.or none = (d :: ds).getLast? := by
      rw [charsOf_append, charsOf_map_kept, Option.or_none,
        List.getLast?_append_of_ne_nil _ (List.cons_ne_nil d ds)]
    have hafter := @edge_after _ Kind.number.token (qs ++ (d :: ds).map .kept) rs
      (hcut.trans (List.append_assoc ..).symm)
    rw [hlast] at hafter
    exact hafter hend

/-- Replacing stretches of one kind brings about none of another, if that does not ask for
what is on either side. -/
theorem Kind.holds_of_holds_replace {Q : List Char → Prop} (k : Kind) (hQ : ∀ {m}, Q m → Marked m)
    (h : Holds Q (k.replace cs)) : Holds Q cs := by
  obtain ⟨m, hm, pre, post, hsplit⟩ := h
  have hmarked := hQ hm
  unfold Kind.replace at hsplit
  rw [replaceAll_eq, List.append_assoc] at hsplit
  rcases exists_kept hsplit.symm hmarked.ne_nil hmarked.no_open hmarked.no_close with
    hword | ⟨qs, rs, hcut, -, -⟩
  · exact absurd hword (k.not_infix_word hmarked)
  · refine ⟨m, hm, charsOf qs, charsOf rs, ?_⟩
    have hchars := congrArg charsOf hcut
    rw [charsOf_cut, charsOf_append, charsOf_append, charsOf_map_kept] at hchars
    rw [List.append_assoc]
    exact hchars.symm

theorem redactChars_eq (cs : List Char) :
    redactChars cs = Kind.number.replace (Kind.telephone.replace (Kind.email.replace cs)) := rfl

/-- **Nothing of any kind is left in a redacted text.** -/
theorem Kind.not_standsIn_redactChars (k : Kind) (cs : List Char) :
    ¬ k.pattern.StandsIn (redactChars cs) := by
  rw [redactChars_eq]
  have hemail := Kind.email.not_standsIn_replace cs
  have htelephone := Kind.telephone.not_standsIn_replace (Kind.email.replace cs)
  cases k with
  | email =>
    intro h
    refine hemail (standsIn_ofText.2 ?_)
    exact Kind.telephone.holds_of_holds_replace IsEmail.marked
      (Kind.number.holds_of_holds_replace IsEmail.marked (standsIn_ofText.1 h))
  | telephone =>
    intro h
    refine htelephone (standsIn_ofText.2 ?_)
    exact Kind.number.holds_of_holds_replace IsTelephone.marked (standsIn_ofText.1 h)
  | number => exact Kind.number.not_standsIn_replace _

/-- A text in which nothing of any kind stands is left as it is. -/
theorem redactChars_eq_self (h : ∀ k : Kind, ¬ k.pattern.StandsIn cs) : redactChars cs = cs := by
  have hself : ∀ k : Kind, k.replace cs = cs := fun k => replaceAll_eq_self k.sound (h k) k.token
  rw [redactChars_eq, hself, hself, hself]

/-! ## What is shown -/

/-- The second text is the first with stretches of it hidden, each behind the token of its kind. -/
inductive Hides : List Char → List Char → Prop where
  | nil : Hides [] []
  | plain (c : Char) {told shown : List Char} : Hides told shown → Hides (c :: told) (c :: shown)
  | hidden (k : Kind) {s : List Char} (before after : Option Char) {told shown : List Char} :
      k.pattern before s after → Hides told shown → Hides (s ++ told) (k.token ++ shown)

theorem Hides.refl (cs : List Char) : Hides cs cs := by
  induction cs with
  | nil => exact .nil
  | cons c cs ih => exact .plain c ih

/-- What is shown without a bracket is told as it is shown. -/
theorem Hides.exists_of_append {told rest : List Char} (h : Hides told (m ++ rest))
    (hopen : '[' ∉ m) :
    ∃ told', told = m ++ told' ∧ Hides told' rest := by
  induction m generalizing told with
  | nil => exact ⟨told, rfl, h⟩
  | cons c m ih =>
    obtain ⟨hc, hm⟩ := not_or.1 (mt List.mem_cons.2 hopen)
    generalize hshown : c :: m ++ rest = shown at h
    cases h with
    | nil => cases hshown
    | plain d h =>
      obtain ⟨rfl, rfl⟩ := List.cons.inj hshown
      obtain ⟨told', rfl, hrest⟩ := ih h hm
      exact ⟨told', rfl, hrest⟩
    | hidden k before after hfits h => exact absurd (List.cons.inj hshown).1 (Ne.symm hc)

/-- No stretch begins within a token. -/
theorem Kind.rule_of_token (k k' : Kind) {xs ys : List Char} {c : Char}
    (h : k'.token = xs ++ c :: ys) (before : Option Char) (rest : List Char) (n : Nat) :
    k.rule before (c :: (ys ++ rest)) ≠ some (n + 1) := by
  intro hn
  obtain ⟨m, post, hsplit, -, hfits⟩ := k.sound _ _ _ hn
  have hmarked := Kind.marked hfits
  have htext : bracketed k'.word ++ rest = xs ++ (m ++ post) := by
    rw [← hsplit, ← List.cons_append, ← List.append_assoc, ← h]
    rfl
  rcases infix_word_or_after htext hmarked.ne_nil hmarked.no_open hmarked.no_close with
    hword | ⟨pre, rfl, -⟩
  · exact k'.not_infix_word hmarked hword
  · have hlength := congrArg List.length h
    simp only [Kind.token, bracketed, List.length_append, List.length_cons] at hlength
    omega

/-- A token is kept as a whole. -/
theorem Kind.cut_token (k k' : Kind) (before : Option Char) (rest : List Char) :
    cut k.rule before (k'.token ++ rest) = k'.token.map .kept ++ cut k.rule (some ']') rest := by
  have hlast : k'.token.getLast?.or before = some ']' := by cases k' <;> rfl
  rw [cut_append_kept (fun xs c ys h before n => k.rule_of_token k' h before rest n), hlast]

/-- **Hiding one kind after others leaves a text with stretches of it hidden.** -/
theorem Hides.replace {told shown : List Char} (h : Hides told shown) (k : Kind)
    (before : Option Char) : Hides told (writtenOf k.token (cut k.rule before shown)) := by
  induction hn : shown.length using Nat.strongRecOn generalizing told shown before with
  | ind n ih =>
  subst hn
  cases h with
  | nil =>
    rw [cut]
    exact .nil
  | @plain c told shown h =>
    cases hcut : cut k.rule before (c :: shown) with
    | nil =>
      have hchars := charsOf_cut k.rule before (c :: shown)
      rw [hcut] at hchars
      cases hchars
    | cons p ps =>
      have hchars := charsOf_cut k.rule before (c :: shown)
      rw [hcut] at hchars
      cases p with
      | kept d =>
        obtain ⟨rfl, rfl⟩ := List.cons.inj hchars
        rw [(cut_kept hcut).2]
        exact .plain d (ih _ (Nat.lt_succ_self _) h _ rfl)
      | found s =>
        obtain ⟨hfits, hs⟩ := k.sound.found (hcut.trans (List.nil_append _).symm)
        rw [charsOf_found] at hchars
        have hshown : Hides (c :: told) (s ++ charsOf ps) := by
          rw [hchars]
          exact .plain c h
        obtain ⟨told', htold, hrest⟩ := hshown.exists_of_append (Kind.marked hfits).no_open
        have hshorter : (charsOf ps).length < (c :: shown).length := by
          rw [← hchars, List.length_append]
          have := List.length_pos_iff.2 hs
          omega
        rw [(cut_found hcut).2, htold]
        exact .hidden k _ _ hfits (ih _ hshorter hrest _ rfl)
  | @hidden k' s _ _ told shown hfits h =>
    rw [k.cut_token k' before shown, writtenOf_append, writtenOf_map_kept]
    refine .hidden k' _ _ hfits (ih _ ?_ h _ rfl)
    simp only [Kind.token, List.length_append, List.length_cons]
    omega

/-- A redacted text is the text with stretches of it hidden, each of which identifies a person. -/
theorem hides_redactChars (cs : List Char) : Hides cs (redactChars cs) := by
  have hreplace : ∀ (k : Kind) {told shown : List Char}, Hides told shown →
      Hides told (k.replace shown) := by
    intro k told shown h
    unfold Kind.replace
    rw [replaceAll_eq]
    exact h.replace k none
  rw [redactChars_eq]
  exact hreplace _ (hreplace _ (hreplace _ (Hides.refl cs)))

/-- **Redaction is complete.** No address, telephone number or bare number is left in a redacted
text, so redacting it again changes nothing; a text is left as it is just if there was none in it.
What is shown is the text with separate stretches of it hidden, each an address, a number or a bare
number behind the token of its kind, and all else in its order. -/
theorem nothing_identifying_left (text : String) :
    (∀ k : Kind, ¬ k.pattern.StandsIn (redact text).toList) ∧
    redact (redact text) = redact text ∧
    (redact text = text ↔ ∀ k : Kind, ¬ k.pattern.StandsIn text.toList) ∧
    Hides text.toList (redact text).toList := by
  have hchars : ∀ t : String, (redact t).toList = redactChars t.toList :=
    fun t => String.toList_ofList
  have hnone : ∀ k : Kind, ¬ k.pattern.StandsIn (redact text).toList := by
    intro k
    rw [hchars]
    exact k.not_standsIn_redactChars text.toList
  have hself : ∀ t : String, (∀ k : Kind, ¬ k.pattern.StandsIn t.toList) → redact t = t := by
    intro t ht
    rw [← String.toList_inj, hchars]
    exact redactChars_eq_self ht
  refine ⟨hnone, hself _ hnone, ⟨fun h => ?_, hself text⟩, ?_⟩
  · rw [h] at hnone
    exact hnone
  · rw [hchars]
    exact hides_redactChars text.toList

end ShelterLine.Redaction
