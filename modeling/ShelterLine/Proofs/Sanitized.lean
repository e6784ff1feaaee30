import ShelterLine.Proofs.SplitPlaceholder

/-!
# What cleaning a script comes to

Each step of cleaning leaves nothing of what it takes away, and later steps bring back no
placeholder in brackets and no blanks side by side. Two things can spoil a clean script: a
placeholder in braces may be left, as others split it, and a script is cut to length after
its ends were trimmed, so it may end in a blank then. Cleaning changes a clean script just if
one of the two has happened.
-/

namespace ShelterLine.Script

open Text

variable {P : Pattern} {rule : Rule} {before : Option Char} {c : Char} {cs token : List Char}
  {ps qs : List Piece}

/-! ## Brackets -/

/-- What opens and begins no placeholder is closed at once or never. -/
theorem closed_at_once_or_never (h : ∀ m post, '[' :: cs = m ++ post → ¬ IsBracketed m) :
    cs.head? = some ']' ∨ ']' ∉ cs := by
  by_contra hneither
  obtain ⟨hhead, hclose⟩ := not_or.1 hneither
  obtain ⟨u, post, rfl, hu⟩ := List.eq_append_cons_of_mem (not_not.1 hclose)
  refine h ('[' :: (u ++ [']'])) post (by simp) ⟨u, rfl, ?_, hu⟩
  rintro rfl
  exact hhead rfl

/-- In a text without placeholders in brackets what opens is closed at once or never. -/
theorem not_holds_bracketed_iff : ¬ Holds IsBracketed cs ↔
    ∀ pre post, cs = pre ++ '[' :: post → post.head? = some ']' ∨ ']' ∉ post := by
  constructor
  · rintro h pre post rfl
    refine closed_at_once_or_never fun m more hsplit hm => h ⟨m, hm, pre, more, ?_⟩
    rw [List.append_assoc, ← hsplit]
  · rintro h ⟨m, ⟨u, rfl, hu, hstop⟩, pre, post, rfl⟩
    rcases h pre (u ++ ']' :: post) (by simp) with hhead | hnever
    · obtain ⟨c, u, rfl⟩ := List.exists_cons_of_ne_nil hu
      obtain rfl := Option.some.inj hhead
      exact hstop List.mem_cons_self
    · exact hnever (by simp)

/-- Where what opens among the pieces is closed at once or never, it is so when
stretches are replaced. -/
theorem not_bracketed_writtenOf (hopen : '[' ∉ token) (hclose : ']' ∉ token)
    (hfound : ∀ m, .found m ∈ ps → m ≠ [] ∧ m.head? ≠ some ']')
    (h : ∀ qs rs, ps = qs ++ .kept '[' :: rs → (charsOf rs).head? = some ']' ∨ ']' ∉ charsOf rs) :
    ¬ Holds IsBracketed (writtenOf token ps) := by
  refine not_holds_bracketed_iff.2 fun pre post hsplit => ?_
  obtain ⟨qs, rs, rfl, rfl, rfl⟩ := exists_kept_of_flatMap (fun _ => rfl) (fun _ _ => hopen) hsplit
  rcases h qs rs rfl with hhead | hnever
  · left
    cases rs with
    | nil => cases hhead
    | cons r rs =>
      cases r with
      | kept d => exact hhead
      | found m =>
        obtain ⟨hm, hd⟩ := hfound m (by simp)
        rw [charsOf_found, List.head?_append_of_ne_nil _ hm] at hhead
        exact absurd hhead hd
  · right
    intro hmem
    rcases mem_writtenOf hmem with htoken | hchars
    · exact hclose htoken
    · exact hnever hchars

/-- No placeholder in brackets is left when all are taken away. -/
theorem not_bracketed_withoutBrackets (raw : List Char) :
    ¬ Holds IsBracketed (withoutBrackets raw) := by
  unfold withoutBrackets
  rw [replaceAll_eq]
  refine not_bracketed_writtenOf List.not_mem_nil List.not_mem_nil
    (fun m hm => ?_) fun qs rs hcut => ?_
  · obtain ⟨⟨_, _, hfits⟩, hne⟩ := bracketPlace_sound.of_mem hm
    rw [IsBracketed.head hfits]
    exact ⟨hne, by decide⟩
  · exact closed_at_once_or_never fun m post hsplit hm =>
      bracketPlace_complete.kept_at hcut hsplit hm

/-- None comes about when other stretches are replaced. -/
theorem not_bracketed_replaceAll (hsound : rule.Sound P)
    (hP : ∀ {b m a}, P b m a → m.head? ≠ some ']') (hopen : '[' ∉ token) (hclose : ']' ∉ token)
    (h : ¬ Holds IsBracketed cs) : ¬ Holds IsBracketed (replaceAll rule token cs) := by
  rw [replaceAll_eq]
  refine not_bracketed_writtenOf hopen hclose (fun m hm => ?_) fun qs rs hcut => ?_
  · obtain ⟨⟨_, _, hfits⟩, hne⟩ := hsound.of_mem hm
    exact ⟨hne, hP hfits⟩
  · refine not_holds_bracketed_iff.1 h (charsOf qs) (charsOf rs) ?_
    rw [← charsOf_kept, ← charsOf_append, ← hcut, charsOf_cut]

theorem not_bracketed_withoutRuns (raw : List Char) :
    ¬ Holds IsBracketed (withoutRuns (withoutBraces (withoutBrackets raw))) := by
  have hbraces : ¬ Holds IsBracketed (withoutBraces (withoutBrackets raw)) := by
    refine not_bracketed_replaceAll bracePlace_sound (fun h => ?_) List.not_mem_nil List.not_mem_nil
      (not_bracketed_withoutBrackets raw)
    rw [IsBraced.head h]
    decide
  refine not_bracketed_replaceAll blankRun_sound (fun h => ?_) (by decide) (by decide) hbraces
  obtain ⟨d, hd, hblank⟩ := blankRuns_head h
  rw [hd]
  intro hclose
  obtain rfl := Option.some.inj hclose
  exact absurd hblank (by decide)

/-! ## Blanks -/

theorem holds_twoBlanks_cons (h : Holds TwoBlanks (c :: cs)) :
    (isBlank c ∧ ∃ d, cs.head? = some d ∧ isBlank d) ∨ Holds TwoBlanks cs := by
  obtain ⟨m, ⟨b, b', rfl, hb, hb'⟩, pre, post, hsplit⟩ := h
  cases pre with
  | nil =>
    obtain ⟨rfl, rfl⟩ := List.cons.inj hsplit
    exact Or.inl ⟨hb, b', rfl, hb'⟩
  | cons d pre =>
    obtain ⟨rfl, rfl⟩ := List.cons.inj hsplit
    exact Or.inr ⟨[b, b'], ⟨b, b', rfl, hb, hb'⟩, pre, post, rfl⟩

/-- After a blank that was kept and after a run of blanks no blank follows. -/
theorem startsPlain_after {p : Piece} (hcut : cut blankRun before cs = ps ++ p :: qs)
    (hp : ∀ c, p = .kept c → isBlank c) : StartsPlain (charsOf qs) := by
  intro d hd
  cases p with
  | found m => exact (blankRun_sound.found hcut).1.2.2 d hd
  | kept c =>
    by_contra hblank
    obtain ⟨more, hmore⟩ := List.head?_eq_some_iff.1 hd
    have hsplit : c :: charsOf qs = [c, d] ++ more := by
      rw [hmore]
      rfl
    exact blankRun_complete.kept_at hcut hsplit ⟨c, d, rfl, hp c rfl, by simpa using hblank⟩

theorem startsPlain_writtenOf (hfound : ∀ m, .found m ∈ ps → ∃ d, m.head? = some d ∧ isBlank d)
    (h : StartsPlain (charsOf ps)) : StartsPlain (writtenOf token ps) := by
  cases ps with
  | nil => exact h
  | cons p ps =>
    cases p with
    | kept c => exact h
    | found m =>
      obtain ⟨d, hd, hblank⟩ := hfound m List.mem_cons_self
      obtain ⟨more, rfl⟩ := List.head?_eq_some_iff.1 hd
      rw [h d rfl] at hblank
      cases hblank

/-- No two blanks are side by side when runs of them are shrunk to one. -/
theorem not_twoBlanks_withoutRuns (cs : List Char) : ¬ Holds TwoBlanks (withoutRuns cs) := by
  have hfrom : ∀ qs ps, cut blankRun none cs = ps ++ qs →
      ¬ Holds TwoBlanks (writtenOf [' '] qs) := by
    intro qs
    induction qs with
    | nil =>
      rintro ps - ⟨m, ⟨b, b', rfl, -⟩, hwithin⟩
      simpa using hwithin.length_le
    | cons q qs ih =>
      intro ps hcut htwo
      have hrest := ih (ps ++ [q]) (by rw [hcut, List.append_assoc, List.singleton_append])
      have hfound : ∀ m, .found m ∈ qs → ∃ d, m.head? = some d ∧ isBlank d := by
        intro m hm
        have hmem : .found m ∈ cut blankRun none cs := by
          rw [hcut]
          simp [hm]
        obtain ⟨⟨_, _, hfits⟩, -⟩ := blankRun_sound.of_mem hmem
        exact blankRuns_head hfits
      have hplain : (∀ c, q = .kept c → isBlank c) → StartsPlain (writtenOf [' '] qs) := fun hq =>
        startsPlain_writtenOf hfound (startsPlain_after hcut hq)
      cases q with
      | kept c =>
        rcases holds_twoBlanks_cons htwo with ⟨hc, d, hd, hblank⟩ | htwo
        · rw [hplain (fun e he => by obtain rfl := Piece.kept.inj he; exact hc) d hd] at hblank
          cases hblank
        · exact hrest htwo
      | found m =>
        rcases holds_twoBlanks_cons htwo with ⟨-, d, hd, hblank⟩ | htwo
        · rw [hplain (fun e he => by cases he) d hd] at hblank
          cases hblank
        · exact hrest htwo
  unfold withoutRuns
  rw [replaceAll_eq]
  exact hfrom _ [] rfl

/-! ## Cleaned scripts -/

/-- What a cleaned script is, whatever it was made from. -/
structure Clean (cs : List Char) : Prop where
  length_le : cs.length ≤ maxLength
  no_brackets : ¬ Holds IsBracketed cs
  no_twoBlanks : ¬ Holds TwoBlanks cs
  startsPlain : StartsPlain cs

/-- **Every cleaned script is clean.** -/
theorem clean_sanitizeChars (raw : List Char) : Clean (sanitizeChars raw) := by
  rw [sanitizeChars_eq]
  generalize hruns : withoutRuns (withoutBraces (withoutBrackets raw)) = cs
  have hpart : (trim cs).take maxLength <:+: cs :=
    (List.take_prefix maxLength (trim cs)).isInfix.trans (trim_within cs)
  refine ⟨List.length_take_le _ _, fun h => ?_, fun h => ?_, fun c hc => ?_⟩
  · refine not_bracketed_withoutRuns raw ?_
    rw [hruns]
    exact h.mono hpart
  · refine not_twoBlanks_withoutRuns (withoutBraces (withoutBrackets raw)) ?_
    rw [hruns]
    exact h.mono hpart
  · rw [List.head?_take, if_neg (by decide)] at hc
    exact startsPlain_trim cs c hc

theorem withoutBrackets_eq_self (h : ¬ Holds IsBracketed cs) : withoutBrackets cs = cs := by
  have hnone : ¬ (Pattern.ofText IsBracketed).StandsIn cs := fun hstands =>
    h (standsIn_ofText.1 hstands)
  unfold withoutBrackets
  rw [replaceAll_eq_self namePlace_sound hnone, replaceAll_eq_self bracketPlace_sound hnone]

theorem withoutBraces_eq_self (h : ¬ Holds IsBraced cs) : withoutBraces cs = cs :=
  replaceAll_eq_self bracePlace_sound (fun hstands => h (standsIn_ofText.1 hstands)) []

theorem withoutRuns_eq_self (h : ¬ Holds TwoBlanks cs) : withoutRuns cs = cs := by
  refine replaceAll_eq_self blankRun_sound ?_ [' ']
  rintro ⟨pre, m, post, rfl, hruns⟩
  refine h ((holds_twoBlanks_of_blankRuns hruns).mono ⟨pre, post, ?_⟩)
  rw [List.append_assoc]

theorem length_withoutRuns_le (cs : List Char) : (withoutRuns cs).length ≤ cs.length := by
  have hshorter := @length_writtenOf_add_le [' '] (cut blankRun none cs) fun m hm => by
    obtain ⟨⟨_, _, hlong, -⟩, -⟩ := blankRun_sound.of_mem hm
    exact hlong
  rw [charsOf_cut] at hshorter
  unfold withoutRuns
  rw [replaceAll_eq]
  omega

/-- Taking away placeholders in braces makes a script shorter, if there are any. -/
theorem length_withoutBraces_lt (h : Holds IsBraced cs) :
    (withoutBraces cs).length < cs.length := by
  obtain ⟨m, hm⟩ := bracePlace_complete.exists_found (fun hfits => by
    obtain ⟨n, hn⟩ := IsBraced.length hfits
    exact List.ne_nil_of_length_eq_add_one hn) (standsIn_ofText.2 h)
  have hshorter := @length_writtenOf_add_le [] (cut bracePlace none cs) fun m hm =>
    List.length_pos_iff.2 (bracePlace_sound.of_mem hm).2
  have hcount : 0 < (cut bracePlace none cs).countP Piece.isFound :=
    List.countP_pos_iff.2 ⟨_, hm, rfl⟩
  rw [charsOf_cut] at hshorter
  unfold withoutBraces
  rw [replaceAll_eq]
  omega

/-- **Cleaning leaves a clean script as it is just if no placeholder in braces is in it and
it ends in no blank.** -/
theorem sanitizeChars_eq_self_iff (h : Clean cs) :
    sanitizeChars cs = cs ↔ ¬ Holds IsBraced cs ∧ EndsPlain cs := by
  rw [sanitizeChars_eq, withoutBrackets_eq_self h.no_brackets]
  constructor
  · intro hself
    have htrim : (trim (withoutRuns (withoutBraces cs))).length ≤ (withoutBraces cs).length :=
      Nat.le_trans (trim_within _).length_le (length_withoutRuns_le _)
    have hlength := congrArg List.length hself
    rw [List.length_take] at hlength
    have hbraces : ¬ Holds IsBraced cs := by
      intro hbraced
      have hshorter := length_withoutBraces_lt hbraced
      omega
    refine ⟨hbraces, ?_⟩
    rw [withoutBraces_eq_self hbraces] at hself hlength htrim
    rw [List.take_of_length_le (Nat.le_trans htrim h.length_le)] at hself
    rw [← hself]
    exact endsPlain_trim _
  · rintro ⟨hbraces, hend⟩
    rw [withoutBraces_eq_self hbraces, withoutRuns_eq_self h.no_twoBlanks,
      trim_eq_self h.startsPlain hend, List.take_of_length_le h.length_le]

/-- A cleaned script that ends in a blank was cut to length there. -/
theorem length_of_not_endsPlain {raw : List Char} (h : ¬ EndsPlain (sanitizeChars raw)) :
    (sanitizeChars raw).length = maxLength := by
  rw [sanitizeChars_eq] at h ⊢
  rw [List.length_take, Nat.min_eq_left]
  by_contra hshort
  rw [List.take_of_length_le (by omega)] at h
  exact h (endsPlain_trim _)

theorem split_of_braced_sanitizeChars {raw : List Char} (h : Holds IsBraced (sanitizeChars raw)) :
    Holds IsSplit (withoutBrackets raw) := by
  rw [sanitizeChars_eq] at h
  exact split_of_braced_left
    (braced_withoutRuns_iff.1 (braced_trim_iff.1 (h.mono (List.take_prefix _ _).isInfix)))

theorem braced_sanitizeChars_of_split {raw : List Char}
    (hshort : (sanitizeChars raw).length < maxLength) (h : Holds IsSplit (withoutBrackets raw)) :
    Holds IsBraced (sanitizeChars raw) := by
  rw [sanitizeChars_eq] at hshort ⊢
  rw [List.length_take] at hshort
  rw [List.take_of_length_le (by omega), braced_trim_iff, braced_withoutRuns_iff]
  exact braced_left_of_split h

/-- **What cleaning comes to.** A cleaned script is never longer than allowed, has no placeholder in
brackets and no two blanks side by side, and begins with no blank. Cleaning it again changes nothing
just if no placeholder in double braces is in it and it ends in no blank. If it does, it was cut to
length there; and if one is in it, the script had in it a placeholder whose closing braces were
apart, with whole ones between them, which in turn is left unless it is cut off. -/
theorem sanitize_fixed_iff (raw : String) :
    Clean (sanitize raw).toList ∧
    (sanitize (sanitize raw) = sanitize raw ↔
      ¬ Holds IsBraced (sanitize raw).toList ∧ EndsPlain (sanitize raw).toList) ∧
    (¬ EndsPlain (sanitize raw).toList → (sanitize raw).length = maxLength) ∧
    (Holds IsBraced (sanitize raw).toList → Holds IsSplit (withoutBrackets raw.toList)) ∧
    ((sanitize raw).length < maxLength → Holds IsSplit (withoutBrackets raw.toList) →
      Holds IsBraced (sanitize raw).toList) := by
  have hchars : ∀ t : String, (sanitize t).toList = sanitizeChars t.toList :=
    fun t => String.toList_ofList
  have hclean := clean_sanitizeChars raw.toList
  rw [← String.toList_inj, hchars (sanitize raw), ← String.length_toList, hchars raw]
  exact ⟨hclean, sanitizeChars_eq_self_iff hclean, length_of_not_endsPlain,
    split_of_braced_sanitizeChars, braced_sanitizeChars_of_split⟩

/-- A text that is cut right after its only blank ends in it. -/
theorem cut_after_blank :
    (sanitize (String.ofList (List.replicate 1399 'a' ++ [' ', 'b']))).toList =
      List.replicate 1399 'a' ++ [' '] := by
  generalize htext : List.replicate 1399 'a' ++ [' ', 'b'] = raw
  have hmem : ∀ c ∈ raw, c = 'a' ∨ c = ' ' ∨ c = 'b' := by
    intro c hc
    rw [← htext, List.mem_append] at hc
    rcases hc with hc | hc
    · exact Or.inl (List.eq_of_mem_replicate hc)
    · exact Or.inr (by simpa using hc)
  have hbrackets : ¬ Holds IsBracketed raw := by
    rintro ⟨_, ⟨u, rfl, -⟩, hwithin⟩
    exact absurd (hmem '[' (List.IsInfix.subset hwithin (by simp))) (by decide)
  have hbraces : ¬ Holds IsBraced raw := by
    rintro ⟨_, ⟨u, rfl, -⟩, hwithin⟩
    exact absurd (hmem '\x7b' (List.IsInfix.subset hwithin (by simp))) (by decide)
  have hblanks : ¬ Holds TwoBlanks raw := by
    have hfrom : ∀ n, ¬ Holds TwoBlanks (List.replicate n 'a' ++ [' ', 'b']) := by
      intro n h
      induction n with
      | zero =>
        obtain ⟨m, ⟨b, b', rfl, hb, hb'⟩, hwithin⟩ := h
        obtain ⟨rfl, rfl⟩ : b = ' ' ∧ b' = 'b' := by
          have hwhole := List.IsInfix.eq_of_length hwithin rfl
          simpa using hwhole
        exact absurd hb' (by decide)
      | succ n ih =>
        rcases holds_twoBlanks_cons h with ⟨ha, -⟩ | h
        · exact absurd ha (by decide)
        · exact ih h
    rw [← htext]
    exact hfrom 1399
  have htrim : trim raw = raw := by
    have hhead : raw.head? = some 'a' := by
      rw [← htext, List.replicate_succ]
      rfl
    have hlast : raw.getLast? = some 'b' := by
      rw [← htext, List.getLast?_append]
      rfl
    exact trim_eq_self (startsPlain_of_head hhead (by decide)) (endsPlain_of_last hlast (by decide))
  rw [sanitize, String.toList_ofList, String.toList_ofList, sanitizeChars_eq,
    withoutBrackets_eq_self hbrackets, withoutBraces_eq_self hbraces,
    withoutRuns_eq_self hblanks, htrim, ← htext, List.take_append, List.length_replicate,
    List.take_replicate]
  rfl

/-- A script that was cut after a blank is not clean enough. -/
theorem sanitize_fixed_iff_cutAfterBlank :
    sanitize (sanitize (String.ofList (List.replicate 1399 'a' ++ [' ', 'b']))) ≠
      sanitize (String.ofList (List.replicate 1399 'a' ++ [' ', 'b'])) := by
  intro hself
  have hlast : (sanitize (String.ofList (List.replicate 1399 'a' ++ [' ', 'b']))).toList.getLast? =
      some ' ' := by
    rw [cut_after_blank, List.getLast?_append]
    rfl
  have hplain := (((sanitize_fixed_iff _).2.1.1 hself).2) ' ' hlast
  exact absurd hplain (by decide)

/-- Taking one placeholder away brings the braces of another together. -/
theorem split_placeholder_left :
    sanitize "\x7b\x7ba\x7d\x7b\x7bb\x7d\x7d\x7d" = "\x7b\x7ba\x7d\x7d" ∧
      sanitize (sanitize "\x7b\x7ba\x7d\x7b\x7bb\x7d\x7d\x7d") = "" := by
  decide +kernel

end ShelterLine.Script
