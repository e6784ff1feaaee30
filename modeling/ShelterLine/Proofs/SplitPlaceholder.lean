import Mathlib.Data.List.Basic
import ShelterLine.Proofs.Placeholder

/-!
# A placeholder that others split

Where whole placeholders in braces stand between the closing braces of another, taking them away
brings those together, and it is left. This is the only way in which one is left: no stretch is
found between the opening braces, nor before the first closing one, since a longer one would have
been found from the opening braces on. Shrinking blanks and trimming change nothing about it.
-/

namespace ShelterLine.Script

open Text

variable {c : Char} {cs m post u v : List Char} {ps qs rs : List Piece}

/-! ## Taking placeholders away -/

/-- A placeholder in braces whose closing braces are apart, with whole placeholders between them. -/
def IsSplit (m : List Char) : Prop :=
  ∃ u ms, m = ['\x7b', '\x7b'] ++ (u ++ '\x7d' :: (ms.flatten ++ ['\x7d'])) ∧
    u ≠ [] ∧ '\x7d' ∉ u ∧ ms ≠ [] ∧ ∀ p ∈ ms, IsBraced p

/-- What opens with a second brace and goes on is a placeholder if it is closed. -/
theorem braced_of_head {t : List Char} (hhead : t.head? = some '\x7b') (hlong : 2 ≤ t.length)
    (hstop : '\x7d' ∉ t) : IsBraced ('\x7b' :: (t ++ ['\x7d', '\x7d'])) := by
  obtain ⟨u, rfl⟩ := List.head?_eq_some_iff.1 hhead
  refine ⟨u, rfl, ?_, fun hmem => hstop (List.mem_cons_of_mem _ hmem)⟩
  rintro rfl
  simp at hlong

/-- No stretch is found after an opening brace that was kept, if only more that was kept stands
between and it goes on with a brace too: the stretch would have begun at the first brace. -/
theorem not_found_after_brace
    (hcut : cut bracePlace none cs = qs ++ .kept '\x7b' :: (v.map .kept ++ .found m :: rs))
    (hv : v = [] ∨ v.head? = some '\x7b') (hstop : '\x7d' ∉ v) : False := by
  have hmem : .found m ∈ cut bracePlace none cs := by
    rw [hcut]
    simp
  obtain ⟨⟨_, _, w, rfl, -, hw⟩, -⟩ := bracePlace_sound.of_mem hmem
  have hwhole : IsBraced ('\x7b' :: ((v ++ '\x7b' :: '\x7b' :: w) ++ ['\x7d', '\x7d'])) := by
    refine braced_of_head ?_ (by simp; omega) ?_
    · rcases hv with rfl | hv
      · rfl
      · rw [List.head?_append, hv]
        rfl
    · simp only [List.mem_append, List.mem_cons, not_or]
      exact ⟨hstop, by decide, by decide, hw⟩
  refine bracePlace_complete.kept_at hcut (?_ : _ = _ ++ charsOf rs) hwhole
  simp

/-- After two opening braces all is kept up to the first closing one. -/
theorem kept_to_closing (hcut : cut bracePlace none cs = qs ++ .kept '\x7b' :: (v.map .kept ++ rs))
    (hhead : (v ++ u).head? = some '\x7b') (hv : '\x7d' ∉ v) (hu : '\x7d' ∉ u)
    (h : writtenOf [] rs = u ++ '\x7d' :: post) :
    ∃ rs', rs = u.map .kept ++ .kept '\x7d' :: rs' ∧ writtenOf [] rs' = post := by
  have hbrace : v = [] ∨ v.head? = some '\x7b' := by
    cases v with
    | nil => exact Or.inl rfl
    | cons d v => exact Or.inr hhead
  induction u generalizing v rs with
  | nil =>
    obtain ⟨ms, rs', rfl, hrest⟩ := exists_found_kept h
    cases ms with
    | nil => exact ⟨rs', rfl, hrest⟩
    | cons m ms => exact (not_found_after_brace hcut hbrace hv).elim
  | cons d u ih =>
    obtain ⟨ms, rs', rfl, hrest⟩ := exists_found_kept h
    cases ms with
    | cons m ms => exact (not_found_after_brace hcut hbrace hv).elim
    | nil =>
      obtain ⟨hd, hu⟩ := not_or.1 (mt List.mem_cons.2 hu)
      have hhead' : (v ++ [d]).head? = some '\x7b' := by
        cases v with
        | nil => exact hhead
        | cons e v => exact hhead
      have hv' : '\x7d' ∉ v ++ [d] := by
        simp only [List.mem_append, List.mem_singleton, not_or]
        exact ⟨hv, hd⟩
      have hcut' : cut bracePlace none cs = qs ++ .kept '\x7b' ::
          ((v ++ [d]).map .kept ++ rs') := by
        rw [hcut]
        simp
      obtain ⟨rest, rfl, hpost⟩ := ih hcut' (by simpa using hhead) hv' hu hrest (Or.inr hhead')
      exact ⟨rest, rfl, hpost⟩

/-- **A placeholder in braces that is left was split by others.** -/
theorem split_of_braced_left (h : Holds IsBraced (withoutBraces cs)) : Holds IsSplit cs := by
  obtain ⟨_, ⟨u, rfl, hu, hstop⟩, pre, post, hsplit⟩ := h
  unfold withoutBraces at hsplit
  rw [replaceAll_eq] at hsplit
  have hopen : writtenOf [] (cut bracePlace none cs) =
      pre ++ '\x7b' :: ('\x7b' :: u ++ '\x7d' :: '\x7d' :: post) := by
    rw [← hsplit]
    simp
  obtain ⟨qs, rs, hcut, -, hopened⟩ :=
    exists_kept_of_flatMap (fun _ => rfl) (fun _ _ => List.not_mem_nil) hopen
  have hstop' : '\x7d' ∉ '\x7b' :: u := by simp [hstop]
  obtain ⟨more, rfl, hclosing⟩ :=
    @kept_to_closing cs _ ('\x7b' :: u) [] qs rs hcut rfl List.not_mem_nil hstop' hopened
  obtain ⟨ms, rs, rfl, -⟩ := exists_found_kept hclosing
  have hchars : cs = charsOf qs ++
      (['\x7b', '\x7b'] ++ (u ++ '\x7d' :: (ms.flatten ++ ['\x7d']))) ++ charsOf rs := by
    rw [← charsOf_cut bracePlace none cs, hcut]
    simp
  refine ⟨_, ⟨u, ms, rfl, hu, hstop, ?_, fun p hp => ?_⟩, charsOf qs, charsOf rs, hchars.symm⟩
  · rintro rfl
    refine bracePlace_complete.kept_at hcut (?_ : _ = _ ++ charsOf rs) ⟨u, rfl, hu, hstop⟩
    simp
  · have hmem : .found p ∈ cut bracePlace none cs := by
      rw [hcut]
      simp [hp]
    obtain ⟨⟨_, _, hfits⟩, -⟩ := bracePlace_sound.of_mem hmem
    exact hfits

/-- Whole placeholders one after the other are found one by one. -/
theorem cut_flatten {ms : List (List Char)} (hms : ∀ p ∈ ms, IsBraced p) (before : Option Char)
    (rest : List Char) : ∃ b, cut bracePlace before (ms.flatten ++ rest) =
      ms.map .found ++ cut bracePlace b rest := by
  induction ms generalizing before with
  | nil => exact ⟨before, rfl⟩
  | cons m ms ih =>
    obtain ⟨hm, hms⟩ := List.forall_mem_cons.1 hms
    obtain ⟨n, hn⟩ := hm.length
    obtain ⟨b, hb⟩ := ih hms m.getLast?
    refine ⟨b, ?_⟩
    rw [List.flatten_cons, List.append_assoc,
      cut_append_found (bracePlace_of_braced _ hm) (List.ne_nil_of_length_eq_add_one hn), hb,
      List.map_cons, List.cons_append]

/-- A placeholder in braces does not reach over a single closing brace. -/
theorem not_braced_over {w rest more : List Char} (hv : '\x7d' ∉ v) (hw : '\x7d' ∉ w)
    (hrest : rest.head? ≠ some '\x7d') : v ++ '\x7d' :: rest ≠ w ++ '\x7d' :: '\x7d' :: more := by
  intro h
  obtain ⟨-, rfl⟩ := parted_inj hv hw h
  exact hrest rfl

/-- Up to a single closing brace no placeholder in braces begins, so all is kept. -/
theorem cut_to_single {rest : List Char} (hv : '\x7d' ∉ v) (hrest : rest.head? ≠ some '\x7d')
    (before : Option Char) : ∃ b, cut bracePlace before (v ++ '\x7d' :: rest) =
      v.map .kept ++ .kept '\x7d' :: cut bracePlace b rest := by
  have hclosing : cut bracePlace (v.getLast?.or before) ('\x7d' :: rest) =
      .kept '\x7d' :: cut bracePlace (some '\x7d') rest := cut_cons fun n hn => by cases hn
  refine ⟨some '\x7d', ?_⟩
  rw [cut_append_kept, hclosing]
  rintro xs c ys rfl before n hn
  obtain ⟨m, post, hsplit, -, w, rfl, -, hw⟩ := bracePlace_sound _ _ _ hn
  have hover : c :: ys ++ '\x7d' :: rest = '\x7b' :: '\x7b' :: w ++ '\x7d' :: '\x7d' :: post := by
    simpa using hsplit
  refine not_braced_over (fun hmem => hv ?_) (by simp [hw]) hrest hover
  exact List.mem_append_right xs hmem

/-- No placeholder in braces ends within a text that opens with a brace and is closed
by a single one. -/
theorem not_straddling {m' rest more : List Char} (hbraced : IsBraced (m ++ m')) (hne : m' ≠ [])
    (hv : '\x7d' ∉ v) (hhead : v ≠ []) (hrest : rest.head? ≠ some '\x7d') :
    v ++ '\x7d' :: rest ≠ m' ++ more := by
  intro h
  obtain ⟨w, hm, -, hw⟩ := hbraced
  have hw' : '\x7d' ∉ '\x7b' :: '\x7b' :: w := by simp [hw]
  have hm' : ('\x7b' :: '\x7b' :: w) ++ ['\x7d', '\x7d'] = m ++ m' := by
    rw [hm]
    simp
  rcases List.append_eq_append_iff.1 hm' with ⟨inner, -, hinner⟩ | ⟨back, hback, rfl⟩
  · -- it would begin with a closing brace
    obtain ⟨d, v, rfl⟩ := List.exists_cons_of_ne_nil hhead
    obtain ⟨e, m', rfl⟩ := List.exists_cons_of_ne_nil hne
    obtain ⟨rfl, -⟩ := List.cons.inj h
    have hmem : d ∈ ['\x7d', '\x7d'] := by
      rw [hinner]
      simp
    obtain rfl : d = '\x7d' := by simpa using hmem
    exact hv List.mem_cons_self
  · rw [List.append_assoc] at h
    refine not_braced_over hv (fun hmem => hw' ?_) hrest h
    rw [hback]
    exact List.mem_append_right _ hmem

/-- **A placeholder in braces that is split by others is left without them.** -/
theorem braced_left_of_split (h : Holds IsSplit cs) : Holds IsBraced (withoutBraces cs) := by
  obtain ⟨_, ⟨u, ms, rfl, hu, hstop, hne, hms⟩, pre, post, rfl⟩ := h
  have hv : '\x7d' ∉ '\x7b' :: '\x7b' :: u := by simp [hstop]
  have hrest : (ms.flatten ++ '\x7d' :: post).head? ≠ some '\x7d' := by
    obtain ⟨m, ms, rfl⟩ := List.exists_cons_of_ne_nil hne
    obtain ⟨more, rfl⟩ := List.head?_eq_some_iff.1 (IsBraced.head (hms m List.mem_cons_self))
    exact fun hclose => absurd (Option.some.inj hclose) (by decide)
  have htext : pre ++ (['\x7b', '\x7b'] ++ (u ++ '\x7d' :: (ms.flatten ++ ['\x7d']))) ++ post =
      pre ++ (('\x7b' :: '\x7b' :: u) ++ '\x7d' :: (ms.flatten ++ '\x7d' :: post)) := by simp
  unfold withoutBraces
  rw [replaceAll_eq, htext]
  generalize hcut : cut bracePlace none _ = ps
  have hchars := charsOf_cut bracePlace none
    (pre ++ (('\x7b' :: '\x7b' :: u) ++ '\x7d' :: (ms.flatten ++ '\x7d' :: post)))
  rw [hcut] at hchars
  rcases exists_parts hchars with ⟨qs, rs, rfl, rfl, hrs⟩ | ⟨qs, m, m', rs, rfl, hm', hover⟩
  · have hafter := cut_append hcut
    rw [hrs] at hafter
    obtain ⟨b, hb⟩ := cut_to_single hv hrest ((charsOf qs).getLast?.or none)
    obtain ⟨b', hb'⟩ := cut_flatten hms b ('\x7d' :: post)
    have hclosing : cut bracePlace b' ('\x7d' :: post) = .kept '\x7d' ::
        cut bracePlace (some '\x7d') post :=
      cut_cons fun n hn => by cases hn
    rw [hb, hb', hclosing] at hafter
    rw [hafter]
    refine ⟨_, ⟨u, rfl, hu, hstop⟩, writtenOf [] qs,
      writtenOf [] (cut bracePlace (some '\x7d') post), ?_⟩
    simp
  · have hmem : .found (m ++ m') ∈ cut bracePlace none
        (pre ++ (('\x7b' :: '\x7b' :: u) ++ '\x7d' :: (ms.flatten ++ '\x7d' :: post))) := by
      rw [hcut]
      simp
    obtain ⟨⟨_, _, hfits⟩, -⟩ := bracePlace_sound.of_mem hmem
    exact absurd hover (not_straddling hfits hm' hv (List.cons_ne_nil _ _) hrest)

/-! ## Shrinking blanks -/

/-- Reads stretches as blanks, one or more, and characters as they are. -/
structure ReadsBlanks (f : Piece → List Char) (ps : List Piece) : Prop where
  kept : ∀ c, f (.kept c) = [c]
  found : ∀ m, .found m ∈ ps → f (.found m) ≠ [] ∧ ∀ b ∈ f (.found m), isBlank b

section

variable {f g : Piece → List Char}

theorem ReadsBlanks.tail {p : Piece} (h : ReadsBlanks f (p :: ps)) : ReadsBlanks f ps :=
  ⟨h.kept, fun m hm => h.found m (List.mem_cons_of_mem p hm)⟩

theorem ReadsBlanks.back (h : ReadsBlanks f (qs ++ rs)) : ReadsBlanks f rs :=
  ⟨h.kept, fun m hm => h.found m (List.mem_append_right qs hm)⟩

theorem ReadsBlanks.front (h : ReadsBlanks f (qs ++ rs)) : ReadsBlanks f qs :=
  ⟨h.kept, fun m hm => h.found m (List.mem_append_left rs hm)⟩

/-- No piece is read as nothing. -/
theorem ReadsBlanks.eq_nil_iff (h : ReadsBlanks f ps) : ps.flatMap f = [] ↔ ps = [] := by
  constructor
  · cases ps with
    | nil => exact fun _ => rfl
    | cons p ps =>
      intro hnil
      obtain ⟨hp, -⟩ := List.append_eq_nil_iff.1 hnil
      cases p with
      | kept c =>
        rw [h.kept] at hp
        cases hp
      | found m => exact absurd hp (h.found m List.mem_cons_self).1
  · rintro rfl
    rfl

/-- What is no blank was kept. -/
theorem ReadsBlanks.exists_kept (h : ReadsBlanks f ps) (hc : isBlank c = false)
    {pre post : List Char} (hsplit : ps.flatMap f = pre ++ c :: post) :
    ∃ qs rs, ps = qs ++ .kept c :: rs ∧ qs.flatMap f = pre ∧ rs.flatMap f = post := by
  refine exists_kept_of_flatMap h.kept (fun m hm hmem => ?_) hsplit
  rw [(h.found m hm).2 c hmem] at hc
  cases hc

theorem ReadsBlanks.head (h : ReadsBlanks f ps) (hc : isBlank c = false)
    (hsplit : ps.flatMap f = c :: post) : ∃ rs, ps = .kept c :: rs ∧ rs.flatMap f = post := by
  obtain ⟨qs, rs, rfl, hqs, hrs⟩ := h.exists_kept hc (hsplit.trans (List.nil_append _).symm)
  rw [h.front.eq_nil_iff] at hqs
  subst hqs
  exact ⟨rs, rfl, hrs⟩

theorem ReadsBlanks.mem (hf : ReadsBlanks f ps) (hg : ReadsBlanks g ps) (hc : isBlank c = false)
    (hmem : c ∈ ps.flatMap f) : c ∈ ps.flatMap g := by
  obtain ⟨pre, post, hsplit⟩ := List.append_of_mem hmem
  obtain ⟨qs, rs, rfl, -⟩ := hf.exists_kept hc hsplit
  simp [hg.kept]

/-- Whether a placeholder in braces is there does not depend on how many blanks there are. -/
theorem ReadsBlanks.braced (hf : ReadsBlanks f ps) (hg : ReadsBlanks g ps)
    (h : Holds IsBraced (ps.flatMap f)) : Holds IsBraced (ps.flatMap g) := by
  have hopen : isBlank '\x7b' = false := by decide
  have hclose : isBlank '\x7d' = false := by decide
  obtain ⟨_, ⟨u, rfl, hu, hstop⟩, pre, post, hsplit⟩ := h
  have htext : ps.flatMap f = pre ++ '\x7b' :: '\x7b' :: (u ++ '\x7d' :: '\x7d' :: post) := by
    rw [← hsplit]
    simp
  -- the two opening braces, what is between, and the two closing ones, each where it was kept
  obtain ⟨qs, _, rfl, -, hafter₁⟩ := hf.exists_kept hopen htext
  have hf₁ := hf.back.tail
  obtain ⟨_, rfl, hafter₂⟩ := hf₁.head hopen hafter₁
  have hf₂ := hf₁.tail
  obtain ⟨is, _, rfl, hinner, hafter₃⟩ := hf₂.exists_kept hclose hafter₂
  obtain ⟨rs, rfl, -⟩ := hf₂.back.tail.head hclose hafter₃
  have hg₂ := hg.back.tail.tail.front
  refine ⟨_, ⟨is.flatMap g, rfl, ?_, fun hmem => hstop ?_⟩, qs.flatMap g, rs.flatMap g, ?_⟩
  · rw [Ne, hg₂.eq_nil_iff, ← hf₂.front.eq_nil_iff, hinner]
    exact hu
  · rw [← hinner]
    exact hg₂.mem hf₂.front hclose hmem
  · simp [hg.kept]

end

theorem readsBlanks_chars (before : Option Char) (cs : List Char) :
    ReadsBlanks Piece.chars (cut blankRun before cs) where
  kept _ := rfl
  found m hm := by
    obtain ⟨⟨_, _, -, hblank, -⟩, hne⟩ := blankRun_sound.of_mem hm
    exact ⟨hne, hblank⟩

theorem readsBlanks_written (before : Option Char) (cs : List Char) :
    ReadsBlanks (Piece.written [' ']) (cut blankRun before cs) where
  kept _ := rfl
  found _ _ := by
    refine ⟨List.cons_ne_nil _ _, fun b hb => ?_⟩
    obtain rfl := List.mem_singleton.1 hb
    decide

/-- Shrinking runs of blanks neither makes nor breaks a placeholder in braces. -/
theorem braced_withoutRuns_iff : Holds IsBraced (withoutRuns cs) ↔ Holds IsBraced cs := by
  have hchars := readsBlanks_chars none cs
  have hwritten := readsBlanks_written none cs
  have htext : (cut blankRun none cs).flatMap Piece.chars = cs := charsOf_cut blankRun none cs
  unfold withoutRuns
  rw [replaceAll_eq]
  constructor
  · intro h
    rw [← htext]
    exact hwritten.braced hchars h
  · intro h
    rw [← htext] at h
    exact hchars.braced hwritten h

theorem braced_trim_iff : Holds IsBraced (trim cs) ↔ Holds IsBraced cs := by
  refine exists_congr fun m => and_congr_right fun hm => infix_trim_iff ?_ ?_
  · exact startsPlain_of_head hm.head (by decide)
  · exact endsPlain_of_last hm.last (by decide)

end ShelterLine.Script
