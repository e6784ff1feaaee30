import ShelterLine.Text.Cut

/-!
# What cutting and replacing come to

A pattern says which stretches of a text are meant, and may look at the characters on either side. A
rule is sound for a pattern if it finds nothing else, and complete if it finds something wherever
such a stretch begins. Cutting goes from left to right and can be taken up again at any piece, so of
a text that was cut by a sound and complete rule every stretch that was found fits the pattern, and
no run of characters that was kept does. What that says about the text with the stretches replaced
depends on what they are replaced by; here are the facts that hold for any token.
-/

namespace ShelterLine.Text

/-- Whether a stretch is meant, given the character before it and the one after it. -/
abbrev Pattern := Option Char → List Char → Option Char → Prop

namespace Pattern

/-- The pattern of the stretches that have a property, whatever is on either side. -/
def ofText (Q : List Char → Prop) : Pattern := fun _ m _ => Q m

/-- Some stretch of the text fits the pattern. -/
def StandsIn (P : Pattern) (cs : List Char) : Prop :=
  ∃ pre m post, cs = pre ++ (m ++ post) ∧ P pre.getLast? m post.head?

end Pattern

/-- Some stretch of the text has the property. -/
def Holds (Q : List Char → Prop) (cs : List Char) : Prop := ∃ m, Q m ∧ m <:+: cs

variable {rule : Rule} {P : Pattern} {Q : List Char → Prop} {before : Option Char}
  {c : Char} {cs cs' m token : List Char} {ps qs : List Piece}

theorem standsIn_ofText : (Pattern.ofText Q).StandsIn cs ↔ Holds Q cs := by
  constructor
  · rintro ⟨pre, m, post, rfl, hm⟩
    exact ⟨m, hm, pre, post, by rw [List.append_assoc]⟩
  · rintro ⟨m, hm, pre, post, rfl⟩
    exact ⟨pre, m, post, by rw [List.append_assoc], hm⟩

/-- What stands in a part of a text stands in the text. -/
theorem Holds.mono (h : Holds Q cs) (hpart : cs <:+: cs') : Holds Q cs' := by
  obtain ⟨m, hm, hwithin⟩ := h
  exact ⟨m, hm, hwithin.trans hpart⟩

/-! ## Reading up to a character -/

theorem append_drop_takeWhile (p : Char → Bool) (cs : List Char) :
    cs.takeWhile p ++ cs.drop (cs.takeWhile p).length = cs :=
  List.prefix_iff_eq_append.1 <| List.takeWhile_prefix p

theorem takeWhile_append_stop {p : Char → Bool} {xs : List Char} {c : Char} (hxs : ∀ x ∈ xs, p x)
    (hc : p c = false) (ys : List Char) : (xs ++ c :: ys).takeWhile p = xs := by
  rw [List.takeWhile_append_of_pos hxs, List.takeWhile_cons_of_neg (by simp [hc]), List.append_nil]

theorem takeWhile_ne_append {stop : Char} {xs : List Char} (h : stop ∉ xs) (ys : List Char) :
    (xs ++ stop :: ys).takeWhile (· ≠ stop) = xs := by
  refine takeWhile_append_stop (fun x hx => decide_eq_true ?_) (by simp) ys
  rintro rfl
  exact h hx

/-- A text is parted at the first of a character in one way. -/
theorem parted_inj {stop : Char} {xs ys us vs : List Char} (hxs : stop ∉ xs) (hys : stop ∉ ys)
    (h : xs ++ stop :: us = ys ++ stop :: vs) : xs = ys ∧ us = vs := by
  have hfront := congrArg (List.takeWhile (· ≠ stop)) h
  rw [takeWhile_ne_append hxs, takeWhile_ne_append hys] at hfront
  subst hfront
  exact ⟨rfl, (List.cons.inj (List.append_cancel_left h)).2⟩

theorem not_mem_takeWhile_ne (stop : Char) (cs : List Char) : stop ∉ cs.takeWhile (· ≠ stop) := by
  intro h
  have hne := List.all_eq_true.1 List.all_takeWhile stop h
  simp at hne

/-- Reading that ends before the text does ends at the character. -/
theorem exists_of_length_takeWhile_lt {stop : Char}
    (h : (cs.takeWhile (· ≠ stop)).length < cs.length) :
    ∃ rest, cs = cs.takeWhile (· ≠ stop) ++ stop :: rest := by
  have hsplit : cs.takeWhile (· ≠ stop) ++ cs.dropWhile (· ≠ stop) = cs :=
    List.takeWhile_append_dropWhile
  have hhead := List.head?_dropWhile_not (fun c => decide (c ≠ stop)) cs
  cases hdrop : cs.dropWhile (· ≠ stop) with
  | nil =>
    rw [hdrop, List.append_nil] at hsplit
    rw [hsplit] at h
    exact absurd h (Nat.lt_irrefl _)
  | cons c rest =>
    rw [hdrop] at hsplit hhead
    obtain rfl : c = stop := by simpa using hhead
    exact ⟨rest, hsplit.symm⟩

/-! ## Rules for a pattern -/

namespace Rule

/-- Whatever the rule finds fits the pattern. -/
def Sound (rule : Rule) (P : Pattern) : Prop :=
  ∀ before cs n, rule before cs = some n → ∃ m post, cs = m ++ post ∧ m.length = n ∧
    P before m post.head?

/-- Wherever a stretch begins that fits the pattern the rule finds something. -/
def Complete (rule : Rule) (P : Pattern) : Prop :=
  ∀ before m post, P before m post.head? → ∃ n, rule before (m ++ post) = some (n + 1)

end Rule

/-! ## Pieces -/

/-- What some pieces were cut from. -/
def charsOf (ps : List Piece) : List Char := ps.flatMap Piece.chars

/-- A piece with the token in place of a stretch. -/
def Piece.written (token : List Char) : Piece → List Char
  | kept c => [c]
  | found _ => token

/-- Pieces with the token in place of every stretch. -/
def writtenOf (token : List Char) (ps : List Piece) : List Char := ps.flatMap (Piece.written token)

@[simp] theorem charsOf_nil : charsOf [] = [] := rfl

@[simp] theorem charsOf_kept : charsOf (.kept c :: ps) = c :: charsOf ps := rfl

@[simp] theorem charsOf_found : charsOf (.found m :: ps) = m ++ charsOf ps := rfl

@[simp] theorem charsOf_append : charsOf (ps ++ qs) = charsOf ps ++ charsOf qs :=
  List.flatMap_append

@[simp] theorem charsOf_map_kept : charsOf (m.map .kept) = m := by
  induction m with
  | nil => rfl
  | cons c m ih => rw [List.map_cons, charsOf_kept, ih]

@[simp] theorem charsOf_map_found {ms : List (List Char)} :
    charsOf (ms.map .found) = ms.flatten := by
  induction ms with
  | nil => rfl
  | cons m ms ih => rw [List.map_cons, charsOf_found, ih, List.flatten_cons]

@[simp] theorem writtenOf_nil : writtenOf token [] = [] := rfl

@[simp] theorem writtenOf_kept : writtenOf token (.kept c :: ps) = c :: writtenOf token ps := rfl

@[simp] theorem writtenOf_found : writtenOf token (.found m :: ps) = token ++ writtenOf token ps :=
  rfl

@[simp] theorem writtenOf_append :
    writtenOf token (ps ++ qs) = writtenOf token ps ++ writtenOf token qs := List.flatMap_append

@[simp] theorem writtenOf_map_kept : writtenOf token (m.map .kept) = m := by
  induction m with
  | nil => rfl
  | cons c m ih => rw [List.map_cons, writtenOf_kept, ih]

@[simp] theorem writtenOf_nil_map_found {ms : List (List Char)} :
    writtenOf [] (ms.map .found) = [] := by
  induction ms with
  | nil => rfl
  | cons m ms ih => rw [List.map_cons, writtenOf_found, ih, List.append_nil]

/-- A character that no stretch is read with was kept, and the pieces on either side are read as
what is on either side of it. -/
theorem exists_kept_of_flatMap {f : Piece → List Char} {pre post : List Char}
    (hkept : ∀ d, f (.kept d) = [d]) (hfound : ∀ m, .found m ∈ ps → c ∉ f (.found m))
    (h : ps.flatMap f = pre ++ c :: post) :
    ∃ qs rs, ps = qs ++ .kept c :: rs ∧ qs.flatMap f = pre ∧ rs.flatMap f = post := by
  induction ps generalizing pre with
  | nil => simp at h
  | cons p ps ih =>
    have hrest : ∀ m, .found m ∈ ps → c ∉ f (.found m) :=
      fun m hm => hfound m (List.mem_cons_of_mem p hm)
    rw [List.flatMap_cons] at h
    rcases List.append_eq_append_iff.1 h with ⟨gap, rfl, hgap⟩ | ⟨inner, hinner, hpost⟩
    · obtain ⟨qs, rs, rfl, rfl, rfl⟩ := ih hrest hgap
      exact ⟨p :: qs, rs, rfl, List.flatMap_cons, rfl⟩
    · cases inner with
      | nil =>
        rw [List.append_nil] at hinner
        have hnil : ps.flatMap f = [] ++ c :: post := hpost.symm
        obtain ⟨qs, rs, rfl, hqs, rfl⟩ := ih hrest hnil
        exact ⟨p :: qs, rs, rfl, by rw [List.flatMap_cons, hqs, List.append_nil, hinner], rfl⟩
      | cons d inner =>
        obtain ⟨rfl, rfl⟩ := List.cons.inj hpost
        cases p with
        | kept d =>
          rw [hkept] at hinner
          obtain ⟨rfl, hd⟩ := List.append_eq_singleton_iff.1 hinner.symm |>.resolve_right (by simp)
          obtain ⟨rfl, rfl⟩ := List.cons.inj hd
          exact ⟨[], ps, rfl, rfl, rfl⟩
        | found m =>
          refine absurd ?_ (hfound m List.mem_cons_self)
          rw [hinner]
          simp

/-- A character of pieces with tokens in them is one of a token, or was there before. -/
theorem mem_writtenOf (h : c ∈ writtenOf token ps) : c ∈ token ∨ c ∈ charsOf ps := by
  obtain ⟨p, hp, hc⟩ := List.mem_flatMap.1 h
  cases p with
  | kept d => exact Or.inr (List.mem_flatMap.2 ⟨_, hp, hc⟩)
  | found m => exact Or.inl hc

/-- Pieces with nothing in place of stretches begin with a character if stretches come first,
and then that character. -/
theorem exists_found_kept {post : List Char} (h : writtenOf [] ps = c :: post) :
    ∃ (ms : List (List Char)) (qs : List Piece),
      ps = ms.map .found ++ .kept c :: qs ∧ writtenOf [] qs = post := by
  induction ps with
  | nil => cases h
  | cons p ps ih =>
    cases p with
    | kept d =>
      obtain ⟨rfl, rfl⟩ := List.cons.inj h
      exact ⟨[], ps, rfl, rfl⟩
    | found m =>
      obtain ⟨ms, qs, rfl, hqs⟩ := ih h
      exact ⟨m :: ms, qs, rfl, hqs⟩

/-- Between any two characters pieces can be parted, or there is a stretch across. -/
theorem exists_parts {xs ys : List Char} (h : charsOf ps = xs ++ ys) :
    (∃ qs rs, ps = qs ++ rs ∧ charsOf qs = xs ∧ charsOf rs = ys) ∨
      ∃ qs m m' rs, ps = qs ++ .found (m ++ m') :: rs ∧ m' ≠ [] ∧ ys = m' ++ charsOf rs := by
  induction ps generalizing xs with
  | nil =>
    obtain ⟨rfl, rfl⟩ := List.nil_eq_append_iff.1 h
    exact Or.inl ⟨[], [], rfl, rfl, rfl⟩
  | cons p ps ih =>
    rcases List.append_eq_append_iff.1 (show p.chars ++ charsOf ps = xs ++ ys from h) with
      ⟨gap, rfl, hgap⟩ | ⟨inner, hinner, rfl⟩
    · rcases ih hgap with ⟨qs, rs, rfl, rfl, rfl⟩ | ⟨qs, m, m', rs, rfl, hm', rfl⟩
      · exact Or.inl ⟨p :: qs, rs, rfl, rfl, rfl⟩
      · exact Or.inr ⟨p :: qs, m, m', rs, rfl, hm', rfl⟩
    · by_cases hnil : inner = []
      · subst hnil
        rw [List.append_nil] at hinner
        exact Or.inl ⟨[p], ps, rfl, by rw [← hinner]; exact List.append_nil _, rfl⟩
      · cases p with
        | kept d =>
          -- a single character has no place within it
          rcases List.append_eq_singleton_iff.1 hinner.symm with ⟨rfl, rfl⟩ | ⟨rfl, rfl⟩
          · exact Or.inl ⟨[], .kept d :: ps, rfl, rfl, rfl⟩
          · exact absurd rfl hnil
        | found m =>
          obtain rfl : m = xs ++ inner := hinner
          exact Or.inr ⟨[], xs, inner, ps, rfl, hnil, rfl⟩

/-- Whether a piece is a stretch. -/
def Piece.isFound : Piece → Bool
  | kept _ => false
  | found _ => true

/-- Where every stretch is longer than the token the text gets shorter by one
character for each, or more. -/
theorem length_writtenOf_add_le (h : ∀ m, .found m ∈ ps → token.length < m.length) :
    (writtenOf token ps).length + ps.countP Piece.isFound ≤ (charsOf ps).length := by
  induction ps with
  | nil => exact Nat.le_refl 0
  | cons p ps ih =>
    have hrest := ih fun m hm => h m (List.mem_cons_of_mem p hm)
    cases p with
    | kept c =>
      rw [writtenOf_kept, charsOf_kept, List.countP_cons_of_neg (by simp [Piece.isFound]),
        List.length_cons, List.length_cons]
      omega
    | found m =>
      have hm := h m List.mem_cons_self
      rw [writtenOf_found, charsOf_found, List.countP_cons_of_pos rfl, List.length_append,
        List.length_append]
      omega

theorem eq_map_kept (h : ∀ m, .found m ∉ ps) : ps = (charsOf ps).map .kept := by
  induction ps with
  | nil => rfl
  | cons p ps ih =>
    have hrest := ih fun m hm => h m (List.mem_cons_of_mem p hm)
    cases p with
    | kept c => rw [charsOf_kept, List.map_cons, ← hrest]
    | found m => exact absurd List.mem_cons_self (h m)

theorem charsOf_cut (rule : Rule) (before : Option Char) (cs : List Char) :
    charsOf (cut rule before cs) = cs := flatMap_chars_cut rule before cs

theorem replaceAll_eq (rule : Rule) (token cs : List Char) :
    replaceAll rule token cs = writtenOf token (cut rule none cs) := by
  unfold replaceAll writtenOf
  refine congrArg (List.flatMap · _) (funext fun p => ?_)
  cases p <;> rfl

/-! ## Where a text is cut -/

/-- A first piece that was kept: the rule found nothing there. -/
theorem cut_kept (h : cut rule before cs = .kept c :: ps) :
    (∀ n, rule before cs ≠ some (n + 1)) ∧ ps = cut rule (some c) (charsOf ps) := by
  cases cs with
  | nil => simp [cut] at h
  | cons d ds =>
    rw [cut] at h
    split at h
    · simp at h
    · rename_i hnone
      obtain ⟨hc, rfl⟩ := List.cons.inj h
      obtain rfl := Piece.kept.inj hc
      exact ⟨hnone, by rw [charsOf_cut]⟩

/-- Where the rule finds nothing a character is kept. -/
theorem cut_cons (h : ∀ n, rule before (c :: cs) ≠ some (n + 1)) :
    cut rule before (c :: cs) = .kept c :: cut rule (some c) cs := by
  rw [cut]
  split
  · rename_i n hn
    exact absurd hn (h n)
  · rfl

/-- A first piece that was found: the rule found just that. -/
theorem cut_found (h : cut rule before cs = .found m :: ps) :
    (∃ n, rule before cs = some (n + 1) ∧ m = cs.take (n + 1)) ∧
      ps = cut rule m.getLast? (charsOf ps) := by
  cases cs with
  | nil => simp [cut] at h
  | cons d ds =>
    rw [cut] at h
    split at h
    · rename_i n hn
      obtain ⟨hm, rfl⟩ := List.cons.inj h
      obtain rfl := Piece.found.inj hm
      exact ⟨⟨n, hn, rfl⟩, by rw [charsOf_cut]⟩
    · simp at h

theorem getLast?_append_or (xs ys : List Char) (before : Option Char) :
    (xs ++ ys).getLast?.or before = ys.getLast?.or (xs.getLast?.or before) := by
  rw [List.getLast?_append, Option.or_assoc]

/-- Cutting can be taken up again at any piece. -/
theorem cut_append (h : cut rule before cs = ps ++ qs) :
    qs = cut rule ((charsOf ps).getLast?.or before) (charsOf qs) := by
  induction ps generalizing before cs with
  | nil =>
    rw [List.nil_append] at h
    rw [← h, charsOf_cut]
    rfl
  | cons p ps ih =>
    cases p with
    | kept c =>
      have hrest := ih (cut_kept h).2.symm
      rw [charsOf_kept, ← List.singleton_append, getLast?_append_or]
      exact hrest
    | found m =>
      obtain ⟨⟨n, hn, hm⟩, hrest⟩ := cut_found h
      have hlast : m.getLast?.or before = m.getLast? := by
        cases cs with
        | nil => simp [cut] at h
        | cons d ds =>
          rw [hm, List.take_succ_cons]
          cases hlast : (d :: ds.take n).getLast? with
          | none => simp at hlast
          | some e => rfl
      rw [charsOf_found, getLast?_append_or, hlast]
      exact ih hrest.symm

/-- Characters are kept one by one as long as the rule finds nothing at any of them. -/
theorem cut_append_kept {rest : List Char}
    (h : ∀ xs c ys, m = xs ++ c :: ys → ∀ before n, rule before (c :: (ys ++ rest)) ≠ some (n + 1))
    (before : Option Char) :
    cut rule before (m ++ rest) = m.map .kept ++ cut rule (m.getLast?.or before) rest := by
  induction m generalizing before with
  | nil => rfl
  | cons c m ih =>
    have hrest := ih (fun xs d ys hm => h (c :: xs) d ys (by rw [hm, List.cons_append])) (some c)
    rw [List.cons_append, cut_cons (h [] c m rfl before), hrest, ← List.singleton_append (l := m),
      getLast?_append_or]
    rfl

/-- A stretch that the rule finds is a piece. -/
theorem cut_append_found {rest : List Char}
    (h : rule before (m ++ rest) = some m.length) (hm : m ≠ []) :
    cut rule before (m ++ rest) = .found m :: cut rule m.getLast? rest := by
  obtain ⟨c, m, rfl⟩ := List.exists_cons_of_ne_nil hm
  rw [List.cons_append, List.length_cons] at h
  rw [List.cons_append, cut]
  split
  · rename_i n hn
    rw [h] at hn
    obtain rfl : m.length = n := Nat.succ.inj (Option.some.inj hn)
    rw [List.take_left, List.drop_left]
  · rename_i hnone
    exact absurd h (hnone _)

/-- A stretch that a sound rule found fits its pattern. -/
theorem Rule.Sound.found (h : rule.Sound P) (hcut : cut rule before cs = ps ++ .found m :: qs) :
    P ((charsOf ps).getLast?.or before) m (charsOf qs).head? ∧ m ≠ [] := by
  obtain ⟨⟨n, hn, hm⟩, -⟩ := cut_found (cut_append hcut).symm
  rw [charsOf_found] at hn hm
  obtain ⟨m', post, hsplit, hlength, hfits⟩ := h _ _ _ hn
  have htake : (m' ++ post).take (n + 1) = m' := by rw [← hlength, List.take_left']; rfl
  obtain rfl : m = m' := by rw [hm, hsplit, htake]
  refine ⟨?_, ?_⟩
  · rw [List.append_cancel_left hsplit]
    exact hfits
  · rintro rfl
    simp at hlength

/-- What was found is not empty and fits the pattern of a sound rule. -/
theorem Rule.Sound.of_mem (h : rule.Sound P) (hm : .found m ∈ cut rule before cs) :
    (∃ b a, P b m a) ∧ m ≠ [] := by
  obtain ⟨ps, qs, hcut⟩ := List.append_of_mem hm
  obtain ⟨hfits, hm⟩ := h.found hcut
  exact ⟨⟨_, _, hfits⟩, hm⟩

/-- At a character that was kept nothing begins that fits the pattern of a complete rule. -/
theorem Rule.Complete.kept_at {post : List Char} (h : rule.Complete P)
    (hcut : cut rule before cs = ps ++ .kept c :: qs) (hsplit : c :: charsOf qs = m ++ post) :
    ¬ P ((charsOf ps).getLast?.or before) m post.head? := by
  intro hfits
  obtain ⟨n, hn⟩ := h _ _ _ hfits
  rw [← hsplit] at hn
  exact (cut_kept (cut_append hcut).symm).1 n hn

/-- Characters that were kept do not fit the pattern of a complete rule. -/
theorem Rule.Complete.kept (h : rule.Complete P) (hm : m ≠ [])
    (hcut : cut rule before cs = ps ++ (m.map .kept ++ qs)) :
    ¬ P ((charsOf ps).getLast?.or before) m (charsOf qs).head? := by
  cases m with
  | nil => exact absurd rfl hm
  | cons c m =>
    rw [List.map_cons, List.cons_append] at hcut
    refine h.kept_at hcut ?_
    rw [charsOf_append, charsOf_map_kept, List.cons_append]

/-- Where a stretch fits the pattern of a complete rule some stretch is found. -/
theorem Rule.Complete.exists_found (h : rule.Complete P) (hP : ∀ {b m a}, P b m a → m ≠ [])
    (hstands : P.StandsIn cs) : ∃ m, .found m ∈ cut rule none cs := by
  obtain ⟨pre, m, post, rfl, hfits⟩ := hstands
  refine Classical.byContradiction fun hnone => ?_
  have hkept : cut rule none (pre ++ (m ++ post)) =
      pre.map .kept ++ (m.map .kept ++ post.map .kept) := by
    rw [eq_map_kept fun m hm => hnone ⟨m, hm⟩, charsOf_cut, List.map_append, List.map_append]
  refine h.kept (hP hfits) hkept ?_
  rw [charsOf_map_kept, charsOf_map_kept, Option.or_none]
  exact hfits

/-- Where nothing fits the pattern nothing is found, and all is kept. -/
theorem cut_eq_map_kept (h : rule.Sound P) (hnone : ¬ P.StandsIn cs) :
    cut rule none cs = cs.map .kept := by
  have hkept : ∀ m, .found m ∉ cut rule none cs := by
    intro m hm
    obtain ⟨ps, qs, hcut⟩ := List.append_of_mem hm
    refine hnone ⟨charsOf ps, m, charsOf qs, ?_, ?_⟩
    · rw [← charsOf_found, ← charsOf_append, ← hcut, charsOf_cut]
    · have hfits := (h.found hcut).1
      rwa [Option.or_none] at hfits
  rw [eq_map_kept hkept, charsOf_cut]

/-- **A text in which nothing fits the pattern is left as it is.** -/
theorem replaceAll_eq_self (h : rule.Sound P) (hnone : ¬ P.StandsIn cs) (token : List Char) :
    replaceAll rule token cs = cs := by
  rw [replaceAll_eq, cut_eq_map_kept h hnone, writtenOf_map_kept]

end ShelterLine.Text
