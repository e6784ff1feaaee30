import ShelterLine.Text.Blank

/-!
# Blanks around a text

Trimming takes blanks away at both ends and nothing else, until no end is blank. There are few
blanks, so what is said of all of them can be tried out.
-/

namespace ShelterLine.Text

variable {cs bs bs' phrase : List Char} {p : Char → Bool} {c : Char}

/-- What all code points of a table pass all characters of it pass. -/
theorem forall_inRanges {runs : List (Nat × Nat)}
    (h : (runs.all fun r => (List.range' r.1 (r.2 + 1 - r.1)).all fun n => p (Char.ofNat n)) = true)
    (hc : inRanges runs c) : p c := by
  obtain ⟨r, hr, hrange⟩ := List.any_eq_true.1 hc
  simp only [Bool.and_eq_true, decide_eq_true_eq] at hrange
  have hmem : c.toNat ∈ List.range' r.1 (r.2 + 1 - r.1) := List.mem_range'_1.2 ⟨hrange.1, by omega⟩
  have hpass := List.all_eq_true.1 (List.all_eq_true.1 h r hr) c.toNat hmem
  rwa [Char.ofNat_toNat] at hpass

/-! ## Trimming -/

/-- No blank at the beginning. -/
def StartsPlain (cs : List Char) : Prop := ∀ c, cs.head? = some c → isBlank c = false

/-- No blank at the end. -/
def EndsPlain (cs : List Char) : Prop := ∀ c, cs.getLast? = some c → isBlank c = false

theorem startsPlain_of_head (h : cs.head? = some c) (hc : isBlank c = false) : StartsPlain cs := by
  intro d hd
  rw [h] at hd
  obtain rfl := Option.some.inj hd
  exact hc

theorem endsPlain_of_last (h : cs.getLast? = some c) (hc : isBlank c = false) : EndsPlain cs := by
  intro d hd
  rw [h] at hd
  obtain rfl := Option.some.inj hd
  exact hc

theorem startsPlain_trimStart (cs : List Char) : StartsPlain (trimStart cs) := by
  intro c hc
  have hhead := List.head?_dropWhile_not isBlank cs
  unfold trimStart at hc
  rw [hc] at hhead
  exact hhead

/-- Blanks at the end are taken away, all of them and nothing else. -/
theorem trimEnd_spec (cs : List Char) :
    (∃ bs, cs = trimEnd cs ++ bs ∧ ∀ b ∈ bs, isBlank b) ∧ EndsPlain (trimEnd cs) := by
  induction cs with
  | nil => exact ⟨⟨[], rfl, List.forall_mem_nil _⟩, fun c hc => by cases hc⟩
  | cons c cs ih =>
    obtain ⟨⟨bs, hcs, hbs⟩, hend⟩ := ih
    unfold trimEnd
    split
    · rename_i hnil
      rw [hnil, List.nil_append] at hcs
      subst hcs
      split
      · rename_i hc
        exact ⟨⟨c :: cs, rfl, List.forall_mem_cons.2 ⟨hc, hbs⟩⟩, fun d hd => by cases hd⟩
      · rename_i hc
        refine ⟨⟨cs, rfl, hbs⟩, fun d hd => ?_⟩
        obtain rfl := Option.some.inj hd
        exact Bool.eq_false_iff.2 hc
    · rename_i d ds hcons
      rw [hcons] at hcs hend
      exact ⟨⟨bs, by rw [List.cons_append, ← hcs], hbs⟩, hend⟩

theorem endsPlain_trim (cs : List Char) : EndsPlain (trim cs) := (trimEnd_spec _).2

/-- Trimming takes away blanks on either side. -/
theorem exists_trim (cs : List Char) : ∃ bs bs', cs = bs ++ (trim cs ++ bs') ∧
    (∀ b ∈ bs, isBlank b) ∧ ∀ b ∈ bs', isBlank b := by
  obtain ⟨⟨bs', hend, hbs'⟩, -⟩ := trimEnd_spec (trimStart cs)
  refine ⟨cs.takeWhile isBlank, bs', ?_, fun b hb => List.all_eq_true.1 List.all_takeWhile b hb,
    hbs'⟩
  unfold trim
  rw [← hend]
  exact List.takeWhile_append_dropWhile.symm

theorem trim_within (cs : List Char) : trim cs <:+: cs := by
  obtain ⟨bs, bs', hcs, -⟩ := exists_trim cs
  exact ⟨bs, bs', by rw [List.append_assoc, ← hcs]⟩

theorem mem_of_mem_trim (h : c ∈ trim cs) : c ∈ cs := (trim_within cs).subset h

/-- Only blanks are trimmed. -/
theorem mem_trim (h : c ∈ cs) (hblank : isBlank c = false) : c ∈ trim cs := by
  obtain ⟨bs, bs', hcs, hbs, hbs'⟩ := exists_trim cs
  rw [hcs, List.mem_append, List.mem_append] at h
  rcases h with hc | hc | hc
  · exact absurd (hbs c hc) (by rw [hblank]; exact Bool.false_ne_true)
  · exact hc
  · exact absurd (hbs' c hc) (by rw [hblank]; exact Bool.false_ne_true)

theorem startsPlain_trim (cs : List Char) : StartsPlain (trim cs) := by
  obtain ⟨⟨bs, hend, -⟩, -⟩ := trimEnd_spec (trimStart cs)
  intro c hc
  refine startsPlain_trimStart cs c ?_
  unfold trim at hc
  rw [hend, List.head?_append, hc]
  rfl

theorem trimStart_eq_self (h : StartsPlain cs) : trimStart cs = cs := by
  cases cs with
  | nil => rfl
  | cons c cs => exact List.dropWhile_cons_of_neg (by rw [h c rfl]; exact Bool.false_ne_true)

theorem trimEnd_eq_self (h : EndsPlain cs) : trimEnd cs = cs := by
  obtain ⟨⟨bs, hcs, hbs⟩, -⟩ := trimEnd_spec cs
  have hnil : bs = [] := by
    cases hlast : bs.getLast? with
    | none => exact List.getLast?_eq_none_iff.1 hlast
    | some b =>
      have hb := hbs b (List.mem_of_getLast? hlast)
      rw [h b (by rw [hcs, List.getLast?_append, hlast]; rfl)] at hb
      cases hb
  rw [hnil, List.append_nil] at hcs
  exact hcs.symm

/-- A text with no blank at either end is left as it is. -/
theorem trim_eq_self (hstart : StartsPlain cs) (hend : EndsPlain cs) : trim cs = cs := by
  unfold trim
  rw [trimStart_eq_self hstart, trimEnd_eq_self hend]

theorem trimStart_blanks_append (hbs : ∀ b ∈ bs, isBlank b) (cs : List Char) :
    trimStart (bs ++ cs) = trimStart cs := List.dropWhile_append_of_pos hbs

theorem trimEnd_append_blanks (hbs : ∀ b ∈ bs, isBlank b) (cs : List Char) :
    trimEnd (cs ++ bs) = trimEnd cs := by
  induction cs with
  | nil => exact trimEnd_of_all hbs
  | cons c cs ih => rw [List.cons_append, trimEnd, ih, trimEnd]

/-- Of a text between blanks it is the text that is left. -/
theorem trim_between_blanks (hbs : ∀ b ∈ bs, isBlank b) (hbs' : ∀ b ∈ bs', isBlank b)
    (hstart : StartsPlain cs) (hend : EndsPlain cs) : trim (bs ++ (cs ++ bs')) = cs := by
  unfold trim
  rw [trimStart_blanks_append hbs]
  cases cs with
  | nil => exact trimEnd_of_all fun b hb => hbs' b ((List.dropWhile_sublist isBlank).mem hb)
  | cons c cs =>
    have hplain : StartsPlain (c :: cs ++ bs') := startsPlain_of_head rfl (hstart c rfl)
    rw [trimStart_eq_self hplain, trimEnd_append_blanks hbs', trimEnd_eq_self hend]

/-! ## Phrases between blanks -/

/-- A phrase that ends with no blank does not reach into the blanks after a text. -/
theorem infix_append_blanks (hbs : ∀ b ∈ bs, isBlank b) (hplain : EndsPlain phrase) :
    phrase <:+: cs ++ bs ↔ phrase <:+: cs := by
  refine ⟨?_, fun h => h.trans (List.prefix_append cs bs).isInfix⟩
  rintro ⟨pre, post, hsplit⟩
  rcases List.append_eq_append_iff.1 hsplit with ⟨gap, hcs, -⟩ | ⟨beyond, hphrase, hblanks⟩
  · exact ⟨pre, gap, hcs.symm⟩
  · cases hlast : beyond.getLast? with
    | none =>
      rw [List.getLast?_eq_none_iff.1 hlast, List.append_nil] at hphrase
      exact ⟨pre, [], by rw [hphrase, List.append_nil]⟩
    | some b =>
      -- the phrase would end with a blank
      have hb : isBlank b := hbs b (by
        rw [hblanks]
        exact List.mem_append_left _ (List.mem_of_getLast? hlast))
      have hends := congrArg List.getLast? hphrase
      rw [List.getLast?_append, List.getLast?_append, hlast, Option.some_or] at hends
      cases hfinal : phrase.getLast? with
      | none =>
        rw [List.getLast?_eq_none_iff.1 hfinal]
        exact List.nil_infix
      | some d =>
        rw [hfinal, Option.some_or] at hends
        obtain rfl := Option.some.inj hends
        rw [hplain d hfinal] at hb
        cases hb

/-- A phrase that begins with no blank does not reach into the blanks before a text. -/
theorem infix_blanks_append (hbs : ∀ b ∈ bs, isBlank b) (hplain : StartsPlain phrase) :
    phrase <:+: bs ++ cs ↔ phrase <:+: cs := by
  have hreverse : ∀ b ∈ bs.reverse, isBlank b := fun b hb => hbs b (List.mem_reverse.1 hb)
  have hends : EndsPlain phrase.reverse :=
    fun c hc => hplain c (by rwa [List.getLast?_reverse] at hc)
  rw [← List.reverse_infix, List.reverse_append, infix_append_blanks hreverse hends,
    List.reverse_infix]

/-- A phrase with no blank at either end stands between blanks just if it stands in
what they surround. -/
theorem infix_between_blanks (hbs : ∀ b ∈ bs, isBlank b) (hbs' : ∀ b ∈ bs', isBlank b)
    (hstart : StartsPlain phrase) (hend : EndsPlain phrase) :
    phrase <:+: bs ++ (cs ++ bs') ↔ phrase <:+: cs := by
  rw [infix_blanks_append hbs hstart, infix_append_blanks hbs' hend]

/-- Such a phrase is not lost when the text is trimmed. -/
theorem infix_trim_iff (hstart : StartsPlain phrase) (hend : EndsPlain phrase) :
    phrase <:+: trim cs ↔ phrase <:+: cs := by
  obtain ⟨bs, bs', hcs, hbs, hbs'⟩ := exists_trim cs
  rw [← infix_between_blanks hbs hbs' hstart hend, ← hcs]

end ShelterLine.Text
