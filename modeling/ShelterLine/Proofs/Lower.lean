import ShelterLine.Proofs.Blank
import ShelterLine.Text.Lower
import ShelterLine.Text.Search

/-!
# Lower case, and phrases in it

How a letter is put into lower case depends on its neighbours only where a word may end, and
blanks say the same there as the ends of the text. So the blanks around a text may be taken away
before it is put into lower case or afterwards, and a phrase that begins and ends with no blank is
found in both or in neither.

Only `Σ` and `İ` are put into lower case otherwise than by themselves, and what they become is not
in ASCII but for an `i`. So whether a phrase in ASCII that does not end in this letter is found in a
text does not depend on what is written around the place where it is found.
-/

namespace ShelterLine.Text

variable {cs bs bs' before phrase : List Char} {c : Char} {phrases : List String}

/-! ## Lower case between blanks -/

/-- Blanks have no case and end words. -/
theorem caseless_of_isBlank (h : isBlank c) :
    isCaseless c = false ∧ isCased c = false ∧ lowerChar c = c ∧ c ≠ 'Σ' ∧ c ≠ 'İ' := by
  have hall : ∀ c, isBlank c → (!isCaseless c && !isCased c && lowerChar c == c && !(c == 'Σ') &&
      !(c == 'İ')) = true :=
    fun c hc => forall_inRanges (p := fun c => !isCaseless c && !isCased c && lowerChar c == c &&
      !(c == 'Σ') && !(c == 'İ')) (by decide +kernel) hc
  simpa [and_assoc] using hall c h

theorem casedNext_append_blanks (hbs : ∀ b ∈ bs, isBlank b) (cs : List Char) :
    casedNext (cs ++ bs) = casedNext cs := by
  unfold casedNext
  rw [List.find?_append]
  cases hfind : cs.find? fun c => !isCaseless c with
  | some c => rfl
  | none =>
    cases bs with
    | nil => rfl
    | cons b bs =>
      obtain ⟨hcaseless, hcased, -⟩ := caseless_of_isBlank (hbs b List.mem_cons_self)
      simp [hcaseless, hcased]

/-- Blanks in front of a text stay as they are. -/
theorem lowerAfter_blanks_append (hbs : ∀ b ∈ bs, isBlank b) (before cs : List Char) :
    lowerAfter before (bs ++ cs) = bs ++ lowerAfter (bs.reverse ++ before) cs := by
  induction bs generalizing before with
  | nil => rfl
  | cons b bs ih =>
    obtain ⟨hb, hbs⟩ := List.forall_mem_cons.1 hbs
    obtain ⟨-, -, hlower, hsigma, hdotted⟩ := caseless_of_isBlank hb
    rw [List.cons_append, lowerAfter, ih hbs, lowerBetween, if_neg hsigma, if_neg hdotted, hlower]
    simp

theorem lowerAfter_append_blanks (hbs : ∀ b ∈ bs, isBlank b) (before cs : List Char) :
    lowerAfter before (cs ++ bs) = lowerAfter before cs ++ bs := by
  induction cs generalizing before with
  | nil =>
    have hblanks := lowerAfter_blanks_append hbs before []
    rwa [List.append_nil, lowerAfter, List.append_nil] at hblanks
  | cons c cs ih =>
    rw [List.cons_append, lowerAfter, ih, lowerAfter, lowerBetween, lowerBetween,
      casedNext_append_blanks hbs, List.append_assoc]

/-- Blanks that came before make no difference. -/
theorem lowerAfter_after_blanks (hbs : ∀ b ∈ bs, isBlank b) (before cs : List Char) :
    lowerAfter (before ++ bs) cs = lowerAfter before cs := by
  induction cs generalizing before with
  | nil => rfl
  | cons c cs ih =>
    rw [lowerAfter, lowerAfter, ← List.cons_append, ih, lowerBetween, lowerBetween,
      casedNext_append_blanks hbs]

/-- **Blanks around a text stay as they are, and what is between them does not depend on them.** -/
theorem lower_between_blanks (hbs : ∀ b ∈ bs, isBlank b) (hbs' : ∀ b ∈ bs', isBlank b)
    (cs : List Char) :
    lower (bs ++ (cs ++ bs')) = bs ++ (lower cs ++ bs') := by
  have hreverse : ∀ b ∈ bs.reverse, isBlank b := fun b hb => hbs b (List.mem_reverse.1 hb)
  have hbefore := lowerAfter_after_blanks hreverse [] cs
  rw [List.nil_append] at hbefore
  unfold lower
  rw [lowerAfter_blanks_append hbs, List.append_nil, lowerAfter_append_blanks hbs', hbefore]

/-! ## Phrases between blanks -/

theorem mentions_iff {text : List Char} :
    mentions phrases text = true ↔ ∃ p ∈ phrases, p.toList <:+: text := by
  unfold mentions
  rw [List.any_eq_true]
  simp only [occurs_iff_isInfix]

/-- **Phrases without blanks at their ends are found in a text whether it was trimmed or not.** -/
theorem mentions_lower_trim (hplain : ∀ p ∈ phrases, StartsPlain p.toList ∧ EndsPlain p.toList)
    (cs : List Char) : mentions phrases (lower (trim cs)) = mentions phrases (lower cs) := by
  obtain ⟨bs, bs', hcs, hbs, hbs'⟩ := exists_trim cs
  have hlower : lower cs = bs ++ (lower (trim cs) ++ bs') := by
    rw [← lower_between_blanks hbs hbs', ← hcs]
  rw [Bool.eq_iff_iff, mentions_iff, mentions_iff, hlower]
  refine exists_congr fun p => and_congr_right fun hp => ?_
  rw [infix_between_blanks hbs hbs' (hplain p hp).1 (hplain p hp).2]

/-! ## Phrases letter by letter -/

/-- All in ASCII, and no `i` at the end: a phrase that cannot hold what `Σ` and `İ` become. -/
def Letterwise (phrase : List Char) : Prop :=
  phrase.all (·.toNat < 0x80) = true ∧ phrase.getLast? ≠ some 'i'

instance (phrase : List Char) : Decidable (Letterwise phrase) :=
  inferInstanceAs (Decidable (_ ∧ _))

theorem Letterwise.tail (h : Letterwise (c :: phrase)) : Letterwise phrase := by
  obtain ⟨hascii, hlast⟩ := h
  rw [List.all_cons, Bool.and_eq_true] at hascii
  refine ⟨hascii.2, fun hi => hlast ?_⟩
  rw [List.getLast?_cons, hi]
  rfl

theorem Letterwise.head_ne (h : Letterwise (c :: phrase)) {d : Char} (hd : 0x80 ≤ d.toNat) :
    c ≠ d := by
  rintro rfl
  have hascii := List.all_eq_true.1 h.1 c List.mem_cons_self
  simp at hascii
  omega

/-- `Σ` and `İ` apart a character is put into lower case whatever its neighbours are. -/
theorem lowerBetween_plain (hsigma : c ≠ 'Σ') (hdotted : c ≠ 'İ') (before after : List Char) :
    lowerBetween before c after = [lowerChar c] := by
  unfold lowerBetween
  rw [if_neg hsigma, if_neg hdotted]

/-- `Σ` becomes one of two characters, neither of them in ASCII. -/
theorem lowerBetween_sigma (before after : List Char) :
    ∃ s : Char, 0x80 ≤ s.toNat ∧ lowerBetween before 'Σ' after = [s] := by
  unfold lowerBetween
  rw [if_pos rfl]
  split
  · exact ⟨'ς', by decide, rfl⟩
  · exact ⟨'σ', by decide, rfl⟩

theorem lowerBetween_dotted (before after : List Char) :
    lowerBetween before 'İ' after = ['i', '\u0307'] := rfl

theorem prefix_lowerAfter_iff (h : Letterwise phrase) (before cs : List Char) :
    phrase <+: lowerAfter before cs ↔ phrase <+: cs.map lowerChar := by
  induction cs generalizing before phrase with
  | nil => exact Iff.rfl
  | cons c cs ih =>
    cases phrase with
    | nil => exact iff_of_true List.nil_prefix List.nil_prefix
    | cons p ps =>
      rw [lowerAfter, List.map_cons, List.cons_prefix_cons]
      by_cases hsigma : c = 'Σ'
      · subst hsigma
        obtain ⟨s, hs, hlower⟩ := lowerBetween_sigma before cs
        rw [hlower, List.singleton_append, List.cons_prefix_cons]
        exact iff_of_false (fun hp => h.head_ne hs hp.1) fun hp =>
          h.head_ne (by decide +kernel) hp.1
      · by_cases hdotted : c = 'İ'
        · subst hdotted
          rw [lowerBetween_dotted, List.cons_append, List.cons_prefix_cons]
          refine iff_of_false ?_ fun hp => h.head_ne (by decide +kernel) hp.1
          rintro ⟨rfl, hps⟩
          -- after the `i` the phrase would have to end or to go on with the dot
          cases ps with
          | nil => exact h.2 rfl
          | cons q qs =>
            rw [List.singleton_append, List.cons_prefix_cons] at hps
            exact h.tail.head_ne (by decide) hps.1
        · rw [lowerBetween_plain hsigma hdotted, List.singleton_append,
            List.cons_prefix_cons, ih h.tail]

/-- **Such a phrase stands in the lower case of a text just if it stands in the text of which each
character was put into lower case by itself.** -/
theorem infix_lower_iff (h : Letterwise phrase) (cs : List Char) :
    phrase <:+: lower cs ↔ phrase <:+: cs.map lowerChar := by
  unfold lower
  generalize [] = before
  induction cs generalizing before with
  | nil => exact Iff.rfl
  | cons c cs ih =>
    have hhere := prefix_lowerAfter_iff h before (c :: cs)
    rw [List.map_cons, List.infix_cons_iff, ← List.map_cons, ← hhere, ← ih (c :: before)]
    rw [lowerAfter] at hhere ⊢
    by_cases hdotted : c = 'İ'
    · subst hdotted
      rw [lowerBetween_dotted, List.cons_append, List.singleton_append, List.infix_cons_iff,
        List.infix_cons_iff]
      refine or_congr_right (or_iff_right_of_imp fun hdot => ?_)
      -- nothing but the empty phrase begins with the dot
      cases phrase with
      | nil => exact List.nil_infix
      | cons p ps => exact absurd (List.cons_prefix_cons.1 hdot).1 (h.head_ne (by decide))
    · obtain ⟨s, hlower⟩ : ∃ s, lowerBetween before c cs = [s] := by
        by_cases hsigma : c = 'Σ'
        · subst hsigma
          obtain ⟨s, -, hlower⟩ := lowerBetween_sigma before cs
          exact ⟨s, hlower⟩
        · exact ⟨_, lowerBetween_plain hsigma hdotted before cs⟩
      rw [hlower, List.singleton_append, List.infix_cons_iff]

/-- A letter of ASCII has the same lower case in either case. -/
theorem lowerChar_toLower (c : Char) : lowerChar c.toLower = lowerChar c := by
  by_cases hascii : c.toNat < 0x80
  · have hall : ∀ n < 0x80, lowerChar (Char.ofNat n).toLower = lowerChar (Char.ofNat n) := by
      decide +kernel
    have hc := hall c.toNat hascii
    rwa [Char.ofNat_toNat] at hc
  · have hsame : c.toLower = c := by
      unfold Char.toLower
      refine dif_neg fun hupper => hascii ?_
      have hle := UInt32.le_iff_toNat_le.1 hupper.2
      exact Nat.lt_of_le_of_lt hle (by decide)
    rw [hsame]

end ShelterLine.Text
