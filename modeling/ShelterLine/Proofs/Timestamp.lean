import ShelterLine.Proofs.Calendar
import ShelterLine.Proofs.Numeral
import ShelterLine.Time.Rfc3339

/-!
# Instants and their texts

The text of an instant is read back as that instant, by the exact reader where a row was stored and
by the lenient one in JSON; six digits after the point lose what is less than a microsecond and
nothing else. All of this goes for years of four digits, in which texts have one width each: there
the order of stored texts is the order of the instants, leap seconds included.
-/

namespace ShelterLine.Instant

open Text Calendar

/-- Lies in the years 0 to 9999. -/
def FourDigitYear (t : Instant) : Prop :=
  0 ≤ (Date.ofDay t.day).year ∧ (Date.ofDay t.day).year ≤ 9999

instance (t : Instant) : Decidable t.FourDigitYear := inferInstanceAs (Decidable (_ ∧ _))

/-! ## Writing -/

/-- The fields of a text, in order. -/
theorem write_eq {t : Instant} (h : t.FourDigitYear) (p : Precision) :
    t.write p =
      padded 4 (Date.ofDay t.day).year.toNat ++ '-' :: (padded 2 (Date.ofDay t.day).month ++
        '-' :: (padded 2 (Date.ofDay t.day).day ++ 'T' :: (padded 2 (t.second / 3600) ++
          ':' :: (padded 2 (t.second / 60 % 60) ++
            ':' :: (padded 2 (t.second % 60 + t.nano / 1000000000) ++
              (writeFraction p (t.nano % 1000000000) ++ ['Z'])))))) := by
  have hyear : writeYear (Date.ofDay t.day).year =
      padded 4 (Date.ofDay t.day).year.toNat := if_pos h
  unfold write
  dsimp only
  rw [hyear]
  simp only [List.append_assoc, List.cons_append]

theorem FourDigitYear.toMicros {t : Instant} (h : t.FourDigitYear) : t.toMicros.FourDigitYear := h

/-- Six digits after the point say nothing of what is less than a microsecond. -/
theorem toStored_toMicros (t : Instant) : t.toMicros.toStored = t.toStored := by
  have hleap : t.toMicros.nano / 1000000000 = t.nano / 1000000000 := by
    change t.nano / 1000 * 1000 / 1000000000 = _
    omega
  have hfraction : t.toMicros.nano % 1000000000 / 1000 = t.nano % 1000000000 / 1000 := by
    change t.nano / 1000 * 1000 % 1000000000 / 1000 = _
    omega
  unfold toStored write writeFraction
  dsimp only
  rw [hleap, hfraction]
  rfl

/-! ## Reading fields -/

@[simp] theorem readChar_self (c : Char) (cs : List Char) : readChar c (c :: cs) = some cs :=
  if_pos rfl

theorem readSeparator_self (cs : List Char) : readSeparator ('T' :: cs) = some cs := rfl

/-- A reader goes on with what was read. -/
theorem bind_of_eq {α β : Type} {x : Option α} {a : α} {f : α → Option β} (h : x = some a) :
    (x >>= f) = f a := by
  rw [h]
  rfl

theorem takeWhile_padded (width n : Nat) (rest : List Char) :
    (padded width n ++ rest).takeWhile Char.isDigit =
      padded width n ++ rest.takeWhile Char.isDigit :=
  List.takeWhile_append_of_pos fun _ hc => padded_isDigit hc

theorem readNumber_padded {least width n : Nat} (hleast : least ≤ width) (hn : n < 10 ^ width)
    (rest : List Char) : readNumber least width (padded width n ++ rest) = some (n, rest) := by
  have hdigits : (padded width n).takeWhile Char.isDigit = padded width n := by
    simpa using takeWhile_padded width n []
  unfold readNumber
  dsimp only
  rw [List.take_left' (length_padded width n), hdigits, length_padded, if_neg (by omega),
    digitsValue_padded_of_lt hn, List.drop_left' (length_padded width n)]

theorem readFraction_padded {width n nano : Nat} (hpos : 0 < width) (hnine : width ≤ 9)
    (hn : n < 10 ^ width) (hnano : n * 10 ^ (9 - width) = nano) :
    readFraction ('.' :: (padded width n ++ ['Z'])) = some (nano, ['Z']) := by
  have hdigits : (padded width n ++ ['Z']).takeWhile Char.isDigit = padded width n := by
    rw [takeWhile_padded]
    simp
  have hne : padded width n ≠ [] := by
    intro hnil
    have hlength := length_padded width n
    rw [hnil, List.length_nil] at hlength
    omega
  have htake : (padded width n).take 9 = padded width n :=
    List.take_of_length_le (by rw [length_padded]; exact hnine)
  simp only [readFraction, hdigits, if_neg hne, htake, length_padded, digitsValue_padded_of_lt hn,
    List.drop_left' (length_padded width n), Nat.pow_eq, hnano]

/-- A precision that loses nothing of a fraction. -/
def Precision.Keeps : Precision → Nat → Prop
  | .shortest, _ => True
  | .micros, nano => nano % 1000 = 0

theorem readFraction_writeFraction {p : Precision} {nano : Nat} (hkeeps : p.Keeps nano)
    (hnano : nano < 1000000000) :
    readFraction (writeFraction p nano ++ ['Z']) = some (nano, ['Z']) := by
  cases p with
  | micros =>
    unfold Precision.Keeps at hkeeps
    change readFraction ('.' :: (padded 6 (nano / 1000) ++ ['Z'])) = _
    exact readFraction_padded (by decide) (by decide) (by omega) (by omega)
  | shortest =>
    unfold writeFraction
    dsimp only
    split
    · rename_i hzero
      rw [hzero]
      rfl
    · split
      · exact readFraction_padded (by decide) (by decide) (by omega) (by omega)
      · split
        · exact readFraction_padded (by decide) (by decide) (by omega) (by omega)
        · exact readFraction_padded (by decide) (by decide) (by omega) (by omega)

/-! ## Reading instants -/

theorem of?_eq_some (t : Instant) : of? t.day t.second t.nano = some t := by
  unfold of?
  rw [dif_pos t.second_lt, dif_pos t.nano_lt]

theorem addSeconds_zero (t : Instant) : t.addSeconds 0 = some t := by
  have hsecond := t.second_lt
  unfold addSeconds
  dsimp only
  rw [show (t.day * 86400 + t.second + 0) / 86400 = t.day by omega,
    show ((t.day * 86400 + t.second + 0) % 86400).toNat = t.second by omega]
  exact of?_eq_some t

theorem FourDigitYear.within {t : Instant} (h : t.FourDigitYear) :
    firstDay ≤ t.day ∧ t.day ≤ lastDay := by
  obtain ⟨hlow, hhigh⟩ := Date.daysBefore_toDay? (Date.toDay?_ofDay t.day)
  have hfirst := daysBefore_mono (a := -262143) (Int.le_trans (by decide) h.1)
  have hlast := daysBefore_mono (b := 262143)
    (Int.le_trans (Int.add_le_add_right h.2 1) (by decide))
  unfold firstDay lastDay
  omega

/-- The parts that are written give the instant back. -/
theorem toInstant?_parts {t : Instant} (h : t.FourDigitYear) :
    Parts.toInstant? ⟨((Date.ofDay t.day).year.toNat : Nat), (Date.ofDay t.day).month,
      (Date.ofDay t.day).day, t.second / 3600, t.second / 60 % 60,
      t.second % 60 + t.nano / 1000000000, t.nano % 1000000000⟩ 0 = some t := by
  have hsecond := t.second_lt
  have hnano := t.nano_lt
  have hyear : ((Date.ofDay t.day).year.toNat : Int) = (Date.ofDay t.day).year :=
    Int.toNat_of_nonneg h.1
  have hday : (Date.mk ((Date.ofDay t.day).year.toNat : Int) (Date.ofDay t.day).month
      (Date.ofDay t.day).day).toDay? = some t.day := by
    rw [hyear]
    exact Date.toDay?_ofDay t.day
  have hbounds := h.1
  have hbounds' := h.2
  -- the second that is read is the one that was written, also where it was written as 60
  have hclock : (if t.second % 60 + t.nano / 1000000000 = 60
        then (59, 1000000000 + t.nano % 1000000000)
        else (t.second % 60 + t.nano / 1000000000, t.nano % 1000000000)) =
      (t.second % 60, t.nano) := by
    split at hnano
    · split
      · exact Prod.ext (by dsimp only; omega) (by dsimp only; omega)
      · exact Prod.ext (by dsimp only; omega) (by dsimp only; omega)
    · rw [if_neg (by omega)]
      exact Prod.ext (by dsimp only; omega) (by dsimp only; omega)
  have hleap : t.nano / 1000000000 ≤ 1 ∧ (t.nano / 1000000000 = 1 → t.second % 60 = 59) := by
    split at hnano <;> omega
  unfold Parts.toInstant?
  dsimp only
  rw [if_neg (by simp; omega), if_neg (by simp; omega)]
  simp only [hday, hclock, Option.bind_eq_bind, Option.bind_some]
  rw [show t.second / 3600 * 3600 + t.second / 60 % 60 * 60 + t.second % 60 = t.second by omega,
    of?_eq_some, Option.bind_some, Int.neg_zero, addSeconds_zero, Option.bind_some,
    if_pos h.within]

/-- Every field fits its width. -/
theorem write_bounds {t : Instant} (h : t.FourDigitYear) :
    (Date.ofDay t.day).year.toNat < 10 ^ 4 ∧ (Date.ofDay t.day).month < 10 ^ 2 ∧
      (Date.ofDay t.day).day < 10 ^ 2 ∧ t.second / 3600 < 10 ^ 2 ∧ t.second / 60 % 60 < 10 ^ 2 ∧
      t.second % 60 + t.nano / 1000000000 < 10 ^ 2 := by
  have hsecond := t.second_lt
  have hnano := t.nano_lt
  have hleap : t.nano / 1000000000 ≤ 1 := by split at hnano <;> omega
  obtain ⟨hmonth, hday⟩ := Date.ofDay_bounds t.day
  have hyear := h.1
  have hyear' := h.2
  omega

/-- The exact reader takes one field after another. -/
theorem ofExact?_fields {year month day hour minute second nano : Nat} {fraction : List Char}
    (hyear : year < 10 ^ 4) (hmonth : month < 10 ^ 2) (hday : day < 10 ^ 2) (hhour : hour < 10 ^ 2)
    (hminute : minute < 10 ^ 2) (hsecond : second < 10 ^ 2)
    (hfraction : readFraction (fraction ++ ['Z']) = some (nano, ['Z'])) :
    ofExact? (padded 4 year ++ '-' :: (padded 2 month ++ '-' :: (padded 2 day ++
        'T' :: (padded 2 hour ++ ':' :: (padded 2 minute ++ ':' :: (padded 2 second ++
          (fraction ++ ['Z']))))))) =
      Parts.toInstant? ⟨year, month, day, hour, minute, second, nano⟩ 0 := by
  refine (bind_of_eq (readNumber_padded (Nat.le_refl 4) hyear _)).trans ?_
  refine (bind_of_eq (readChar_self '-' _)).trans ?_
  refine (bind_of_eq (readNumber_padded (Nat.le_refl 2) hmonth _)).trans ?_
  refine (bind_of_eq (readChar_self '-' _)).trans ?_
  refine (bind_of_eq (readNumber_padded (Nat.le_refl 2) hday _)).trans ?_
  refine (bind_of_eq (readSeparator_self _)).trans ?_
  refine (bind_of_eq (readNumber_padded (Nat.le_refl 2) hhour _)).trans ?_
  refine (bind_of_eq (readChar_self ':' _)).trans ?_
  refine (bind_of_eq (readNumber_padded (Nat.le_refl 2) hminute _)).trans ?_
  refine (bind_of_eq (readChar_self ':' _)).trans ?_
  refine (bind_of_eq (readNumber_padded (Nat.le_refl 2) hsecond _)).trans ?_
  exact (bind_of_eq hfraction).trans rfl

/-- **What the exact reader makes of a text that loses nothing.** -/
theorem ofExact?_write {t : Instant} (h : t.FourDigitYear) {p : Precision}
    (hkeeps : p.Keeps (t.nano % 1000000000)) : ofExact? (t.write p) = some t := by
  obtain ⟨hyear, hmonth, hday, hhour, hminute, hsecond⟩ := write_bounds h
  have hfraction := readFraction_writeFraction hkeeps (Nat.mod_lt _ (by decide))
  rw [write_eq h, ofExact?_fields hyear hmonth hday hhour hminute hsecond hfraction]
  exact toInstant?_parts h

/-- **A stored instant comes back without what is less than a microsecond.** -/
theorem ofStored_toStored {t : Instant} (h : t.FourDigitYear) :
    ofStored t.toStored = t.toMicros := by
  have hkeeps : Precision.micros.Keeps (t.toMicros.nano % 1000000000) := by
    change t.nano / 1000 * 1000 % 1000000000 % 1000 = 0
    omega
  rw [← toStored_toMicros]
  unfold ofStored toStored
  rw [String.toList_ofList, ofExact?_write h.toMicros hkeeps, Option.some_or, Option.getD_some]

theorem isBlank_digit {c : Char} (h : c.isDigit = true) : isBlank c = false := by
  have hrange : 48 ≤ c.toNat ∧ c.toNat ≤ 57 := by
    rw [Char.isDigit, Bool.and_eq_true, decide_eq_true_eq, decide_eq_true_eq, ge_iff_le,
      UInt32.le_iff_toNat_le, UInt32.le_iff_toNat_le] at h
    exact h
  simp only [isBlank, inRanges, blankRanges, List.any_cons, List.any_nil, Bool.or_false,
    Bool.or_eq_false_iff, Bool.and_eq_false_iff, decide_eq_false_iff_not]
  omega

theorem trimStart_padded {width n : Nat} (hpos : 0 < width) (rest : List Char) :
    trimStart (padded width n ++ rest) = padded width n ++ rest := by
  have hlength := length_padded width n
  cases hds : padded width n with
  | nil =>
    rw [hds, List.length_nil] at hlength
    omega
  | cons d ds =>
    have hdigit : d.isDigit = true := padded_isDigit (by rw [hds]; exact List.mem_cons_self)
    exact List.dropWhile_cons_of_neg (by rw [isBlank_digit hdigit]; exact Bool.false_ne_true)

theorem readTwo_padded {n : Nat} (hn : n < 10 ^ 2) (rest : List Char) :
    readTwo (padded 2 n ++ rest) = some (n, rest) := by
  unfold readTwo
  rw [trimStart_padded (by decide), readNumber_padded (by decide) hn]

theorem readYear_padded {n : Nat} (hn : n < 10 ^ 4) (rest : List Char) :
    readYear (padded 4 n ++ rest) = some ((n : Int), rest) := by
  have hread : readNumber 1 4 (padded 4 n ++ rest) = some (n, rest) :=
    readNumber_padded (by decide) hn rest
  have hlength := length_padded 4 n
  cases hds : padded 4 n with
  | nil =>
    rw [hds] at hlength
    simp at hlength
  | cons d ds =>
    have hdigit : d.isDigit = true := padded_isDigit (by rw [hds]; exact List.mem_cons_self)
    rw [hds] at hread
    unfold readYear
    split
    · rename_i heq
      obtain ⟨rfl, -⟩ := List.cons.inj heq
      simp at hdigit
    · rename_i heq
      obtain ⟨rfl, -⟩ := List.cons.inj heq
      simp at hdigit
    · rw [hread]
      rfl

theorem trimStart_cons {c : Char} (h : isBlank c = false) (cs : List Char) :
    trimStart (c :: cs) = c :: cs :=
  List.dropWhile_cons_of_neg (by rw [h]; exact Bool.false_ne_true)

/-- The lenient reader takes one field after another, and finds nothing to pass over. -/
theorem ofLenient?_fields {year month day hour minute second nano : Nat} {fraction : List Char}
    (hyear : year < 10 ^ 4) (hmonth : month < 10 ^ 2) (hday : day < 10 ^ 2) (hhour : hour < 10 ^ 2)
    (hminute : minute < 10 ^ 2) (hsecond : second < 10 ^ 2)
    (hfraction : readFraction (fraction ++ ['Z']) = some (nano, ['Z'])) :
    ofLenient? (padded 4 year ++ '-' :: (padded 2 month ++ '-' :: (padded 2 day ++
        'T' :: (padded 2 hour ++ ':' :: (padded 2 minute ++ ':' :: (padded 2 second ++
          (fraction ++ ['Z']))))))) =
      Parts.toInstant? ⟨year, month, day, hour, minute, second, nano⟩ 0 := by
  have hhyphen : isBlank '-' = false := by decide
  have hcolon : isBlank ':' = false := by decide
  have hzone : trimStart ['Z'] = ['Z'] := by decide
  simp only [ofLenient?, readDate, readClock, trimStart_padded (show 0 < 4 by decide),
    readYear_padded hyear, readTwo_padded hmonth, readTwo_padded hday, readTwo_padded hhour,
    readTwo_padded hminute, readTwo_padded hsecond, trimStart_cons hhyphen, trimStart_cons hcolon,
    Option.bind_eq_bind, Option.bind_some, readChar_self, readSeparator, hfraction, hzone, readZone,
    readOffset, isBlankText, List.all_nil, ↓reduceIte]

/-- **An instant is read from its text.** -/
theorem ofString?_toString {t : Instant} (h : t.FourDigitYear) : ofString? t.toString = some t := by
  obtain ⟨hyear, hmonth, hday, hhour, hminute, hsecond⟩ := write_bounds h
  have hkeeps : Precision.shortest.Keeps (t.nano % 1000000000) := trivial
  have hfraction := readFraction_writeFraction hkeeps (Nat.mod_lt _ (by decide))
  unfold ofString? toString
  rw [String.toList_ofList, write_eq h,
    ofLenient?_fields hyear hmonth hday hhour hminute hsecond hfraction]
  exact toInstant?_parts h

/-! ## Order -/

theorem le_iff {a b : Instant} : a ≤ b ↔
    a.day < b.day ∨ a.day = b.day ∧ (a.second < b.second ∨ a.second = b.second ∧ a.nano ≤ b.nano) :=
  Iff.rfl

theorem not_le {a b : Instant} : ¬ a ≤ b ↔
    b.day < a.day ∨ b.day = a.day ∧
      (b.second < a.second ∨ b.second = a.second ∧ b.nano < a.nano) := by
  rw [le_iff]
  omega

theorem le_total (a b : Instant) : a ≤ b ∨ b ≤ a := by
  rw [le_iff, le_iff]
  omega

theorem le_refl (a : Instant) : a ≤ a := (le_total a a).elim id id

theorem le_trans {a b c : Instant} (h : a ≤ b) (h' : b ≤ c) : a ≤ c := by
  rw [le_iff] at *
  omega

theorem le_antisymm {a b : Instant} (h : a ≤ b) (h' : b ≤ a) : a = b := by
  rw [le_iff] at h h'
  obtain ⟨day, second, nano, hs, hn⟩ := a
  obtain ⟨day', second', nano', hs', hn'⟩ := b
  dsimp only at h h'
  obtain ⟨rfl, rfl, rfl⟩ : day = day' ∧ second = second' ∧ nano = nano' := by omega
  rfl

theorem toMicros_le {a b : Instant} (h : a ≤ b) : a.toMicros ≤ b.toMicros := by
  rw [le_iff] at *
  change a.day < b.day ∨ a.day = b.day ∧ (a.second < b.second ∨ a.second = b.second ∧
    a.nano / 1000 * 1000 ≤ b.nano / 1000 * 1000)
  omega

/-- Instants that differ also when they are cut to microseconds are in the order in
which they are then. -/
theorem le_of_toMicros_le {a b : Instant} (h : a.toMicros ≤ b.toMicros)
    (hdistinct : a.toMicros = b.toMicros → a = b) : a ≤ b := by
  refine (le_total a b).elim id fun hba => ?_
  rw [hdistinct (le_antisymm h (toMicros_le hba))]
  exact (le_total b b).elim id id

theorem padded_append_lt {width m n : Nat} {cs ds : List Char} (hn : n < 10 ^ width)
    (h : m < n ∨ m = n ∧ cs < ds) : padded width m ++ cs < padded width n ++ ds := by
  rw [append_lt_append_iff (by simp)]
  rcases h with hlt | ⟨rfl, hlt⟩
  · exact Or.inl (padded_lt_padded hn hlt)
  · exact Or.inr ⟨rfl, hlt⟩

theorem cons_lt_cons {c : Char} {cs ds : List Char} (h : cs < ds) : c :: cs < c :: ds :=
  List.cons_lt_cons_iff.2 (Or.inr ⟨rfl, h⟩)

/-- The later of two instants has the greater text. -/
theorem toStored_lt {a b : Instant} (ha : a.FourDigitYear) (hb : b.FourDigitYear)
    (h : ¬ b.toMicros ≤ a.toMicros) : a.toStored < b.toStored := by
  obtain ⟨hyear, hmonth, hday, hhour, hminute, hsecond⟩ := write_bounds hb
  have hsecond_lt := b.second_lt
  have hlow := ha.1
  have hlow' := hb.1
  rw [not_le] at h
  change a.day < b.day ∨ a.day = b.day ∧ (a.second < b.second ∨ a.second = b.second ∧
    a.nano / 1000 * 1000 < b.nano / 1000 * 1000) at h
  unfold toStored
  rw [String.lt_iff, String.toList_ofList, String.toList_ofList, write_eq ha, write_eq hb]
  rcases h with hdays | ⟨hdays, hclock⟩
  · -- the dates differ, so one of their fields decides
    have hbefore := Date.before_ofDay hdays
    refine padded_append_lt hyear ?_
    rcases hbefore with hlt | ⟨heq, hrest⟩
    · exact Or.inl (by omega)
    · refine Or.inr ⟨by rw [heq], cons_lt_cons (padded_append_lt hmonth ?_)⟩
      rcases hrest with hlt | ⟨heq', hlt⟩
      · exact Or.inl hlt
      · exact Or.inr ⟨heq', cons_lt_cons (padded_append_lt hday (Or.inl hlt))⟩
  · -- on one day the clock decides, and a leap second comes after the second before it
    rw [hdays]
    have hleap := a.nano_lt
    have hleap' := b.nano_lt
    refine padded_append_lt hyear (Or.inr ⟨rfl, cons_lt_cons (padded_append_lt hmonth (Or.inr ⟨rfl,
      cons_lt_cons (padded_append_lt hday
        (Or.inr ⟨rfl, cons_lt_cons (padded_append_lt hhour ?_)⟩))⟩))⟩)
    by_cases hhours : a.second / 3600 < b.second / 3600
    · exact Or.inl hhours
    · refine Or.inr ⟨by omega, cons_lt_cons (padded_append_lt hminute ?_)⟩
      by_cases hminutes : a.second / 60 % 60 < b.second / 60 % 60
      · exact Or.inl hminutes
      · refine Or.inr ⟨by omega, cons_lt_cons (padded_append_lt hsecond ?_)⟩
        by_cases hseconds :
            a.second % 60 + a.nano / 1000000000 < b.second % 60 + b.nano / 1000000000
        · exact Or.inl hseconds
        · have hsame : a.second = b.second := by split at hleap <;> omega
          refine Or.inr ⟨by omega, ?_⟩
          change '.' :: padded 6 (a.nano % 1000000000 / 1000) ++ ['Z'] <
            '.' :: padded 6 (b.nano % 1000000000 / 1000) ++ ['Z']
          rw [List.cons_append, List.cons_append]
          exact cons_lt_cons (padded_append_lt (by omega) (Or.inl (by omega)))

/-- **The order of stored texts is the order of the instants that they keep.** -/
theorem toStored_le_iff {a b : Instant} (ha : a.FourDigitYear) (hb : b.FourDigitYear) :
    a.toStored ≤ b.toStored ↔ a.toMicros ≤ b.toMicros := by
  constructor
  · intro hle
    refine Classical.byContradiction fun hnot => ?_
    exact String.not_le.2 (toStored_lt hb ha hnot) hle
  · intro hle
    refine Classical.byContradiction fun hnot => ?_
    by_cases hge : b.toMicros ≤ a.toMicros
    · -- the same instant has the same text
      have hsame := le_antisymm hle hge
      rw [← toStored_toMicros a, hsame, toStored_toMicros] at hnot
      exact hnot (String.le_refl _)
    · exact String.lt_asymm (toStored_lt ha hb hge) (String.not_le.1 hnot)

end ShelterLine.Instant
