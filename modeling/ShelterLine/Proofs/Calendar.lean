import ShelterLine.Time.Calendar

/-!
# Days and dates

A day lies in one year, because a year begins where the one before it ends, and within the year in
one month. So a date says which day it is of, and dates are ordered as their days are.
-/

namespace ShelterLine.Calendar

/-! ## Years -/

theorem daysBefore_succ (year : Int) :
    daysBefore (year + 1) = daysBefore year + if isLeap year then 366 else 365 := by
  unfold daysBefore isLeap
  by_cases h4 : year % 4 = 0
  · by_cases h100 : year % 100 = 0
    · by_cases h400 : year % 400 = 0
      · simp [h4, h100, h400]
        omega
      · simp [h4, h100, h400]
        omega
    · simp [h4, h100]
      omega
  · simp [h4]
    omega

theorem daysBefore_mono {a b : Int} (h : a ≤ b) : daysBefore a ≤ daysBefore b := by
  unfold daysBefore
  omega

/-- A day lies in its year. -/
theorem daysBefore_yearOf (day : Int) :
    daysBefore (yearOf day) ≤ day ∧ day < daysBefore (yearOf day + 1) := by
  -- the guess by the average year is at most one year off
  have hlow : daysBefore (400 * day / 146097 - 1) ≤ day := by
    unfold daysBefore
    omega
  have hhigh : day < daysBefore (400 * day / 146097 + 1 + 1) := by
    unfold daysBefore
    omega
  unfold yearOf
  dsimp only
  split
  · rename_i h
    exact ⟨h, hhigh⟩
  · rename_i h
    split
    · rename_i h'
      exact ⟨h', by omega⟩
    · rename_i h'
      exact ⟨hlow, by rw [Int.sub_add_cancel]; omega⟩

/-! ## Months -/

theorem totalDays_monthLengths (leap : Bool) :
    totalDays (monthLengths leap) = if leap then 366 else 365 := by
  cases leap <;> rfl

theorem totalDays_cons (n : Nat) (lengths : List Nat) :
    totalDays (n :: lengths) = n + totalDays lengths := rfl

theorem totalDays_take_le (lengths : List Nat) {i j : Nat} (h : i ≤ j) :
    totalDays (lengths.take i) ≤ totalDays (lengths.take j) := by
  induction lengths generalizing i j with
  | nil => simp
  | cons n lengths ih =>
    cases i with
    | zero => exact Nat.zero_le _
    | succ i =>
      obtain ⟨j, rfl⟩ : ∃ k, j = k + 1 := ⟨j - 1, by omega⟩
      rw [List.take_succ_cons, List.take_succ_cons, totalDays_cons, totalDays_cons]
      exact Nat.add_le_add_left (ih (by omega)) n

theorem totalDays_take_succ {lengths : List Nat} {i n : Nat} (h : lengths[i]? = some n) :
    totalDays (lengths.take (i + 1)) = totalDays (lengths.take i) + n := by
  induction lengths generalizing i with
  | nil => simp at h
  | cons m lengths ih =>
    cases i with
    | zero =>
      obtain rfl : m = n := by simpa using h
      simp [totalDays]
    | succ i =>
      rw [List.take_succ_cons, List.take_succ_cons, totalDays_cons, totalDays_cons,
        ih (by simpa using h)]
      omega

/-- A day falls into one of the months if they are long enough together. -/
theorem locate_spec (month : Nat) {lengths : List Nat} {day : Nat} (h : day < totalDays lengths) :
    ∃ i n, lengths[i]? = some n ∧ (locate month lengths day).1 = month + i ∧
      1 ≤ (locate month lengths day).2 ∧ (locate month lengths day).2 ≤ n ∧
      totalDays (lengths.take i) + (locate month lengths day).2 = day + 1 := by
  induction lengths generalizing month day with
  | nil => simp [totalDays] at h
  | cons n lengths ih =>
    rw [locate]
    split
    · rename_i hlt
      exact ⟨0, n, rfl, rfl, Nat.le_add_left .., hlt, by simp [totalDays]⟩
    · rename_i hge
      rw [totalDays_cons] at h
      have hlater : day - n < totalDays lengths := by omega
      obtain ⟨i, m, hi, hmonth, hpos, hle, hsum⟩ := ih (month + 1) hlater
      refine ⟨i + 1, m, by simpa using hi, by omega, hpos, hle, ?_⟩
      rw [List.take_succ_cons, totalDays_cons]
      omega

/-! ## Dates -/

namespace Date

/-- What it means that a date is of a day. -/
theorem toDay?_eq_some_iff {d : Date} {day : Int} : d.toDay? = some day ↔
    ∃ n, (monthLengths (isLeap d.year))[d.month - 1]? = some n ∧
      (1 ≤ d.month ∧ 1 ≤ d.day ∧ d.day ≤ n) ∧ day = daysBefore d.year + totalDays
      ((monthLengths (isLeap d.year)).take (d.month - 1)) +
        (d.day - 1 : Nat) := by
  unfold toDay?
  dsimp only
  cases (monthLengths (isLeap d.year))[d.month - 1]? with
  | none => simp
  | some n =>
    dsimp only
    split
    · rename_i hvalid
      simp [hvalid, eq_comm]
    · rename_i hvalid
      simp [hvalid]

/-- **The date of a day is of that day.** -/
theorem toDay?_ofDay (day : Int) : (ofDay day).toDay? = some day := by
  obtain ⟨hlow, hhigh⟩ := daysBefore_yearOf day
  have hwithin : (day - daysBefore (yearOf day)).toNat <
      totalDays (monthLengths (isLeap (yearOf day))) := by
    rw [totalDays_monthLengths]
    rw [daysBefore_succ] at hhigh
    split at hhigh <;> simp_all <;> omega
  obtain ⟨i, n, hi, hmonth, hpos, hle, hsum⟩ := locate_spec 1 hwithin
  have hindex : (ofDay day).month - 1 = i := by
    rw [← Nat.add_sub_cancel_left (n := 1) (m := i), ← hmonth]
    rfl
  refine toDay?_eq_some_iff.2 ⟨n, ?_, ⟨?_, hpos, hle⟩, ?_⟩
  · rw [hindex]
    exact hi
  · have hfirst : (ofDay day).month = 1 + i := hmonth
    omega
  · rw [hindex]
    have hday : (ofDay day).day =
        (locate 1 (monthLengths (isLeap (yearOf day))) (day - daysBefore (yearOf day)).toNat).2 :=
        rfl
    have hyear : (ofDay day).year = yearOf day := rfl
    rw [hday, hyear]
    omega

/-- The year of a date is the year of its day. -/
theorem daysBefore_toDay? {d : Date} {day : Int} (h : d.toDay? = some day) :
    daysBefore d.year ≤ day ∧ day < daysBefore (d.year + 1) := by
  obtain ⟨n, hn, ⟨hmonth, hday, hle⟩, rfl⟩ := toDay?_eq_some_iff.1 h
  have hsucc := totalDays_take_succ hn
  have hall := totalDays_take_le (monthLengths (isLeap d.year)) (i := d.month - 1 + 1)
    (j := (monthLengths (isLeap d.year)).length) (by
      obtain ⟨hlt, -⟩ := List.getElem?_eq_some_iff.1 hn
      omega)
  rw [List.take_length, totalDays_monthLengths] at hall
  rw [daysBefore_succ]
  constructor
  · omega
  · split at hall <;> simp_all <;> omega

/-- The order of dates, field by field. -/
def Before (a b : Date) : Prop :=
  a.year < b.year ∨ a.year = b.year ∧ (a.month < b.month ∨ a.month = b.month ∧ a.day < b.day)

theorem lt_of_before {a b : Date} {m n : Int} (ha : a.toDay? = some m) (hb : b.toDay? = some n)
    (h : a.Before b) : m < n := by
  rcases h with hyear | ⟨hyear, hrest⟩
  · have hend := (daysBefore_toDay? ha).2
    have hstart := (daysBefore_toDay? hb).1
    have hmono := daysBefore_mono (show a.year + 1 ≤ b.year from hyear)
    omega
  · obtain ⟨k, hk, ⟨hmonth, hday, hle⟩, rfl⟩ := toDay?_eq_some_iff.1 ha
    obtain ⟨l, -, ⟨hmonth', hday', -⟩, rfl⟩ := toDay?_eq_some_iff.1 hb
    rw [← hyear]
    rcases hrest with hmonths | ⟨hmonths, hdays⟩
    · -- the month of `a` is over before the month of `b` begins
      have hsucc := totalDays_take_succ hk
      have hmono := totalDays_take_le (monthLengths (isLeap a.year)) (i := a.month - 1 + 1)
        (j := b.month - 1) (by omega)
      omega
    · rw [← hmonths]
      omega

/-- **Dates are ordered as their days are.** -/
theorem before_ofDay {m n : Int} (h : m < n) : (ofDay m).Before (ofDay n) := by
  have hm := toDay?_ofDay m
  have hn := toDay?_ofDay n
  refine Classical.byContradiction fun hnot => ?_
  by_cases hafter : (ofDay n).Before (ofDay m)
  · have hlt := lt_of_before hn hm hafter
    omega
  · -- neither comes before the other, so they are the same date
    unfold Before at hnot hafter
    have hyear : (ofDay m).year = (ofDay n).year := by omega
    have hmonth : (ofDay m).month = (ofDay n).month := by omega
    have hday : (ofDay m).day = (ofDay n).day := by omega
    have hsame : ofDay m = ofDay n := by
      rw [← show Date.mk (ofDay m).year (ofDay m).month (ofDay m).day = ofDay m from rfl, hyear,
        hmonth, hday]
    rw [hsame, hn] at hm
    obtain rfl := Option.some.inj hm
    omega

/-- The fields of a date as they are written. -/
theorem ofDay_bounds (day : Int) : (ofDay day).month < 100 ∧ (ofDay day).day < 100 := by
  obtain ⟨n, hn, ⟨-, -, hle⟩, -⟩ := toDay?_eq_some_iff.1 (toDay?_ofDay day)
  obtain ⟨hlt, hget⟩ := List.getElem?_eq_some_iff.1 hn
  have hlength : (monthLengths (isLeap (ofDay day).year)).length = 12 := rfl
  have hshort : ∀ k ∈ monthLengths (isLeap (ofDay day).year), k ≤ 31 := by
    cases isLeap (ofDay day).year <;> decide
  have hn31 := hshort n (hget ▸ List.getElem_mem hlt)
  omega

end Date

end ShelterLine.Calendar
