/-!
# Looking for a phrase

`occurs phrase text` says that the phrase stands somewhere in the text; `occursThen` asks besides
that what follows it passes a test.
-/

namespace ShelterLine.Text

/-- What follows a phrase at the start of a text. -/
def after? : (phrase text : List Char) → Option (List Char)
  | [], text => some text
  | _ :: _, [] => none
  | p :: ps, c :: cs => if p = c then after? ps cs else none

/-- Whether the phrase stands somewhere in the text, followed by a rest that passes the test. -/
def occursThen (phrase : List Char) (test : List Char → Bool) : List Char → Bool
  | [] => (after? phrase []).any test
  | c :: cs => (after? phrase (c :: cs)).any test || occursThen phrase test cs

/-- Whether the phrase stands somewhere in the text. -/
def occurs (phrase text : List Char) : Bool := occursThen phrase (fun _ => true) text

/-- Whether one of the phrases stands somewhere in the text. -/
def mentions (phrases : List String) (text : List Char) : Bool :=
  phrases.any fun p => occurs p.toList text

theorem after?_eq_some_iff {phrase text rest : List Char} :
    after? phrase text = some rest ↔ text = phrase ++ rest := by
  induction phrase generalizing text with
  | nil => simp [after?]
  | cons p ps ih =>
    cases text with
    | nil => simp [after?]
    | cons c cs =>
      by_cases h : p = c
      · simp [after?, h, ih]
      · simp [after?, h, Ne.symm h]

theorem occurs_iff_isInfix {phrase text : List Char} :
    occurs phrase text = true ↔ phrase <:+: text := by
  unfold occurs
  induction text with
  | nil => cases phrase <;> simp [occursThen, after?]
  | cons c cs ih =>
    rw [occursThen, Bool.or_eq_true, ih, List.infix_cons_iff]
    refine or_congr ?_ Iff.rfl
    cases h : after? phrase (c :: cs) with
    | none =>
      simp only [Option.any_none, Bool.false_eq_true, false_iff]
      rintro ⟨rest, hr⟩
      simp [after?_eq_some_iff.2 hr.symm] at h
    | some rest => simpa using ⟨rest, (after?_eq_some_iff.1 h).symm⟩

end ShelterLine.Text
