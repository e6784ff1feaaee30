import Mathlib.Data.List.TakeWhile
import ShelterLine.Proofs.Cutting
import ShelterLine.Redaction

/-!
# What identifies a person

Addresses, telephone numbers and bare numbers are described here by three patterns, without regard
to how they are looked for, and the rules are shown to find them: each is sound and complete for its
pattern. That only the longest stretch of a kind is looked for loses none, since an address may be
any of its parts that end in a dot and letters, a telephone number may end at any digit late enough,
and no word edge lies within a run of digits.
-/

namespace ShelterLine.Redaction

open Text

/-! ## What identifies a person -/

/-- An e-mail address: mailbox, `@`, domain, dot and at least two letters. -/
def IsEmail (m : List Char) : Prop :=
  ∃ mailbox domain label, m = mailbox ++ '@' :: (domain ++ '.' :: label) ∧
    mailbox ≠ [] ∧ domain ≠ [] ∧ 2 ≤ label.length ∧
    (∀ c ∈ mailbox, isMailboxChar c) ∧ (∀ c ∈ domain, isDomainChar c) ∧ ∀ c ∈ label, isLetter c

/-- A telephone number: perhaps a plus sign, a digit, at least seven dial characters,
and a digit. -/
def IsTelephone (m : List Char) : Prop :=
  ∃ plus first body last, m = plus ++ first :: (body ++ [last]) ∧ (plus = [] ∨ plus = ['+']) ∧
    isDigit first ∧ 7 ≤ body.length ∧ (∀ c ∈ body, isDialChar c) ∧ isDigit last

/-- A bare number: at least two digits between word edges. -/
def bareNumbers : Pattern := fun before m after =>
  2 ≤ m.length ∧ (∀ c ∈ m, isDigit c) ∧ wordEdge before m.head? ∧ wordEdge m.getLast? after

/-- The kinds of stretch that identify a person. -/
inductive Kind where
  | email
  | telephone
  | number
deriving DecidableEq

namespace Kind

/-- What stretches of the kind look like. -/
def pattern : Kind → Pattern
  | email => .ofText IsEmail
  | telephone => .ofText IsTelephone
  | number => bareNumbers

/-- How stretches of the kind are found. -/
def rule : Kind → Rule
  | email => Redaction.email
  | telephone => Redaction.telephone
  | number => bareNumber

/-- What a token says of the stretch. -/
def word : Kind → List Char
  | email => "REDACTED_EMAIL".toList
  | telephone => "REDACTED_PHONE".toList
  | number => "REDACTED_NUMBER".toList

/-- What is written in place of a stretch of the kind. -/
def token (k : Kind) : List Char := '[' :: (k.word ++ [']'])

/-- The text with all stretches of the kind replaced. -/
def replace (k : Kind) (cs : List Char) : List Char := replaceAll k.rule k.token cs

end Kind

/-! ## The rules find the patterns -/

section

variable {before : Option Char} {cs m post : List Char} {n passed skip : Nat}

/-! ### Addresses -/

theorem domainLength_eq_some (h : domainLength passed cs = some n) :
    ∃ domain label rest, cs = domain ++ '.' :: (label ++ rest) ∧
      n = passed + domain.length + 1 + label.length ∧ 0 < passed + domain.length ∧
      2 ≤ label.length ∧ (∀ c ∈ domain, isDomainChar c) ∧ ∀ c ∈ label, isLetter c := by
  induction cs generalizing passed with
  | nil => simp [domainLength] at h
  | cons c cs ih =>
    rw [domainLength] at h
    split at h
    · rename_i hc
      rcases Option.or_eq_some_iff.1 h with hlater | ⟨-, hhere⟩
      · obtain ⟨domain, label, rest, rfl, rfl, -, hlabel, hdomain, hletters⟩ := ih hlater
        refine ⟨c :: domain, label, rest, rfl, ?_, ?_, hlabel, ?_, hletters⟩
        · rw [List.length_cons]
          omega
        · rw [List.length_cons]
          omega
        · exact List.forall_mem_cons.2 ⟨hc, hdomain⟩
      · split at hhere
        · rename_i hdot
          simp only [Bool.and_eq_true, decide_eq_true_eq] at hdot
          obtain ⟨rfl, hpassed⟩ := hdot
          unfold labelEnd at hhere
          dsimp only at hhere
          split at hhere
          · rename_i hlabel
            refine ⟨[], cs.takeWhile isLetter, cs.drop (cs.takeWhile isLetter).length, ?_,
              (Option.some.inj hhere).symm, hpassed, hlabel, List.forall_mem_nil _, ?_⟩
            · rw [append_drop_takeWhile, List.nil_append]
            · exact fun c hc => List.all_eq_true.1 List.all_takeWhile c hc
          · cases hhere
        · cases hhere
    · cases h

theorem domainLength_isSome {domain label : List Char} (passed : Nat) (rest : List Char)
    (hpassed : 0 < passed + domain.length) (hlabel : 2 ≤ label.length)
    (hdomain : ∀ c ∈ domain, isDomainChar c) (hletters : ∀ c ∈ label, isLetter c) :
    (domainLength passed (domain ++ '.' :: (label ++ rest))).isSome := by
  induction domain generalizing passed with
  | nil =>
    have hdot : isDomainChar '.' = true := by decide
    have hend : (labelEnd passed (label ++ rest)).isSome := by
      have hlong : 2 ≤ (label ++ rest.takeWhile isLetter).length := by
        rw [List.length_append]
        omega
      unfold labelEnd
      rw [List.takeWhile_append_of_pos hletters, if_pos hlong]
      rfl
    have hpos : 0 < passed := by simpa using hpassed
    simp [domainLength, hdot, hpos, hend]
  | cons d domain ih =>
    obtain ⟨hd, hdomain⟩ := List.forall_mem_cons.1 hdomain
    have hrest := ih (passed + 1) (by omega) hdomain
    simp [domainLength, hd, hrest]

theorem email_sound : email.Sound (.ofText IsEmail) := by
  intro before cs n h
  unfold email at h
  have hsplit := append_drop_takeWhile isMailboxChar cs
  have hmailbox : ∀ c ∈ cs.takeWhile isMailboxChar, isMailboxChar c := fun c hc =>
    List.all_eq_true.1 List.all_takeWhile c hc
  generalize hm : cs.takeWhile isMailboxChar = mailbox at h hsplit hmailbox
  dsimp only at h
  split at h
  · rename_i _ _ k rest hlength hdrop
    obtain ⟨k', hk, rfl⟩ := Option.map_eq_some_iff.1 h
    obtain ⟨domain, label, after, rfl, rfl, hpos, hlabel, hdomain, hletters⟩ :=
      domainLength_eq_some hk
    refine ⟨mailbox ++ '@' :: (domain ++ '.' :: label), after, ?_, ?_,
      mailbox, domain, label, rfl, ?_, ?_, hlabel, hmailbox, hdomain, hletters⟩
    · rw [← hsplit, hdrop]
      simp
    · simp only [List.length_append, List.length_cons]
      omega
    · exact List.ne_nil_of_length_eq_add_one hlength
    · exact List.length_pos_iff.1 (by omega)
  · cases h

theorem email_complete : email.Complete (.ofText IsEmail) := by
  rintro before _ post
    ⟨mailbox, domain, label, rfl, hmailbox, hdomain, hlabel, hmailboxes, hdomains, hletters⟩
  have hat : isMailboxChar '@' = false := by decide
  have htext : mailbox ++ '@' :: (domain ++ '.' :: label) ++ post =
      mailbox ++ '@' :: (domain ++ '.' :: (label ++ post)) := by simp
  have htake : (mailbox ++ '@' :: (domain ++ '.' :: (label ++ post))).takeWhile isMailboxChar =
      mailbox :=
    takeWhile_append_stop hmailboxes hat _
  obtain ⟨k, hk⟩ := Option.isSome_iff_exists.1 (domainLength_isSome 0 post
    (by have := List.length_pos_iff.2 hdomain; omega) hlabel hdomains hletters)
  refine ⟨mailbox.length + k, ?_⟩
  rw [htext]
  unfold email
  dsimp only
  rw [htake, List.drop_left]
  obtain ⟨j, hj⟩ : ∃ j, mailbox.length = j + 1 :=
    Nat.exists_eq_add_one.2 (List.length_pos_iff.2 hmailbox)
  rw [hj]
  simp only [hk, Option.map_some, Option.some.injEq]
  omega

/-! ### Telephone numbers -/

theorem lengthToLastDigit_eq_some (h : lengthToLastDigit skip cs = some n) :
    ∃ body last rest, cs = body ++ last :: rest ∧ n = body.length + 1 ∧ skip ≤ body.length ∧
      isDigit last := by
  unfold lengthToLastDigit at h
  dsimp only at h
  split at h
  · cases h
  · rename_i hne
    obtain ⟨last, tail, htail⟩ := List.exists_cons_of_ne_nil hne
    have hlast : isDigit last := by
      have hhead := List.head?_dropWhile_not (fun c => !isDigit c) (cs.drop skip).reverse
      rw [htail] at hhead
      simpa using hhead
    obtain ⟨rest, hrest⟩ := List.dropWhile_suffix (fun c => !isDigit c)
      (l := (cs.drop skip).reverse)
    rw [htail] at hrest h
    -- read backwards: what is skipped, the rest of the part that is looked at, and the last digit
    have hdrop : cs.drop skip = tail.reverse ++ last :: rest.reverse := by
      rw [← List.reverse_reverse (cs.drop skip), ← hrest]
      simp
    have hlong : (cs.take skip).length = skip := by
      rw [List.length_take]
      have hpos : 0 < (cs.drop skip).length := List.length_pos_iff.2 (by simp [hdrop])
      rw [List.length_drop] at hpos
      omega
    refine ⟨cs.take skip ++ tail.reverse, last, rest.reverse, ?_, ?_, ?_, hlast⟩
    · rw [List.append_assoc, ← hdrop, List.take_append_drop]
    · rw [← Option.some.inj h, List.length_append, hlong]
      simp [Nat.add_assoc]
    · rw [List.length_append, hlong]
      omega

theorem lengthToLastDigit_isSome {body : List Char} {last : Char} (hskip : skip ≤ body.length)
    (hlast : isDigit last) (rest : List Char) :
    ∃ k, lengthToLastDigit skip (body ++ last :: rest) = some k := by
  unfold lengthToLastDigit
  dsimp only
  split
  · rename_i hnone
    -- the last digit would have been passed over
    have hall : ∀ c ∈ ((body ++ last :: rest).drop skip).reverse, (!isDigit c) = true :=
      List.dropWhile_eq_nil_iff.1 hnone
    have hmem : last ∈ ((body ++ last :: rest).drop skip).reverse := by
      rw [List.mem_reverse, List.drop_append_of_le_length hskip]
      simp
    simpa [hlast] using hall last hmem
  · exact ⟨_, rfl⟩

/-- A number begins with a digit, or with a plus sign and a digit. -/
theorem telephone_eq_some (h : telephone before cs = some n) :
    ∃ plus first more k, cs = plus ++ first :: more ∧ (plus = [] ∨ plus = ['+']) ∧ isDigit first ∧
      lengthToLastDigit 7 (more.takeWhile isDialChar) = some k ∧ n = plus.length + 1 + k := by
  have hfrom : ∀ plus first more, (plus = [] ∨ plus = ['+']) → cs = plus ++ first :: more →
      (if isDigit first then
        (lengthToLastDigit 7 (more.takeWhile isDialChar)).map (plus.length + 1 + ·) else none) =
          some n →
      ∃ plus first more k, cs = plus ++ first :: more ∧ (plus = [] ∨ plus = ['+']) ∧ isDigit first ∧
        lengthToLastDigit 7 (more.takeWhile isDialChar) = some k ∧ n = plus.length + 1 + k := by
    intro plus first more hplus hcs hlength
    split at hlength
    · rename_i hfirst
      obtain ⟨k, hk, rfl⟩ := Option.map_eq_some_iff.1 hlength
      exact ⟨plus, first, more, k, hcs, hplus, hfirst, hk, rfl⟩
    · cases hlength
  unfold telephone at h
  split at h
  rename_i hmatch
  split at hmatch
  · obtain ⟨rfl, rfl⟩ := Prod.mk.inj hmatch
    rename_i rest
    cases rest with
    | nil => cases h
    | cons first more => exact hfrom ['+'] first more (Or.inr rfl) rfl h
  · obtain ⟨rfl, rfl⟩ := Prod.mk.inj hmatch
    cases cs with
    | nil => cases h
    | cons first more => exact hfrom [] first more (Or.inl rfl) rfl h

theorem telephone_of_digit {plus more : List Char} {first : Char} (hplus : plus = [] ∨ plus = ['+'])
    (hfirst : isDigit first) : telephone before (plus ++ first :: more) =
      (lengthToLastDigit 7 (more.takeWhile isDialChar)).map (plus.length + 1 + ·) := by
  rcases hplus with rfl | rfl
  · have hne : first ≠ '+' := by
      rintro rfl
      exact absurd hfirst (by decide)
    unfold telephone
    rw [List.nil_append]
    split
    rename_i hmatch
    split at hmatch
    · rename_i heq
      exact absurd (List.cons.inj heq).1 hne
    · obtain ⟨rfl, rfl⟩ := Prod.mk.inj hmatch
      dsimp only
      rw [if_pos hfirst]
      rfl
  · change (if isDigit first then
      (lengthToLastDigit 7 (more.takeWhile isDialChar)).map (1 + 1 + ·) else none) = _
    rw [if_pos hfirst]
    rfl

theorem telephone_sound : telephone.Sound (.ofText IsTelephone) := by
  intro before cs n h
  obtain ⟨plus, first, more, k, rfl, hplus, hfirst, hk, rfl⟩ := telephone_eq_some h
  obtain ⟨body, last, rest, htake, rfl, hlong, hlast⟩ := lengthToLastDigit_eq_some hk
  have hdial : ∀ c ∈ more.takeWhile isDialChar, isDialChar c := fun c hc =>
    List.all_eq_true.1 List.all_takeWhile c hc
  obtain ⟨beyond, hmore⟩ : ∃ beyond, more = body ++ last :: rest ++ beyond :=
    ⟨_, htake ▸ (append_drop_takeWhile isDialChar more).symm⟩
  rw [htake] at hdial
  refine ⟨plus ++ first :: (body ++ [last]), rest ++ beyond, ?_, ?_,
    plus, first, body, last, rfl, hplus, hfirst, hlong, fun c hc =>
    hdial c (List.mem_append_left _ hc), hlast⟩
  · rw [hmore]
    simp
  · simp only [List.length_append, List.length_cons, List.length_nil]
    omega

theorem telephone_complete : telephone.Complete (.ofText IsTelephone) := by
  rintro before _ post ⟨plus, first, body, last, rfl, hplus, hfirst, hlong, hbody, hlast⟩
  have hdials : ∀ c ∈ body ++ [last], isDialChar c := by
    intro c hc
    rcases List.mem_append.1 hc with hc | hc
    · exact hbody c hc
    · obtain rfl := List.mem_singleton.1 hc
      simp [isDialChar, hlast]
  have htext : plus ++ first :: (body ++ [last]) ++ post =
      plus ++ first :: (body ++ [last] ++ post) := by simp
  obtain ⟨k, hk⟩ := lengthToLastDigit_isSome hlong hlast (post.takeWhile isDialChar)
  refine ⟨plus.length + k, ?_⟩
  rw [htext, telephone_of_digit hplus hfirst, List.takeWhile_append_of_pos hdials,
    List.append_assoc, List.singleton_append, hk, Option.map_some, Nat.add_right_comm]

/-! ### Bare numbers -/

theorem bareNumber_sound : bareNumber.Sound bareNumbers := by
  intro before cs n h
  unfold bareNumber at h
  dsimp only at h
  have hsplit := append_drop_takeWhile isDigit cs
  have hdigits : ∀ c ∈ cs.takeWhile isDigit, isDigit c := fun c hc =>
    List.all_eq_true.1 List.all_takeWhile c hc
  split at h
  · rename_i hfits
    simp only [Bool.and_eq_true, decide_eq_true_eq] at hfits
    obtain ⟨⟨hlong, hstart⟩, hend⟩ := hfits
    refine ⟨_, _, hsplit.symm, Option.some.inj h, hlong, hdigits, ?_, hend⟩
    -- the first digit is what the text begins with
    cases htake : cs.takeWhile isDigit with
    | nil => simp [htake] at hlong
    | cons d ds =>
      rw [htake] at hsplit
      rw [← hsplit] at hstart
      exact hstart
  · cases h

/-- Every digit is a word character. -/
theorem isWord_of_isDigit {c : Char} (h : isDigit c) : isWord c := by
  -- each block of ten digits lies within one run
  have htable : (zeros.all fun z => wordRanges.any fun r => Nat.ble r.1 z && Nat.ble (z + 9) r.2) =
      true := by
    decide +kernel
  unfold isDigit at h
  unfold isWord
  split at h
  · rename_i hascii
    rw [if_pos hascii]
    simp [Char.isAlphanum, h]
  · rename_i hascii
    rw [if_neg hascii]
    obtain ⟨z, hz, hc⟩ := List.any_eq_true.1 h
    obtain ⟨r, hr, hrange⟩ := List.any_eq_true.1 (List.all_eq_true.1 htable z hz)
    simp only [Bool.and_eq_true, decide_eq_true_eq, Nat.ble_eq] at hc hrange
    refine List.any_eq_true.2 ⟨r, hr, ?_⟩
    simp only [Bool.and_eq_true, decide_eq_true_eq]
    omega

theorem bareNumber_complete : bareNumber.Complete bareNumbers := by
  rintro before m post ⟨hlong, hdigits, hstart, hend⟩
  -- what follows is no word character, so no digit either
  have hstop : post.takeWhile isDigit = [] := by
    cases post with
    | nil => rfl
    | cons c post =>
      refine List.takeWhile_cons_of_neg fun hc => ?_
      have hne : m ≠ [] := List.ne_nil_of_length_pos (by omega)
      have hd := List.getLast?_eq_some_getLast hne
      have hword := isWord_of_isDigit (hdigits _ (List.getLast_mem hne))
      simp [wordEdge, hd, hword, isWord_of_isDigit hc] at hend
  have htake : (m ++ post).takeWhile isDigit = m := by
    rw [List.takeWhile_append_of_pos hdigits, hstop, List.append_nil]
  obtain ⟨n, hn⟩ : ∃ n, m.length = n + 1 := ⟨m.length - 1, by omega⟩
  refine ⟨n, ?_⟩
  have hhead : (m ++ post).head? = m.head? := by
    cases m with
    | nil => cases hn
    | cons c m => rfl
  unfold bareNumber
  dsimp only
  rw [htake, List.drop_left, hhead, hstart, hend, ← hn]
  simp [hlong]

theorem Kind.sound (k : Kind) : k.rule.Sound k.pattern := by
  cases k with
  | email => exact email_sound
  | telephone => exact telephone_sound
  | number => exact bareNumber_sound

theorem Kind.complete (k : Kind) : k.rule.Complete k.pattern := by
  cases k with
  | email => exact email_complete
  | telephone => exact telephone_complete
  | number => exact bareNumber_complete

end

end ShelterLine.Redaction
