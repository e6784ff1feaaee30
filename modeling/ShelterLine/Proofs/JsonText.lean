import ShelterLine.Json.Draft
import ShelterLine.Json.Printer
import ShelterLine.Proofs.Numeral

/-!
# JSON texts are read back

The compact text of a value is cut into the tokens of the value and put together again, so its
draft is the value itself. This goes for values whose numbers are whole and fit 64 bits, and
whose lists are not nested deeper than a reader goes. What comes next in a text is told from a
number by what it begins with.
-/

namespace ShelterLine.Json

open Text

/-- A value with whole numbers of 64 bits only, whose lists are nested at most so deep. -/
inductive Plain : Nat → Json → Prop where
  | null {depth : Nat} : Plain depth .null
  | bool {depth : Nat} (b : Bool) : Plain depth (.bool b)
  | int {depth : Nat} {n : Int} (low : Int64.minValue.toInt ≤ n) (high : n < UInt64.size) :
    Plain depth (.num (.int n))
  | str {depth : Nat} (s : String) : Plain depth (.str s)
  | arr {depth : Nat} {items : List Json} (h : ∀ v ∈ items, Plain depth v) :
    Plain (depth + 1) (.arr items)
  | obj {depth : Nat} {fields : List (String × Json)} (h : ∀ f ∈ fields, Plain depth f.2) :
    Plain (depth + 1) (.obj fields)

theorem Plain.mono {d d' : Nat} {v : Json} (h : Plain d v) (hle : d ≤ d') : Plain d' v := by
  induction h generalizing d' with
  | null => exact .null
  | bool b => exact .bool b
  | int low high => exact .int low high
  | str s => exact .str s
  | arr _ ih =>
    obtain ⟨d', rfl⟩ : ∃ k, d' = k + 1 := ⟨d' - 1, by omega⟩
    exact .arr fun v hv => ih v hv (by omega)
  | obj _ ih =>
    obtain ⟨d', rfl⟩ : ∃ k, d' = k + 1 := ⟨d' - 1, by omega⟩
    exact .obj fun f hf => ih f hf (by omega)

/-! ## Strings -/

/-- The unit that a character is written as. -/
def unitOf (c : Char) : Unit16 :=
  if c.toNat < 0x20 ∧ c ∉ ['\n', '\r', '\t', '\x08', '\x0c'] then .code c.toNat else .char c

theorem unitOf_cases (c : Char) :
    unitOf c = .char c ∨ c.toNat < 0x20 ∧ unitOf c = .code c.toNat := by
  unfold unitOf
  split
  · rename_i h
    exact Or.inr ⟨h.1, rfl⟩
  · exact Or.inl rfl

theorem hexUnit?_control : ∀ n < 0x20,
    hexUnit? '0' '0' (Nat.digitChar (n / 16)) (Nat.digitChar (n % 16)) = some n := by decide

/-- A character is escaped by a letter, by its number, or not at all. -/
theorem escapeChar_cases (c : Char) :
    (∃ e, escapeChar c = ['\\', e] ∧ e ≠ 'u' ∧ simpleEscape? e = some c ∧ unitOf c = .char c) ∨
    (c.toNat < 0x20 ∧ unitOf c = .code c.toNat ∧ escapeChar c =
      ['\\', 'u', '0', '0', Nat.digitChar (c.toNat / 16), Nat.digitChar (c.toNat % 16)]) ∨
    (c ≠ '"' ∧ c ≠ '\\' ∧ ¬ c.toNat < 0x20 ∧ unitOf c = .char c ∧ escapeChar c = [c]) := by
  by_cases hletter : c ∈ ['"', '\\', '\n', '\r', '\t', '\x08', '\x0c']
  · left
    simp only [List.mem_cons, List.not_mem_nil, or_false] at hletter
    rcases hletter with rfl | rfl | rfl | rfl | rfl | rfl | rfl <;>
      exact ⟨_, rfl, by decide, rfl, by decide⟩
  · simp only [List.mem_cons, List.not_mem_nil, or_false, not_or] at hletter
    obtain ⟨hquote, hslash, hn, hr, ht, hb, hf⟩ := hletter
    right
    by_cases hcontrol : c.toNat < 0x20
    · exact Or.inl ⟨hcontrol, by simp [unitOf, hcontrol, hn, hr, ht, hb, hf],
        by simp [escapeChar, hcontrol, hquote, hslash, hn, hr, ht, hb, hf]⟩
    · exact Or.inr ⟨hquote, hslash, hcontrol, by simp [unitOf, hcontrol],
        by simp [escapeChar, hcontrol, hquote, hslash, hn, hr, ht, hb, hf]⟩

/-- What is written for a character is scanned as its unit. -/
theorem scanString_escapeChar (c : Char) (rest : List Char) :
    scanString (escapeChar c ++ rest) =
      (unitOf c :: (scanString rest).1, (scanString rest).2.1 + (escapeChar c).length,
        (scanString rest).2.2) := by
  rcases escapeChar_cases c with ⟨e, hc, hu, he, hunit⟩ | ⟨hlt, hunit, hc⟩ |
    ⟨hquote, hslash, hcontrol, hunit, hc⟩
  · rw [hc, hunit]
    simp only [List.cons_append, List.nil_append, scanString, he, List.length_cons, List.length_nil]
  · rw [hc, hunit]
    simp only [List.cons_append, List.nil_append, scanString, hexUnit?_control _ hlt,
      List.length_cons, List.length_nil]
  · rw [hc, hunit, List.cons_append, List.nil_append, scanString.eq_def]
    split <;> simp_all

theorem scanString_flatMap (cs rest : List Char) :
    scanString (cs.flatMap escapeChar ++ '"' :: rest) =
      (cs.map unitOf, (cs.flatMap escapeChar).length + 1, none) := by
  induction cs with
  | nil => rfl
  | cons c cs ih =>
    rw [List.flatMap_cons, List.append_assoc, scanString_escapeChar, ih, List.length_append]
    simp only [List.map_cons, Prod.mk.injEq, true_and, and_true]
    omega

/-- Units of characters stand for the characters. -/
theorem joinUnits_map (cs : List Char) : joinUnits none (cs.map unitOf) = .ok cs := by
  induction cs with
  | nil => rfl
  | cons c cs ih =>
    rw [List.map_cons]
    rcases unitOf_cases c with hunit | ⟨hlt, hunit⟩
    · rw [hunit, joinUnits, ih]
      rfl
    · -- a control character is no half of a pair
      have hlead : isLead c.toNat = false := by
        simp only [isLead, Bool.and_eq_false_iff, decide_eq_false_iff_not]
        omega
      have htrail : isTrail c.toNat = false := by
        simp only [isTrail, Bool.and_eq_false_iff, decide_eq_false_iff_not]
        omega
      rw [hunit]
      cases hus : cs.map unitOf with
      | nil =>
        rw [hus] at ih
        simp only [joinUnits, Except.ok.injEq] at ih
        simp only [joinUnits, hlead, htrail, Bool.false_eq_true, ↓reduceIte, Char.ofNat_toNat, ← ih]
      | cons u us =>
        rw [hus] at ih
        simp only [joinUnits, hlead, htrail, Bool.false_eq_true, ↓reduceIte, ih, Char.ofNat_toNat]
        rfl

theorem lexString_renderString (s : String) (rest : List Char) :
    lexString (s.toList.flatMap escapeChar ++ '"' :: rest) =
      (.str s, (s.toList.flatMap escapeChar).length + 1) := by
  unfold lexString
  rw [scanString_flatMap]
  dsimp only
  rw [joinUnits_map]
  dsimp only
  rw [String.ofList_toList]

/-! ## Numbers -/

/-- What comes after a value in a text: nothing, or a character that is no part of a number. -/
def Ends (rest : List Char) : Prop :=
  rest = [] ∨ ∃ c cs, rest = c :: cs ∧ (c = ',' ∨ c = ']' ∨ c = '\x7d')

/-- A whole number begins with a zero only if it is zero. -/
theorem head?_toDigits (n : Nat) :
    (Nat.toDigits 10 n).length = 1 ∨ (Nat.toDigits 10 n).head? ≠ some '0' := by
  induction n using Nat.strongRecOn with
  | ind n ih =>
    rw [Nat.toDigits_eq_if (by decide)]
    split
    · exact Or.inl rfl
    · rename_i hge
      right
      have hhead : (Nat.toDigits 10 (n / 10) ++ [Nat.digitChar (n % 10)]).head? =
          (Nat.toDigits 10 (n / 10)).head? := by
        cases hds : Nat.toDigits 10 (n / 10) with
        | nil => exact absurd hds Nat.toDigits_ne_nil
        | cons d ds => rfl
      rw [hhead]
      rcases ih (n / 10) (by omega) with hone | hne
      · -- the leading digit is a digit of its own, and not zero
        rw [Nat.toDigits_eq_if (by decide)] at hone ⊢
        split at hone
        · rename_i hlt
          rw [if_pos hlt]
          have hall : ∀ k < 10, k ≠ 0 → (some (Nat.digitChar k)) ≠ some '0' := by decide
          exact hall _ hlt (by omega)
        · rw [List.length_append, List.length_singleton] at hone
          exact absurd (List.length_eq_zero_iff.1 (Nat.succ.inj hone)) Nat.toDigits_ne_nil
      · exact hne

theorem takeWhile_toDigits (n : Nat) {rest : List Char} (h : Ends rest) :
    (Nat.toDigits 10 n ++ rest).takeWhile Char.isDigit = Nat.toDigits 10 n := by
  rw [List.takeWhile_append_of_pos fun c hc => Nat.isDigit_of_mem_toDigits (by decide)
    (by decide) hc]
  rcases h with rfl | ⟨c, cs, rfl, rfl | rfl | rfl⟩ <;> simp

theorem lexNumeral_toDigits (n : Nat) {rest : List Char} (h : Ends rest) :
    lexNumeral (Nat.toDigits 10 n ++ rest) =
      .ok ⟨Nat.toDigits 10 n, none, none, (Nat.toDigits 10 n).length⟩ := by
  have hzero : (decide ((Nat.toDigits 10 n).length > 1) &&
      decide ((Nat.toDigits 10 n).head? = some '0')) = false := by
    rcases head?_toDigits n with hone | hne
    · simp [hone]
    · simp [hne]
  unfold lexNumeral
  dsimp only
  rw [takeWhile_toDigits n h, List.drop_left, if_neg Nat.toDigits_ne_nil, hzero]
  rcases h with rfl | ⟨c, cs, rfl, rfl | rfl | rfl⟩ <;> rfl

theorem wholeNumber?_nonneg {n : Nat} (h : n < UInt64.size) :
    wholeNumber? false n = some (n : Int) :=
  if_pos h

theorem wholeNumber?_neg {n : Nat} (hpos : 0 < n) (h : Int64.minValue.toInt ≤ -(n : Int)) :
    wholeNumber? true n = some (-(n : Int)) := by
  unfold wholeNumber?
  rw [if_pos rfl, if_pos ⟨hpos, h⟩]

theorem lexNumber_toDigits {negative : Bool} {n : Nat} {i : Int}
    (hwhole : wholeNumber? negative n = some i) {rest : List Char} (h : Ends rest) :
    lexNumber negative (Nat.toDigits 10 n ++ rest) =
      (.num (.int i), (Nat.toDigits 10 n).length) := by
  unfold lexNumber
  rw [lexNumeral_toDigits n h]
  simp only [Numeral.token, digitsValue_toDigits, hwhole]

/-! ## One token at a time -/

/-- What a reader of tokens makes of the rest of a text. -/
def feed (st : State) (text : List Char) : State := (tokens text).foldl State.step st

theorem feed_nil (st : State) : feed st [] = st := by
  unfold feed
  rw [tokens]
  rfl

/-- A text that begins with a token hands it on. -/
theorem feed_token {st : State} {c : Char} {cs : List Char} {t : Token} {n : Nat}
    (h : lexOne c cs = (some t, n)) : feed st (c :: cs) = feed (st.step t) (cs.drop n) := by
  unfold feed
  rw [tokens, h]
  rfl

/-- Brackets, braces, colons and commas are tokens by themselves. -/
theorem feed_mark {st : State} {c : Char} {cs : List Char} {t : Token}
    (h : lexOne c cs = (some t, 0)) : feed st (c :: cs) = feed (st.step t) cs := feed_token h

theorem feed_string (st : State) (s : String) (rest : List Char) :
    feed st (renderString s ++ rest) = feed (st.step (.str s)) rest := by
  have hlex : lexOne '"' (s.toList.flatMap escapeChar ++ '"' :: rest) =
      (some (.str s), (s.toList.flatMap escapeChar).length + 1) := by
    change (some (lexString _).1, (lexString _).2) = _
    rw [lexString_renderString]
  unfold renderString
  rw [List.cons_append, List.append_assoc, List.singleton_append, feed_token hlex]
  congr 1
  rw [← List.drop_drop, List.drop_left]
  rfl

theorem lexOne_digit {c : Char} (h : c.isDigit = true) (cs : List Char) :
    lexOne c cs = (some (lexNumber false (c :: cs)).1, (lexNumber false (c :: cs)).2 - 1) := by
  have hspace : isSpace c = false := by
    unfold isSpace
    by_cases hblank : c = ' ' ∨ c = '\n' ∨ c = '\t' ∨ c = '\r'
    · rcases hblank with rfl | rfl | rfl | rfl <;> simp at h
    · simp_all
  unfold lexOne
  dsimp only
  rw [hspace, if_neg Bool.false_ne_true]
  split <;> first
    | (rw [if_pos h])
    | simp at h

theorem feed_int (st : State) {n : Int} (low : Int64.minValue.toInt ≤ n) (high : n < UInt64.size)
    {rest : List Char} (h : Ends rest) :
    feed st (renderInt n ++ rest) = feed (st.step (.num (.int n))) rest := by
  unfold renderInt
  dsimp only
  split
  · rename_i hneg
    have hlex : lexNumber true (Nat.toDigits 10 n.natAbs ++ rest) =
        (.num (.int n), (Nat.toDigits 10 n.natAbs).length) := by
      refine lexNumber_toDigits ?_ h
      rw [wholeNumber?_neg (by omega) (by omega)]
      congr 1
      omega
    have hone : lexOne '-' (Nat.toDigits 10 n.natAbs ++ rest) =
        (some (.num (.int n)), (Nat.toDigits 10 n.natAbs).length) := by
      change (some (lexNumber true _).1, (lexNumber true _).2) = _
      rw [hlex]
    rw [List.cons_append, feed_token hone, List.drop_left]
  · rename_i hnonneg
    have hlex : lexNumber false (Nat.toDigits 10 n.natAbs ++ rest) =
        (.num (.int n), (Nat.toDigits 10 n.natAbs).length) := by
      refine lexNumber_toDigits ?_ h
      rw [wholeNumber?_nonneg (by omega)]
      congr 1
      omega
    cases hds : Nat.toDigits 10 n.natAbs with
    | nil => exact absurd hds Nat.toDigits_ne_nil
    | cons d ds =>
      have hdigit : d.isDigit = true :=
        Nat.isDigit_of_mem_toDigits (b := 10) (n := n.natAbs) (by decide) (by decide)
          (by rw [hds]; exact List.mem_cons_self)
      rw [hds] at hlex
      have hone := lexOne_digit hdigit (ds ++ rest)
      rw [List.cons_append] at hlex
      rw [hlex] at hone
      rw [List.cons_append, feed_token hone]
      simp

/-! ## Values -/

/-- A state in which a value is due, within `outer`. -/
def Awaits (st : State) (outer : List Frame) : Prop :=
  ∀ t : Token, t ≠ .closeBracket → st.step t = takeValue outer t

theorem awaits_value (outer : List Frame) : Awaits (.value outer) outer := fun _ _ => rfl

theorem awaits_firstItem (outer : List Frame) : Awaits (.firstItem outer) (.items [] :: outer) := by
  intro t ht
  cases t <;> first | rfl | exact absurd rfl ht

theorem ends_comma (cs : List Char) : Ends (',' :: cs) := Or.inr ⟨_, _, rfl, Or.inl rfl⟩

theorem ends_items (vs : List Json) (rest : List Char) : Ends (renderItems vs ++ rest) := by
  cases vs with
  | nil => exact Or.inr ⟨_, _, rfl, Or.inr (Or.inl rfl)⟩
  | cons v vs => exact ends_comma _

theorem ends_fields (fs : List (String × Json)) (rest : List Char) :
    Ends (renderFields fs ++ rest) := by
  cases fs with
  | nil => exact Or.inr ⟨_, _, rfl, Or.inr (Or.inr rfl)⟩
  | cons f fs => exact ends_comma _

theorem enclose_of_lt {outer : List Frame} (h : outer.length < maxDepth) (d : Draft) :
    enclose outer d = d := if_pos h

/-- What it means that the text of a value is read as the value. -/
def Reads (depth : Nat) (v : Json) : Prop :=
  ∀ (outer : List Frame) (st : State) (rest : List Char), outer.length + depth ≤ maxDepth →
    Awaits st outer → Ends rest → feed st (render v ++ rest) = feed (deliver (toDraft v) outer) rest

theorem feed_items {depth : Nat} {outer : List Frame}
    (hdepth : outer.length + (depth + 1) ≤ maxDepth) (rest : List Char) :
    ∀ (vs : List Json) (done : List Draft), (∀ v ∈ vs, Reads depth v) →
    feed (.moreItems done outer) (renderItems vs ++ rest) =
      feed (deliver (.arr (done.reverse ++ itemsToDraft vs) none) outer) rest
  | [], done, _ => by
    rw [renderItems, List.singleton_append, feed_mark (t := .closeBracket) rfl, State.step,
      enclose_of_lt (by omega), itemsToDraft, List.append_nil]
  | v :: vs, done, hvs => by
    have hread := hvs v (by simp) (.items done :: outer) (.value (.items done :: outer))
      (renderItems vs ++ rest) (by rw [List.length_cons]; omega) (awaits_value _)
      (ends_items vs rest)
    rw [renderItems, List.cons_append, List.append_assoc, feed_mark (t := .comma) rfl, State.step,
      hread, deliver, feed_items hdepth rest vs _ fun w hw => hvs w (by simp [hw]), itemsToDraft,
      List.reverse_cons, List.append_assoc, List.singleton_append]

theorem feed_fields {depth : Nat} {outer : List Frame}
    (hdepth : outer.length + (depth + 1) ≤ maxDepth) (rest : List Char) :
    ∀ (fs : List (String × Json)) (done : List (Option String × Draft)),
    (∀ f ∈ fs, Reads depth f.2) →
    feed (.moreFields done outer) (renderFields fs ++ rest) =
      feed (deliver (.obj (done.reverse ++ fieldsToDraft fs) none) outer) rest
  | [], done, _ => by
    rw [renderFields, List.singleton_append, feed_mark (t := .closeBrace) rfl, State.step,
      enclose_of_lt (by omega), fieldsToDraft, List.append_nil]
  | (k, v) :: fs, done, hfs => by
    have hread := hfs (k, v) (by simp) (.fields done (some k) :: outer)
      (.value (.fields done (some k) :: outer)) (renderFields fs ++ rest)
      (by rw [List.length_cons]; omega) (awaits_value _) (ends_fields fs rest)
    rw [renderFields, List.cons_append, List.append_assoc, feed_mark (t := .comma) rfl, State.step,
      feed_string, State.step, takeName, List.cons_append, List.append_assoc,
      feed_mark (t := .colon) rfl, State.step, hread, deliver,
      feed_fields hdepth rest fs _ fun f hf => hfs f (by simp [hf]), fieldsToDraft,
      List.reverse_cons, List.append_assoc, List.singleton_append]

/-- The text of a word is its token. -/
theorem feed_word {st : State} {c : Char} {word : List Char} {t : Token} {rest : List Char}
    (h : lexOne c (word ++ rest) = (some t, word.length)) :
    feed st (c :: word ++ rest) = feed (st.step t) rest := by
  rw [List.cons_append, feed_token h, List.drop_left]

/-- **The text of a plain value is read as the value.** -/
theorem Plain.reads {depth : Nat} {v : Json} (h : Plain depth v) : Reads depth v := by
  intro outer st rest hdepth hawaits hends
  induction h generalizing outer st rest with
  | null =>
    have hlex : lexOne 'n' ("ull".toList ++ rest) = (some .null, "ull".toList.length) := rfl
    have hstep : st.step .null = deliver .null outer := hawaits .null (by simp)
    rw [toDraft, ← hstep]
    exact feed_word hlex
  | bool b =>
    have hstep : st.step (.bool b) = deliver (.bool b) outer := hawaits (.bool b) (by simp)
    rw [toDraft, ← hstep]
    cases b with
    | true =>
      have hlex : lexOne 't' ("rue".toList ++ rest) =
          (some (.bool true), "rue".toList.length) := rfl
      exact feed_word hlex
    | false =>
      have hlex : lexOne 'f' ("alse".toList ++ rest) =
          (some (.bool false), "alse".toList.length) := rfl
      exact feed_word hlex
  | @int _ n low high =>
    have hstep : st.step (.num (.int n)) = deliver (.num (.int n)) outer := hawaits _ (by simp)
    rw [toDraft, ← hstep]
    exact feed_int st low high hends
  | str s =>
    have hstep : st.step (.str s) = deliver (.str s) outer := hawaits (.str s) (by simp)
    rw [toDraft, ← hstep]
    exact feed_string st s rest
  | @arr depth items hitems ih =>
    have hreads : ∀ v ∈ items, Reads depth v := fun v hv outer st rest hd ha he =>
      ih v hv outer st rest hd ha he
    cases items with
    | nil =>
      rw [render, List.cons_append, feed_mark (t := .openBracket) rfl,
        hawaits .openBracket (by simp), takeValue, List.singleton_append,
        feed_mark (t := .closeBracket) rfl, State.step, enclose_of_lt (by omega),
        toDraft, itemsToDraft]
    | cons v vs =>
      have hread := hreads v (by simp) (.items [] :: outer) (.firstItem outer)
        (renderItems vs ++ rest) (by rw [List.length_cons]; omega) (awaits_firstItem outer)
        (ends_items vs rest)
      rw [render, List.cons_append, feed_mark (t := .openBracket) rfl,
        hawaits .openBracket (by simp), takeValue, List.append_assoc, hread, deliver,
        feed_items hdepth rest vs _ fun w hw => hreads w (by simp [hw]), toDraft, itemsToDraft,
        List.reverse_singleton, List.singleton_append]
  | @obj depth fields hfields ih =>
    have hreads : ∀ f ∈ fields, Reads depth f.2 := fun f hf outer st rest hd ha he =>
      ih f hf outer st rest hd ha he
    cases fields with
    | nil =>
      rw [render, List.cons_append, feed_mark (t := .openBrace) rfl,
        hawaits .openBrace (by simp), takeValue, List.singleton_append,
        feed_mark (t := .closeBrace) rfl, State.step, enclose_of_lt (by omega), toDraft,
        fieldsToDraft]
    | cons f fs =>
      obtain ⟨k, v⟩ := f
      have hread := hreads (k, v) (by simp) (.fields [] (some k) :: outer)
        (.value (.fields [] (some k) :: outer)) (renderFields fs ++ rest)
        (by rw [List.length_cons]; omega) (awaits_value _) (ends_fields fs rest)
      have hname : (State.firstName outer).step (.str k) = .colon [] (some k) outer := rfl
      rw [render, List.cons_append, feed_mark (t := .openBrace) rfl,
        hawaits .openBrace (by simp), takeValue, List.append_assoc, feed_string, hname,
        List.cons_append, feed_mark (t := .colon) rfl, State.step, List.append_assoc,
        hread, deliver, feed_fields hdepth rest fs _ fun f hf => hreads f (by simp [hf]), toDraft,
        fieldsToDraft, List.reverse_singleton, List.singleton_append]

/-- **The draft of the compact text of a plain value is the value.** -/
theorem draft_compress {v : Json} (h : Plain maxDepth v) :
    draft v.compress.toList = ⟨toDraft v, false⟩ := by
  have hread := h.reads [] (.value []) [] (by simp) (awaits_value []) (Or.inl rfl)
  rw [List.append_nil, feed_nil] at hread
  unfold draft compress
  rw [String.toList_ofList]
  unfold feed at hread
  rw [hread]
  rfl

end ShelterLine.Json
