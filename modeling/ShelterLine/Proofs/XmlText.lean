import ShelterLine.Proofs.MarkupText

/-!
# Documents as XML

XML has no room for every character, and it does not keep every character that it has room for:
whoever reads XML takes a carriage return for a line feed, with the line feed after it, and takes a
tab or a line feed in the value of an attribute for a blank. Documents are read here in this way.
What is written of a tree is XML if its texts and values hold characters of XML only, and it is then
read as the tree with the line ends and blanks that XML has.
-/

namespace ShelterLine.Markup

/-! ## Characters and line ends -/

/-- The characters that XML has room for. -/
def isXmlChar (c : Char) : Bool :=
  c = '\t' || c = '\n' || c = '\r' || (0x20 ≤ c.toNat && c.toNat ≤ 0xFFFD) || 0x10000 ≤ c.toNat

/-- A text with line feeds for its line ends. A carriage return before a line feed goes. -/
def lineEnds : List Char → List Char
  | [] => []
  | c :: cs =>
    if c = '\r' then
      if cs.head? = some '\n' then lineEnds cs else '\n' :: lineEnds cs
    else c :: lineEnds cs

variable {c : Char} {cs xs ys : List Char} {m : Markup}

theorem lineEnds_cons (h : c ≠ '\r') (cs : List Char) : lineEnds (c :: cs) = c :: lineEnds cs :=
  if_neg h

/-- What has no carriage return stays as it is, whatever comes after it. -/
theorem lineEnds_append_of_not_mem (h : '\r' ∉ xs) (ys : List Char) :
    lineEnds (xs ++ ys) = xs ++ lineEnds ys := by
  induction xs with
  | nil => rfl
  | cons x xs ih =>
    rw [List.mem_cons, not_or] at h
    rw [List.cons_append, lineEnds_cons (Ne.symm h.1), ih h.2, List.cons_append]

theorem lineEnds_eq_self (h : '\r' ∉ cs) : lineEnds cs = cs := by
  have happend := lineEnds_append_of_not_mem h []
  rwa [List.append_nil, lineEnds, List.append_nil] at happend

/-- Before anything but a line feed the line ends of a text are its own. -/
theorem lineEnds_append (h : ys.head? ≠ some '\n') (xs : List Char) :
    lineEnds (xs ++ ys) = lineEnds xs ++ lineEnds ys := by
  induction xs with
  | nil => rfl
  | cons x xs ih =>
    -- a line feed after `x` is one of `xs`, so a carriage return is read in one way in both texts
    have hhead : (xs ++ ys).head? = some '\n' ↔ xs.head? = some '\n' := by
      cases xs with
      | nil => exact iff_of_false h nofun
      | cons x xs => exact Iff.rfl
    rw [List.cons_append, lineEnds, lineEnds, ih]
    simp only [hhead]
    split
    · split <;> rfl
    · rfl

theorem lineEnds_eq_nil_iff : lineEnds cs = [] ↔ cs = [] := by
  refine ⟨fun h => ?_, fun h => by rw [h]; rfl⟩
  induction cs with
  | nil => rfl
  | cons c cs ih =>
    unfold lineEnds at h
    split at h
    · split at h
      · rename_i hfeed
        rw [ih h] at hfeed
        cases hfeed
      · cases h
    · cases h

theorem mem_lineEnds (h : c ∈ lineEnds cs) : c ∈ cs ∨ c = '\n' := by
  induction cs with
  | nil => exact Or.inl h
  | cons d cs ih =>
    unfold lineEnds at h
    split at h
    · split at h
      · exact (ih h).imp_left (List.mem_cons_of_mem d)
      · rcases List.mem_cons.1 h with rfl | h
        · exact Or.inr rfl
        · exact (ih h).imp_left (List.mem_cons_of_mem d)
    · rcases List.mem_cons.1 h with rfl | h
      · exact Or.inl List.mem_cons_self
      · exact (ih h).imp_left (List.mem_cons_of_mem d)

theorem return_not_mem_escapeChar (h : c ≠ '\r') : '\r' ∉ escapeChar c := by
  rcases escapeChar_cases c with ⟨word, hc, -, hword⟩ | ⟨-, hc⟩
  · rw [hc]
    intro hmem
    rcases List.mem_cons.1 hmem with hamp | hmem
    · exact absurd hamp (by decide)
    · rcases List.mem_append.1 hmem with hletter | hend
      · exact absurd (List.all_eq_true.1 hword _ hletter) (by decide)
      · exact absurd (List.mem_singleton.1 hend) (by decide)
  · rw [hc, List.mem_singleton]
    exact Ne.symm h

/-- Line ends are written as they are. -/
theorem lineEnds_escape (cs : List Char) : lineEnds (escape cs) = escape (lineEnds cs) := by
  induction cs with
  | nil => rfl
  | cons c cs ih =>
    have hescape : ∀ c cs, escape (c :: cs) = escapeChar c ++ escape cs :=
      fun _ _ => List.flatMap_cons
    rw [hescape]
    -- only for a carriage return does it matter what comes after
    by_cases hreturn : c = '\r'
    · subst hreturn
      have hfirst : (escape cs).head? = some '\n' ↔ cs.head? = some '\n' := by
        cases cs with
        | nil => exact Iff.rfl
        | cons d cs =>
          rw [hescape, List.head?_cons, Option.some_inj]
          rcases escapeChar_cases d with ⟨word, hd, hentity, -⟩ | ⟨-, hd⟩
          · -- a reference begins with an ampersand, and is not written for a line feed
            rw [hd, List.cons_append, List.head?_cons, Option.some_inj]
            refine iff_of_false (by decide) ?_
            rintro rfl
            have hfeed : escapeChar '\n' = ['\n'] := rfl
            rw [hfeed, List.cons_eq_cons] at hd
            exact absurd hd.1 (by decide)
          · rw [hd]
            exact Option.some_inj
      have hown : escapeChar '\r' ++ escape cs = '\r' :: escape cs := rfl
      rw [hown, lineEnds, lineEnds, if_pos rfl, if_pos rfl, ih]
      simp only [hfirst]
      split
      · rfl
      · rw [hescape]
        rfl
    · rw [lineEnds_append_of_not_mem (return_not_mem_escapeChar hreturn), lineEnds_cons hreturn, ih,
        hescape]

/-! ## Trees as XML has them -/

mutual

/-- The tree with other texts and other values of attributes. -/
def mapText (f g : List Char → List Char) : Markup → Markup
  | text s => text (f s)
  | element name attributes children =>
    element name (attributes.map fun a => (a.1, g a.2)) (mapTextAll f g children)

/-- Trees with other texts and other values of attributes. -/
def mapTextAll (f g : List Char → List Char) : List Markup → List Markup
  | [] => []
  | m :: ms => mapText f g m :: mapTextAll f g ms

end

/-- The tree with line feeds for all line ends. -/
def withLineEnds (m : Markup) : Markup := m.mapText lineEnds lineEnds

/-- The tree with blanks for tabs and line ends in the values of attributes. -/
def withBlanks (m : Markup) : Markup :=
  m.mapText id fun value => value.map fun c => if c = '\t' ∨ c = '\n' then ' ' else c

/-- The tree as XML has it. -/
def asXml (m : Markup) : Markup := m.withLineEnds.withBlanks

/-- The document that a text is as XML. Line ends are settled before anything else, the blanks in
values last, and a text with a character that XML has no room for is refused. Beside elements,
attributes and the five named references XML knows declarations, comments, sections of plain text,
references by number, other quotes and other blanks in tags; there is none of them in these
documents, and they are refused as well. -/
def read? (cs : List Char) : Option Markup :=
  if cs.all isXmlChar then (tree? (lineEnds cs)).map withBlanks else none

mutual

/-- Whether all characters of the texts are of one kind, and those of the values of another. -/
def allChars (p q : Char → Bool) : Markup → Bool
  | text s => s.all p
  | element _ attributes children =>
    (attributes.all fun a => a.2.all q) && allCharsAll p q children

/-- Whether all characters of the texts are of one kind, and those of the values of another. -/
def allCharsAll (p q : Char → Bool) : List Markup → Bool
  | [] => true
  | m :: ms => allChars p q m && allCharsAll p q ms

end

/-- Whether XML has room for all characters of the texts and of the values of attributes. -/
def isXml (m : Markup) : Bool := m.allChars isXmlChar isXmlChar

/-- Whether there is nothing that XML has another line end or a blank for. -/
def isSettled (m : Markup) : Bool := m.allChars (· ≠ '\r') fun c => c ≠ '\r' ∧ c ≠ '\t' ∧ c ≠ '\n'

theorem allCharsAll_eq (p q : Char → Bool) (ms : List Markup) :
    allCharsAll p q ms = ms.all (allChars p q) := by
  induction ms with
  | nil => rfl
  | cons m ms ih => rw [allCharsAll, ih, List.all_cons]

theorem allChars_element {p q : Char → Bool} (name : String)
    {attributes : List (String × List Char)} {ms : List Markup}
    (hvalues : (attributes.all fun a => a.2.all q) = true)
    (h : ∀ m ∈ ms, m.allChars p q = true) : (element name attributes ms).allChars p q = true := by
  rw [allChars, allCharsAll_eq, hvalues]
  exact List.all_eq_true.2 h

theorem mapTextAll_eq (f g : List Char → List Char) (ms : List Markup) :
    mapTextAll f g ms = ms.map (mapText f g) := by
  induction ms with
  | nil => rfl
  | cons m ms ih => rw [mapTextAll, ih, List.map_cons]

mutual

theorem mapText_eq_self {f g : List Char → List Char} {p q : Char → Bool}
    (hf : ∀ s : List Char, s.all p = true → f s = s)
    (hg : ∀ v : List Char, v.all q = true → g v = v) :
    ∀ m : Markup, m.allChars p q = true → mapText f g m = m
  | text s, h => congrArg text (hf s h)
  | element name attributes children, h => by
    rw [allChars, Bool.and_eq_true] at h
    have hattributes : attributes.map (fun a => (a.1, g a.2)) = attributes := by
      refine (List.map_congr_left fun a ha => ?_).trans (List.map_id _)
      exact congrArg (a.1, ·) (hg a.2 (List.all_eq_true.1 h.1 a ha))
    rw [mapText, hattributes, mapTextAll_eq_self hf hg children h.2]

theorem mapTextAll_eq_self {f g : List Char → List Char} {p q : Char → Bool}
    (hf : ∀ s : List Char, s.all p = true → f s = s)
    (hg : ∀ v : List Char, v.all q = true → g v = v) :
    ∀ ms : List Markup, allCharsAll p q ms = true → mapTextAll f g ms = ms
  | [], _ => rfl
  | m :: ms, h => by
    rw [allCharsAll, Bool.and_eq_true] at h
    rw [mapTextAll, mapText_eq_self hf hg m h.1, mapTextAll_eq_self hf hg ms h.2]

end

/-- XML has such a tree as it is. -/
theorem asXml_eq_self (h : m.isSettled = true) : m.asXml = m := by
  have hends : m.withLineEnds = m := by
    refine mapText_eq_self (fun s hs => ?_) (fun v hv => ?_) m h
    · exact lineEnds_eq_self fun hmem => absurd (List.all_eq_true.1 hs _ hmem) (by decide)
    · exact lineEnds_eq_self fun hmem => absurd (List.all_eq_true.1 hv _ hmem) (by decide)
  unfold asXml
  rw [hends]
  refine mapText_eq_self (fun _ _ => rfl) (fun v hv => ?_) m h
  refine (List.map_congr_left fun c hc => ?_).trans (List.map_id v)
  have hplain := List.all_eq_true.1 hv c hc
  rw [decide_eq_true_eq] at hplain
  exact if_neg fun hblank => hblank.elim hplain.2.1 hplain.2.2

/-! ### Characters of what is written -/

theorem all_isXmlChar_escape (cs : List Char) : (escape cs).all isXmlChar = cs.all isXmlChar := by
  have hchar : ∀ c, (escapeChar c).all isXmlChar = isXmlChar c := by
    intro c
    unfold escapeChar
    split
    case h_6 => exact Bool.and_true _
    -- a reference and the mark that it stands for are both of XML
    all_goals rfl
  unfold escape
  rw [List.all_flatMap]
  exact congrArg cs.all (funext hchar)

theorem isXmlChar_letter (h : c.isAlpha) : isXmlChar c := by
  have hrange : 0x20 ≤ c.toNat ∧ c.toNat ≤ 0xFFFD := by
    rcases Bool.or_eq_true_iff.1 h with hupper | hlower
    · have hbounds : 'A'.val ≤ c.val ∧ c.val ≤ 'Z'.val := of_decide_eq_true hupper
      have hcode : 65 ≤ c.toNat ∧ c.toNat ≤ 90 :=
        hbounds.imp UInt32.le_iff_toNat_le.1 UInt32.le_iff_toNat_le.1
      omega
    · have hbounds : 'a'.val ≤ c.val ∧ c.val ≤ 'z'.val :=
        (Bool.and_eq_true_iff.1 hlower).imp of_decide_eq_true of_decide_eq_true
      have hcode : 97 ≤ c.toNat ∧ c.toNat ≤ 122 :=
        hbounds.imp UInt32.le_iff_toNat_le.1 UInt32.le_iff_toNat_le.1
      omega
  unfold isXmlChar
  simp [hrange]

theorem IsName.all_isXmlChar {name : String} (h : IsName name) : name.toList.all isXmlChar = true :=
  List.all_eq_true.2 fun c hc => isXmlChar_letter (h.isAlpha c hc)

theorem all_isXmlChar_attributes {attributes : List (String × List Char)}
    (hkeys : ∀ a ∈ attributes, IsName a.1) :
    (renderAttributes attributes).all isXmlChar = attributes.all fun a => a.2.all isXmlChar := by
  have hquote : isXmlChar '"' = true := by decide
  have hequals : isXmlChar '=' = true := by decide
  have hblank : isXmlChar ' ' = true := by decide
  unfold renderAttributes
  induction attributes with
  | nil => rfl
  | cons a as ih =>
    obtain ⟨ha, has⟩ := List.forall_mem_cons.1 hkeys
    rw [List.flatMap_cons, List.all_append, ih has, List.all_cons]
    simp only [List.all_cons, List.all_append, List.all_nil, ha.all_isXmlChar, all_isXmlChar_escape,
      hquote, hequals, hblank, Bool.and_true, Bool.true_and]

theorem all_isXmlChar_renderAll {ms : List Markup}
    (h : ∀ m ∈ ms, (render m).all isXmlChar = m.isXml) :
    (renderAll ms).all isXmlChar = allCharsAll isXmlChar isXmlChar ms := by
  induction ms with
  | nil => rfl
  | cons m ms ih =>
    obtain ⟨hm, hms⟩ := List.forall_mem_cons.1 h
    rw [renderAll, List.all_append, hm, ih hms, allCharsAll]
    rfl

/-- What is written of a tree has the characters of its texts and values, and others of XML. -/
theorem WellNamed.all_isXmlChar (h : WellNamed m) : (render m).all isXmlChar = m.isXml := by
  induction h with
  | text s => exact all_isXmlChar_escape s
  | @element name attributes children isName isKey distinct held ih =>
    have hattributes := all_isXmlChar_attributes (List.forall_mem_map.1 isKey)
    have hchildren := all_isXmlChar_renderAll ih
    have hname := isName.all_isXmlChar
    have hopen : isXmlChar '<' = true := by decide
    have hclose : isXmlChar '>' = true := by decide
    have hslash : "</".toList.all isXmlChar = true := by decide
    have hend : "/>".toList.all isXmlChar = true := by decide
    rw [isXml, allChars, ← hattributes, ← hchildren]
    cases children with
    | nil =>
      simp only [render, renderAll, List.all_cons, List.all_append, List.all_nil,
        hopen, hname, hend, Bool.and_true, Bool.true_and]
    | cons m ms =>
      simp only [render, renderAll, List.all_cons, List.all_append, List.all_nil, hopen,
        hclose, hname, hslash, Bool.and_true, Bool.true_and]

/-! ### Line ends of what is written -/

/-- A tree in which no texts meet, since each is all that its element holds. -/
inductive Apart : Markup → Prop where
  | leaf (name : String) (attributes : List (String × List Char)) (s : List Char) :
    Apart (element name attributes [text s])
  | node (name : String) (attributes : List (String × List Char)) {children : List Markup}
    (held : ∀ m ∈ children, Apart m) : Apart (element name attributes children)

theorem IsName.return_not_mem {name : String} (h : IsName name) : '\r' ∉ name.toList := fun hmem =>
  absurd (h.isAlpha _ hmem) (by decide)

/-- The line ends of attributes are those of their values, before anything but a line feed. -/
theorem lineEnds_attributes {attributes : List (String × List Char)}
    (hkeys : ∀ a ∈ attributes, IsName a.1) (rest : List Char) :
    lineEnds (renderAttributes attributes ++ rest) =
      renderAttributes (attributes.map fun a => (a.1, lineEnds a.2)) ++ lineEnds rest := by
  induction attributes with
  | nil => rfl
  | cons a as ih =>
    obtain ⟨ha, has⟩ := List.forall_mem_cons.1 hkeys
    have hcons : ∀ (a : String × List Char) as, renderAttributes (a :: as) =
        (' ' :: (a.1.toList ++ ['=', '"'])) ++ (escape a.2 ++ ('"' :: renderAttributes as)) := by
      intro a as
      unfold renderAttributes
      rw [List.flatMap_cons]
      simp only [List.append_assoc, List.cons_append, List.nil_append]
    have hkey : '\r' ∉ ' ' :: (a.1.toList ++ ['=', '"']) := by
      have hname := ha.return_not_mem
      simp [hname]
    -- the closing quote keeps a carriage return in the value apart from what comes after
    have hquote : ('"' :: (renderAttributes as ++ rest)).head? ≠ some '\n' := by
      rw [List.head?_cons]
      decide
    have hrest : '"' :: renderAttributes as ++ rest = '"' :: (renderAttributes as ++ rest) := rfl
    rw [hcons, List.append_assoc, lineEnds_append_of_not_mem hkey, List.append_assoc, hrest,
      lineEnds_append hquote, lineEnds_escape, lineEnds_cons (by decide), ih has,
      List.map_cons, hcons]
    simp only [List.append_assoc, List.cons_append]

theorem withLineEnds_element (name : String) (attributes : List (String × List Char))
    (children : List Markup) : withLineEnds (element name attributes children) =
      element name (attributes.map fun a => (a.1, lineEnds a.2)) (children.map withLineEnds) := by
  unfold withLineEnds
  rw [mapText, mapTextAll_eq]

/-- The line ends of an element are those of its values and of what it holds. -/
theorem lineEnds_element {name : String} {attributes : List (String × List Char)}
    {children : List Markup} (hname : IsName name) (hkeys : ∀ a ∈ attributes, IsName a.1)
    (hinside : ∀ rest : List Char, rest.head? ≠ some '\n' →
      lineEnds (renderAll children ++ rest) =
        renderAll (children.map withLineEnds) ++ lineEnds rest)
    (rest : List Char) : lineEnds (render (element name attributes children) ++ rest) =
      render (withLineEnds (element name attributes children)) ++ lineEnds rest := by
  have hopen : '\r' ∉ '<' :: name.toList := by simp [hname.return_not_mem]
  rw [withLineEnds_element]
  cases children with
  | nil =>
    have hend : '\r' ∉ "/>".toList := by decide
    have hrender : ∀ as, render (element name as []) ++ rest =
        ('<' :: name.toList) ++ (renderAttributes as ++ ("/>".toList ++ rest)) := by
      intro as
      simp only [render, List.append_assoc, List.cons_append]
    rw [hrender, lineEnds_append_of_not_mem hopen, lineEnds_attributes hkeys,
      lineEnds_append_of_not_mem hend]
    simp only [List.map_nil, render, List.append_assoc, List.cons_append]
  | cons m ms =>
    have hclose : '\r' ∉ "</".toList ++ (name.toList ++ ['>']) := by
      simp [hname.return_not_mem]
    -- and so does the closing tag with what the element holds
    have hhead : ("</".toList ++ (name.toList ++ ['>']) ++ rest).head? ≠ some '\n' := by
      have hfirst : ("</".toList ++ (name.toList ++ ['>']) ++ rest).head? = some '<' := rfl
      rw [hfirst]
      decide
    have hrender : ∀ as (m : Markup) ms rest, render (element name as (m :: ms)) ++ rest =
        ('<' :: name.toList) ++ (renderAttributes as ++ ('>' :: (renderAll (m :: ms) ++
          ("</".toList ++ (name.toList ++ ['>']) ++ rest)))) := by
      intro as m ms rest
      simp only [render, renderAll, List.append_assoc, List.cons_append]
    rw [hrender, lineEnds_append_of_not_mem hopen, lineEnds_attributes hkeys,
      lineEnds_cons (by decide), hinside _ hhead, lineEnds_append_of_not_mem hclose,
      List.map_cons, hrender]

theorem lineEnds_renderAll {ms : List Markup}
    (h : ∀ m ∈ ms, ∀ rest, lineEnds (render m ++ rest) = render m.withLineEnds ++ lineEnds rest)
    (rest : List Char) : lineEnds (renderAll ms ++ rest) =
      renderAll (ms.map withLineEnds) ++ lineEnds rest := by
  induction ms with
  | nil => rfl
  | cons m ms ih =>
    obtain ⟨hm, hms⟩ := List.forall_mem_cons.1 h
    rw [renderAll, List.append_assoc, hm, ih hms, List.map_cons, renderAll, List.append_assoc]

/-- **The line ends of what is written of a tree are those of its texts and values.** -/
theorem Apart.lineEnds_render (h : Apart m) (hnamed : WellNamed m) (rest : List Char) :
    lineEnds (render m ++ rest) = render m.withLineEnds ++ lineEnds rest := by
  induction h generalizing rest with
  | leaf name attributes s =>
    obtain - | ⟨isName, isKey, -, -⟩ := hnamed
    refine lineEnds_element isName (List.forall_mem_map.1 isKey) (fun rest hrest => ?_) rest
    have htext : ∀ s, renderAll [text s] = escape s := fun s => List.append_nil (escape s)
    have hends : [text s].map withLineEnds = [text (lineEnds s)] := rfl
    rw [hends, htext, htext, lineEnds_append hrest, lineEnds_escape]
  | @node name attributes children held ih =>
    obtain - | ⟨isName, isKey, -, named⟩ := hnamed
    exact lineEnds_element isName (List.forall_mem_map.1 isKey)
      (fun rest _ => lineEnds_renderAll (fun m hm => ih m hm (named m hm)) rest) rest

theorem WellNamed.withLineEnds (h : WellNamed m) : WellNamed m.withLineEnds := by
  induction h with
  | text s => exact .text (lineEnds s)
  | @element name attributes children isName isKey distinct held ih =>
    have hkeys : (attributes.map fun a => (a.1, lineEnds a.2)).map (·.1) =
        attributes.map (·.1) := by
      rw [List.map_map]
      rfl
    rw [withLineEnds_element]
    exact .element isName (hkeys ▸ isKey) (hkeys ▸ distinct) (List.forall_mem_map.2 ih)

theorem Apart.before_tidy (h : Apart m) (ms : List Markup) :
    before (tidy m) ms = tidy m :: ms := by
  cases h <;> rfl

/-- Where no texts meet it does not matter whether line ends are settled first. -/
theorem Apart.tidy_withLineEnds (h : Apart m) : tidy m.withLineEnds = (tidy m).withLineEnds := by
  induction h with
  | leaf name attributes s =>
    -- an empty text goes when texts that meet are joined, and line ends make no text empty
    have htext : before (text (lineEnds s)) [] = (before (text s) []).map withLineEnds := by
      cases s with
      | nil => rfl
      | cons c cs =>
        have hne : lineEnds (c :: cs) ≠ [] := fun hnil =>
          List.cons_ne_nil c cs (lineEnds_eq_nil_iff.1 hnil)
        have hends : withLineEnds (text (c :: cs)) = text (lineEnds (c :: cs)) := rfl
        have hkept : before (text (c :: cs)) [] = [text (c :: cs)] := rfl
        rw [hkept, List.map_singleton, hends]
        obtain ⟨d, ds, hd⟩ := List.exists_cons_of_ne_nil hne
        rw [hd]
        rfl
    have htidy : ∀ as s, tidy (element name as [text s]) = element name as (before (text s) []) :=
      fun _ _ => rfl
    have hends : [text s].map withLineEnds = [text (lineEnds s)] := rfl
    rw [withLineEnds_element, hends, htidy, htidy, withLineEnds_element, htext]
  | @node name attributes children held ih =>
    have hchildren : tidyAll (children.map withLineEnds) = (tidyAll children).map withLineEnds := by
      induction children with
      | nil => rfl
      | cons m ms ihs =>
        have hm := held m List.mem_cons_self
        have hrest := ihs (fun m hm => held m (List.mem_cons_of_mem _ hm))
          fun m hm => ih m (List.mem_cons_of_mem _ hm)
        have hends : ∀ ms, before (tidy m).withLineEnds ms = (tidy m).withLineEnds :: ms := by
          cases hm <;> exact fun _ => rfl
        rw [List.map_cons, tidyAll, tidyAll, ih m List.mem_cons_self, hrest, hends, hm.before_tidy,
          List.map_cons]
    have htidy : ∀ as ms, tidy (element name as ms) = element name as (tidyAll ms) := fun _ _ => rfl
    rw [withLineEnds_element, htidy, htidy, withLineEnds_element, hchildren]

theorem Apart.isXml_tidy (h : Apart m) : (tidy m).isXml = m.isXml := by
  induction h with
  | leaf name attributes s => cases s <;> rfl
  | @node name attributes children held ih =>
    have hchildren : (tidyAll children).all isXml = children.all isXml := by
      induction children with
      | nil => rfl
      | cons m ms ihs =>
        have hrest := ihs (fun m hm => held m (List.mem_cons_of_mem _ hm))
          fun m hm => ih m (List.mem_cons_of_mem _ hm)
        rw [tidyAll, (held m List.mem_cons_self).before_tidy, List.all_cons, List.all_cons,
          ih m List.mem_cons_self, hrest]
    rw [tidy, isXml, isXml, allChars, allChars, allCharsAll_eq, allCharsAll_eq]
    exact congrArg (_ && ·) hchildren

/-- **What is written of a tree is XML if its texts and values hold characters of XML only**, and is
then read as the tree that XML has for it. -/
theorem read?_render {name : String} {attributes : List (String × List Char)}
    {children : List Markup} (h : WellNamed (element name attributes children))
    (hapart : Apart (element name attributes children)) :
    read? (render (element name attributes children)) =
      let read := tidy (element name attributes children)
      if read.isXml then some read.asXml else none := by
  have hends := hapart.lineEnds_render h []
  rw [List.append_nil, lineEnds, List.append_nil, withLineEnds_element] at hends
  have hnamed := h.withLineEnds
  rw [withLineEnds_element] at hnamed
  dsimp only
  unfold read?
  rw [h.all_isXmlChar, hapart.isXml_tidy, hends, tree?_render hnamed, ← withLineEnds_element,
    hapart.tidy_withLineEnds]
  rfl

end ShelterLine.Markup
