import ShelterLine.Markup.Node

/-!
# Markup is read back

A document is read one character at a time, with a stack of the elements that are open. The reader
is strict about markup: names are letters, attributes are named once and stand in double quotes
after one blank each, a character that has a meaning in markup stands for itself only by a
reference, every end tag names the element that it closes, and there is one element around
everything and nothing around it. It takes all other characters as they are, whatever they are, and
so it does not say whether a text is XML.

What is written of a tree is read as that tree, except that texts that meet become one
text, and a text without characters is none. So it does not matter what the texts and the
values of attributes are.
-/

namespace ShelterLine.Markup

/-! ## Trees as they are read -/

/-- Puts a node in front of others. A text joins the text that they begin with. -/
def before : Markup → List Markup → List Markup
  | text [], ms => ms
  | text s, text t :: ms => text (s ++ t) :: ms
  | m, ms => m :: ms

mutual

/-- The tree in which no texts meet and none is empty. -/
def tidy : Markup → Markup
  | text s => text s
  | element name attributes children => element name attributes (tidyAll children)

/-- What an element holds in such a tree. -/
def tidyAll : List Markup → List Markup
  | [] => []
  | m :: ms => before (tidy m) (tidyAll ms)

end

theorem before_nil (ms : List Markup) : before (text []) ms = ms := by
  cases ms <;> rfl

theorem before_cons_element (s : List Char) (name : String) (attributes : List (String × List Char))
    (children ms : List Markup) :
    before (text s) (element name attributes children :: ms) =
      before (text s) [] ++ element name attributes children :: ms := by
  cases s <;> rfl

/-- Texts that meet join one after the other or at once. -/
theorem before_append (s t : List Char) (ms : List Markup) :
    before (text (s ++ t)) ms = before (text s) (before (text t) ms) := by
  cases s with
  | nil => rw [List.nil_append, before_nil]
  | cons c s =>
    cases t with
    | nil => rw [List.append_nil, before_nil]
    | cons d t =>
      cases ms with
      | nil => rfl
      | cons m ms =>
        cases m with
        | text u =>
          have hassoc : c :: s ++ d :: t ++ u = c :: s ++ (d :: t ++ u) := List.append_assoc ..
          exact congrArg (fun w => text w :: ms) hassoc
        | element name attributes children => rfl

/-! ## The reader -/

/-- What a reference stands for. -/
def entity? : List Char → Option Char
  | ['l', 't'] => some '<'
  | ['g', 't'] => some '>'
  | ['a', 'm', 'p'] => some '&'
  | ['a', 'p', 'o', 's'] => some '\''
  | ['q', 'u', 'o', 't'] => some '"'
  | _ => none

/-- A text or a value so far, and the reference that has begun in it. -/
structure Passage where
  text : List Char := []
  reference : Option (List Char) := none

/-- One more character of a text or a value. -/
def Passage.step (p : Passage) (c : Char) : Option Passage :=
  match p.reference with
  | some word =>
    if c = ';' then (entity? word).map fun d => { text := p.text ++ [d] }
    else some { p with reference := some (word ++ [c]) }
  | none =>
    if c = '&' then some { p with reference := some [] }
    else if isSpecial c then none
    else some { p with text := p.text ++ [c] }

/-- A start tag so far. -/
structure Tag where
  name : String
  attributes : List (String × List Char) := []

/-- Where the reader is. -/
inductive Place where
  /-- In the text between two tags. -/
  | between (p : Passage)
  /-- At the beginning of a tag. -/
  | opened
  | name (cs : List Char)
  /-- After the value of an attribute. -/
  | start (t : Tag)
  /-- In the name of an attribute. -/
  | key (t : Tag) (cs : List Char)
  /-- Before the value of an attribute. -/
  | quote (t : Tag) (key : String)
  | value (t : Tag) (key : String) (p : Passage)
  /-- In a start tag that closes its element at once. -/
  | slash (t : Tag)
  /-- In the name of an end tag. -/
  | stop (cs : List Char)

/-- An element that is open, with what it holds so far, last first. -/
structure Frame where
  tag : Tag
  nodes : List Markup := []

/-- The open elements, innermost first, and the place; or the document, once its end
has been read. -/
inductive Reader where
  | reading (frames : List Frame) (place : Place)
  | done (root : Markup)

namespace Reader

/-- Nodes with a text after them, last first. -/
def hold (nodes : List Markup) (s : List Char) : List Markup := before (text s) [] ++ nodes

/-- Holds a text in the innermost element. -/
def holdText (s : List Char) : List Frame → List Frame
  | [] => []
  | f :: fs => { f with nodes := hold f.nodes s } :: fs

/-- Holds an element in the innermost one. Without any it is the document. -/
def put (m : Markup) : List Frame → Reader
  | [] => done m
  | f :: fs => reading ({ f with nodes := m :: f.nodes } :: fs) (.between {})

/-- What comes after the name of a start tag or after one of its attributes. -/
def afterItem (frames : List Frame) (t : Tag) (c : Char) : Option Reader :=
  if c = ' ' then some (reading frames (.key t []))
  else if c = '/' then some (reading frames (.slash t))
  else if c = '>' then some (reading ({ tag := t } :: frames) (.between {}))
  else none

/-- Reads one more character. -/
def step : Reader → Char → Option Reader
  | done _, _ => none
  | reading frames (.between p), c =>
    if c = '<' ∧ p.reference = none then some (reading (holdText p.text frames) .opened)
    else if frames.isEmpty then none
    else (p.step c).map fun p => reading frames (.between p)
  | reading frames .opened, c =>
    if c = '/' then some (reading frames (.stop []))
    else if c.isAlpha then some (reading frames (.name [c]))
    else none
  | reading frames (.name cs), c =>
    if c.isAlpha then some (reading frames (.name (cs ++ [c])))
    else afterItem frames { name := String.ofList cs } c
  | reading frames (.start t), c => afterItem frames t c
  | reading frames (.key t cs), c =>
    if c.isAlpha then some (reading frames (.key t (cs ++ [c])))
    else if c = '=' ∧ cs ≠ [] ∧ String.ofList cs ∉ t.attributes.map (·.1) then
      some (reading frames (.quote t (String.ofList cs)))
    else none
  | reading frames (.quote t a), c =>
    if c = '"' then some (reading frames (.value t a {})) else none
  | reading frames (.value t a p), c =>
    if c = '"' ∧ p.reference = none then
      some (reading frames (.start { t with attributes := t.attributes ++ [(a, p.text)] }))
    else (p.step c).map fun p => reading frames (.value t a p)
  | reading frames (.slash t), c =>
    if c = '>' then some (put (element t.name t.attributes []) frames) else none
  | reading frames (.stop cs), c =>
    if c.isAlpha then some (reading frames (.stop (cs ++ [c])))
    else match frames with
      | [] => none
      | f :: fs =>
        if c = '>' ∧ String.ofList cs = f.tag.name then
          some (put (element f.tag.name f.tag.attributes f.nodes.reverse) fs)
        else none

end Reader

/-- The elements, values and texts of which a text is the markup. No character is refused that has
no meaning in markup, and none is changed. -/
def tree? (cs : List Char) : Option Markup :=
  match cs.foldlM Reader.step (.reading [] (.between {})) with
  | some (.done m) => some m
  | _ => none

/-! ## Reading in pieces -/

namespace Reader

variable {r r' r'' : Reader} {c : Char} {cs ds : List Char} {frames : List Frame}

/-- From `r` the reader comes to `r'` by some characters. -/
def Reads (r : Reader) (cs : List Char) (r' : Reader) : Prop := cs.foldlM step r = some r'

theorem Reads.refl (r : Reader) : Reads r [] r := rfl

theorem Reads.append (h : Reads r cs r') (h' : Reads r' ds r'') : Reads r (cs ++ ds) r'' := by
  unfold Reads at h h' ⊢
  rw [List.foldlM_append, h]
  exact h'

theorem Reads.cons (h : r.step c = some r') (h' : Reads r' cs r'') : Reads r (c :: cs) r'' := by
  unfold Reads at h' ⊢
  rw [List.foldlM_cons, h]
  exact h'

theorem Reads.single (h : r.step c = some r') : Reads r [c] r' := .cons h (.refl r')

end Reader

/-! ### Texts and values -/

theorem isSpecial_eq_false_iff {c : Char} :
    isSpecial c = false ↔ c ≠ '<' ∧ c ≠ '>' ∧ c ≠ '&' ∧ c ≠ '\'' ∧ c ≠ '"' := by
  have hmarks : "<>&'\"".toList = ['<', '>', '&', '\'', '"'] := rfl
  unfold isSpecial
  rw [hmarks]
  simp

/-- A character is written as a reference to it, or as itself. -/
theorem escapeChar_cases (c : Char) :
    (∃ word, escapeChar c = '&' :: (word ++ [';']) ∧ entity? word = some c ∧
      word.all Char.isAlpha = true) ∨
    (isSpecial c = false ∧ escapeChar c = [c]) := by
  unfold escapeChar
  split
  · exact Or.inl ⟨['l', 't'], rfl, rfl, rfl⟩
  · exact Or.inl ⟨['g', 't'], rfl, rfl, rfl⟩
  · exact Or.inl ⟨['a', 'm', 'p'], rfl, rfl, rfl⟩
  · exact Or.inl ⟨['a', 'p', 'o', 's'], rfl, rfl, rfl⟩
  · exact Or.inl ⟨['q', 'u', 'o', 't'], rfl, rfl, rfl⟩
  · rename_i hlt hgt hamp hapos hquot
    exact Or.inr ⟨isSpecial_eq_false_iff.2 ⟨hlt, hgt, hamp, hapos, hquot⟩, rfl⟩

/-- No character that ends a text or a value is written. -/
theorem ne_of_mem_escape {cs : List Char} {c : Char} (h : c ∈ escape cs) : c ≠ '<' ∧ c ≠ '"' := by
  obtain ⟨d, -, hc⟩ := List.mem_flatMap.1 h
  rcases escapeChar_cases d with ⟨word, hd, -, hword⟩ | ⟨hplain, hd⟩
  · rw [hd] at hc
    rcases List.mem_cons.1 hc with rfl | hc
    · decide
    · rcases List.mem_append.1 hc with hc | hc
      · have halpha := List.all_eq_true.1 hword c hc
        constructor <;> rintro rfl <;> exact absurd halpha (by decide)
      · obtain rfl := List.mem_singleton.1 hc
        decide
  · rw [hd] at hc
    obtain rfl := List.mem_singleton.1 hc
    obtain ⟨hlt, -, -, -, hquot⟩ := isSpecial_eq_false_iff.1 hplain
    exact ⟨hlt, hquot⟩

namespace Passage

theorem steps_reference (s word : List Char) : ∀ {cs : List Char}, (∀ d ∈ cs, d.isAlpha) →
    cs.foldlM step ⟨s, some word⟩ = some ⟨s, some (word ++ cs)⟩
  | [], _ => by
    rw [List.append_nil]
    rfl
  | d :: ds, h => by
    obtain ⟨hd, hds⟩ := List.forall_mem_cons.1 h
    have hstep : step ⟨s, some word⟩ d = some ⟨s, some (word ++ [d])⟩ := by
      have hne : d ≠ ';' := by
        rintro rfl
        exact absurd hd (by decide)
      exact if_neg hne
    rw [List.foldlM_cons, hstep]
    refine (steps_reference s (word ++ [d]) hds).trans ?_
    rw [List.append_assoc]
    rfl

theorem steps_escapeChar (s : List Char) (c : Char) :
    (escapeChar c).foldlM step ⟨s, none⟩ = some ⟨s ++ [c], none⟩ := by
  rcases escapeChar_cases c with ⟨word, hc, hentity, hword⟩ | ⟨hplain, hc⟩
  · have hbegin : step ⟨s, none⟩ '&' = some ⟨s, some []⟩ := rfl
    have hend : step ⟨s, some word⟩ ';' = some ⟨s ++ [c], none⟩ := by
      change (entity? word).map _ = _
      rw [hentity]
      rfl
    rw [hc, List.foldlM_cons, hbegin, Option.bind_eq_bind, Option.bind_some, List.foldlM_append,
      steps_reference s [] (List.all_eq_true.1 hword), Option.bind_eq_bind, Option.bind_some,
      List.nil_append, List.foldlM_cons, hend]
    rfl
  · have hne : c ≠ '&' := (isSpecial_eq_false_iff.1 hplain).2.2.1
    have hstep : step ⟨s, none⟩ c = some ⟨s ++ [c], none⟩ := by
      change (if c = '&' then _ else if isSpecial c then _ else _) = _
      rw [if_neg hne, hplain]
      rfl
    rw [hc, List.foldlM_cons, hstep]
    rfl

/-- What is written of a text is read as the text. -/
theorem steps_escape (s cs : List Char) :
    (escape cs).foldlM step ⟨s, none⟩ = some ⟨s ++ cs, none⟩ := by
  induction cs generalizing s with
  | nil =>
    rw [List.append_nil]
    rfl
  | cons c cs ih =>
    have hescape : escape (c :: cs) = escapeChar c ++ escape cs := List.flatMap_cons
    rw [hescape, List.foldlM_append, steps_escapeChar]
    refine (ih (s ++ [c])).trans ?_
    rw [List.append_assoc]
    rfl

end Passage

namespace Reader

variable {r r' : Reader} {cs : List Char} {frames : List Frame} {p p' : Passage}

/-- Within an element the characters of a text are those of a passage. -/
theorem reads_between (f : Frame) (fs : List Frame) (hcs : ∀ c ∈ cs, c ≠ '<')
    (hp : cs.foldlM Passage.step p = some p') :
    Reads (reading (f :: fs) (.between p)) cs (reading (f :: fs) (.between p')) := by
  induction cs generalizing p with
  | nil =>
    obtain rfl := Option.some.inj hp
    exact .refl _
  | cons c cs ih =>
    obtain ⟨hc, hrest⟩ := List.forall_mem_cons.1 hcs
    rw [List.foldlM_cons] at hp
    obtain ⟨q, hq, hp⟩ := Option.bind_eq_some_iff.1 hp
    refine .cons ?_ (ih hrest hp)
    change (if c = '<' ∧ p.reference = none then _ else if false then _ else (p.step c).map _) = _
    rw [if_neg fun h => hc h.1, hq]
    rfl

/-- The characters of a value are those of a passage. -/
theorem reads_value (frames : List Frame) (t : Tag) (key : String) (hcs : ∀ c ∈ cs, c ≠ '"')
    (hp : cs.foldlM Passage.step p = some p') :
    Reads (reading frames (.value t key p)) cs (reading frames (.value t key p')) := by
  induction cs generalizing p with
  | nil =>
    obtain rfl := Option.some.inj hp
    exact .refl _
  | cons c cs ih =>
    obtain ⟨hc, hrest⟩ := List.forall_mem_cons.1 hcs
    rw [List.foldlM_cons] at hp
    obtain ⟨q, hq, hp⟩ := Option.bind_eq_some_iff.1 hp
    refine .cons ?_ (ih hrest hp)
    change (if c = '"' ∧ p.reference = none then _ else (p.step c).map _) = _
    rw [if_neg fun h => hc h.1, hq]
    rfl

/-! ### Tags -/

/-- Letters go on with a name, whatever the name is of. -/
theorem reads_letters (place : List Char → Place)
    (hplace : ∀ cs c, c.isAlpha → (reading frames (place cs)).step c =
      some (reading frames (place (cs ++ [c])))) (cs : List Char) :
    ∀ {ds : List Char}, (∀ d ∈ ds, d.isAlpha) →
      Reads (reading frames (place cs)) ds (reading frames (place (cs ++ ds)))
  | [], _ => by
    rw [List.append_nil]
    exact .refl _
  | d :: ds, h => by
    obtain ⟨hd, hds⟩ := List.forall_mem_cons.1 h
    have hrest := reads_letters place hplace (cs ++ [d]) hds
    rw [List.append_assoc] at hrest
    exact .cons (hplace cs d hd) hrest

/-- The reader is after the name of a start tag or after one of its attributes. -/
def AfterItem (frames : List Frame) (t : Tag) (r : Reader) : Prop :=
  ∀ c, c.isAlpha = false → r.step c = afterItem frames t c

theorem afterItem_start (frames : List Frame) (t : Tag) :
    AfterItem frames t (reading frames (.start t)) := fun _ _ => rfl

end Reader

/-- Letters, one at least. -/
def IsName (name : String) : Prop := name.toList ≠ [] ∧ name.toList.all Char.isAlpha = true

instance (name : String) : Decidable (IsName name) :=
  inferInstanceAs (Decidable (name.toList ≠ [] ∧ name.toList.all Char.isAlpha = true))

theorem IsName.isAlpha {name : String} (h : IsName name) : ∀ c ∈ name.toList, c.isAlpha :=
  List.all_eq_true.1 h.2

namespace Reader

variable {r r' : Reader} {frames : List Frame} {t : Tag}

/-- An attribute is read with its value. -/
theorem reads_attribute (h : AfterItem frames t r) {key : String} (hkey : IsName key)
    (hnew : key ∉ t.attributes.map (·.1)) (value : List Char) :
    Reads r (' ' :: (key.toList ++ '=' :: '"' :: (escape value ++ ['"'])))
      (reading frames (.start { t with attributes := t.attributes ++ [(key, value)] })) := by
  have hblank : r.step ' ' = some (reading frames (.key t [])) := h ' ' (by decide)
  have hname : Reads (reading frames (.key t [])) key.toList (reading frames (.key t key.toList)) :=
    reads_letters (.key t) (fun _ _ hc => if_pos hc) [] hkey.isAlpha
  have hequals : (reading frames (.key t key.toList)).step '=' =
      some (reading frames (.quote t key)) := by
    have hstep : (reading frames (.key t key.toList)).step '=' =
        some (reading frames (.quote t (String.ofList key.toList))) := by
      refine if_pos ⟨rfl, hkey.1, ?_⟩
      rw [String.ofList_toList]
      exact hnew
    rw [hstep, String.ofList_toList]
  have hquote : (reading frames (.quote t key)).step '"' =
      some (reading frames (.value t key {})) := rfl
  have hvalue := reads_value frames t key (fun c hc => (ne_of_mem_escape hc).2)
    (Passage.steps_escape [] value)
  have hend : (reading frames (.value t key ⟨value, none⟩)).step '"' =
      some (reading frames (.start { t with attributes := t.attributes ++ [(key, value)] })) := rfl
  exact .cons hblank (hname.append (.cons hequals (.cons hquote (hvalue.append (.single hend)))))

theorem exists_reads_attributes (h : AfterItem frames t r) {as : List (String × List Char)}
    (hkeys : ∀ a ∈ as, IsName a.1) (hnodup : ((t.attributes ++ as).map (·.1)).Nodup) :
    ∃ r', Reads r (renderAttributes as) r' ∧
      AfterItem frames { t with attributes := t.attributes ++ as } r' := by
  induction as generalizing r t with
  | nil =>
    rw [List.append_nil]
    exact ⟨r, .refl r, h⟩
  | cons a as ih =>
    obtain ⟨ha, has⟩ := List.forall_mem_cons.1 hkeys
    have hnew : a.1 ∉ t.attributes.map (·.1) := by
      intro hmem
      rw [List.map_append, List.nodup_append] at hnodup
      exact hnodup.2.2 a.1 hmem a.1 List.mem_cons_self rfl
    have hone := reads_attribute h ha hnew a.2
    have happend : t.attributes ++ [(a.1, a.2)] ++ as = t.attributes ++ a :: as :=
      List.append_assoc ..
    rw [← happend] at hnodup ⊢
    obtain ⟨r', hrest, hafter⟩ :=
      ih (afterItem_start frames { t with attributes := t.attributes ++ [(a.1, a.2)] }) has hnodup
    have hrender : renderAttributes (a :: as) =
        ' ' :: (a.1.toList ++ '=' :: '"' :: (escape a.2 ++ ['"'])) ++ renderAttributes as :=
      List.flatMap_cons
    rw [hrender]
    exact ⟨r', hone.append hrest, hafter⟩

/-- A start tag is read up to its end. -/
theorem exists_reads_start (frames : List Frame) {name : String} {as : List (String × List Char)}
    (hname : IsName name) (hkeys : ∀ a ∈ as, IsName a.1) (hnodup : (as.map (·.1)).Nodup) :
    ∃ r', Reads (reading frames .opened) (name.toList ++ renderAttributes as) r' ∧
      AfterItem frames ⟨name, as⟩ r' := by
  have hletters := hname.isAlpha
  have hread : Reads (reading frames .opened) name.toList (reading frames (.name name.toList)) := by
    cases hcs : name.toList with
    | nil => exact absurd hcs hname.1
    | cons c cs =>
      rw [hcs] at hletters
      obtain ⟨hc, hrest⟩ := List.forall_mem_cons.1 hletters
      have hfirst : (reading frames .opened).step c = some (reading frames (.name [c])) := by
        have hslash : c ≠ '/' := by
          rintro rfl
          exact absurd hc (by decide)
        change (if c = '/' then _ else if c.isAlpha then _ else _) = _
        rw [if_neg hslash, if_pos hc]
      exact .cons hfirst (reads_letters .name (fun _ _ hc => if_pos hc) [c] hrest)
  have hafter : AfterItem frames ⟨name, []⟩ (reading frames (.name name.toList)) := by
    intro c hc
    change (if c.isAlpha then _ else afterItem frames { name := String.ofList name.toList } c) = _
    rw [hc, String.ofList_toList]
    rfl
  obtain ⟨r', hattributes, hafter'⟩ := exists_reads_attributes hafter hkeys hnodup
  exact ⟨r', hread.append hattributes, hafter'⟩

/-- An end tag closes the innermost element. -/
theorem reads_stop {name : String} (hname : IsName name) (as : List (String × List Char))
    (nodes : List Markup) (frames : List Frame) :
    Reads (reading (⟨⟨name, as⟩, nodes⟩ :: frames) (.stop [])) (name.toList ++ ['>'])
      (put (element name as nodes.reverse) frames) := by
  have hread : Reads (reading (⟨⟨name, as⟩, nodes⟩ :: frames) (.stop [])) name.toList
      (reading (⟨⟨name, as⟩, nodes⟩ :: frames) (.stop name.toList)) :=
    reads_letters .stop (fun _ _ hc => if_pos hc) [] hname.isAlpha
  have hend : (reading (⟨⟨name, as⟩, nodes⟩ :: frames) (.stop name.toList)).step '>' =
      some (put (element name as nodes.reverse) frames) :=
    if_pos ⟨rfl, String.ofList_toList⟩
  exact hread.append (.single hend)

/-! ### Elements -/

/-- What an element holds so far: nodes, last first, and the text after them. -/
structure Held where
  nodes : List Markup := []
  text : List Char := []

/-- All that is held, last first. -/
def Held.close (h : Held) : List Markup := hold h.nodes h.text

/-- Holds one more node. -/
def Held.add (h : Held) : Markup → Held
  | .text s => { h with text := h.text ++ s }
  | m => { nodes := m :: h.close }

/-- The reader is within an element that holds something so far. -/
def within (tag : Tag) (h : Held) (frames : List Frame) : Reader :=
  reading (⟨tag, h.nodes⟩ :: frames) (.between ⟨h.text, none⟩)

/-- Whatever comes after a node, adding the node first makes no difference to what is held. -/
theorem before_add (h : Held) (m : Markup) (ms : List Markup) :
    (before (.text (h.add m).text) ms).reverse ++ (h.add m).nodes =
      (before (.text h.text) (before m ms)).reverse ++ h.nodes := by
  cases m with
  | text s =>
    rw [← before_append]
    rfl
  | element name attributes children =>
    have hreverse : (before (.text h.text) []).reverse = before (.text h.text) [] := by
      cases h.text <;> rfl
    change (before (.text []) ms).reverse ++
        element name attributes children :: (before (.text h.text) [] ++ h.nodes) =
      (before (.text h.text) (element name attributes children :: ms)).reverse ++ h.nodes
    rw [before_nil, before_cons_element, List.reverse_append, List.reverse_cons, hreverse,
      List.append_assoc, List.append_assoc]
    rfl

/-- Nodes that are added one after the other are held as tidy trees hold them. -/
theorem close_foldl_add (h : Held) (ms : List Markup) :
    ((ms.map tidy).foldl Held.add h).close =
      (before (.text h.text) (tidyAll ms)).reverse ++ h.nodes := by
  induction ms generalizing h with
  | nil =>
    change before (.text h.text) [] ++ h.nodes = (before (.text h.text) []).reverse ++ h.nodes
    cases h.text <;> rfl
  | cons m ms ih =>
    rw [List.map_cons, List.foldl_cons, ih]
    exact before_add h (tidy m) (tidyAll ms)

/-- Within any element the node is read and held as it is in tidy trees. -/
def Readable (m : Markup) : Prop :=
  ∀ tag h frames, Reads (within tag h frames) (render m) (within tag (h.add (tidy m)) frames)

theorem readable_text (s : List Char) : Readable (text s) := fun tag h frames =>
  reads_between ⟨tag, h.nodes⟩ frames (fun _ hc => (ne_of_mem_escape hc).1)
    (Passage.steps_escape h.text s)

theorem reads_renderAll {ms : List Markup} (hms : ∀ m ∈ ms, Readable m) (tag : Tag) (h : Held)
    (frames : List Frame) :
    Reads (within tag h frames) (renderAll ms)
      (within tag ((ms.map tidy).foldl Held.add h) frames) := by
  induction ms generalizing h with
  | nil => exact .refl _
  | cons m ms ih =>
    obtain ⟨hm, hrest⟩ := List.forall_mem_cons.1 hms
    exact (hm tag h frames).append (ih hrest (h.add (tidy m)))

/-- An element of which everything can be read that it holds is read, wherever it stands. -/
theorem reads_element {name : String} {attributes : List (String × List Char)}
    {children : List Markup} (hname : IsName name) (hkeys : ∀ a ∈ attributes, IsName a.1)
    (hnodup : (attributes.map (·.1)).Nodup) (hchildren : ∀ m ∈ children, Readable m)
    (frames : List Frame) :
    ∃ cs, render (element name attributes children) = '<' :: cs ∧
      Reads (reading frames .opened) cs
        (put (element name attributes (tidyAll children)) frames) := by
  obtain ⟨r, hstart, hafter⟩ := exists_reads_start frames hname hkeys hnodup
  cases hheld : children with
  | nil =>
    have hslash : r.step '/' = some (reading frames (.slash ⟨name, attributes⟩)) :=
      hafter '/' (by decide)
    have hend : (reading frames (.slash ⟨name, attributes⟩)).step '>' =
        some (put (element name attributes []) frames) := rfl
    exact ⟨_, rfl, hstart.append (.cons hslash (.single hend))⟩
  | cons m ms =>
    rw [← hheld]
    have hopen : r.step '>' = some (within ⟨name, attributes⟩ {} frames) := hafter '>' (by decide)
    have hinside := reads_renderAll hchildren ⟨name, attributes⟩ {} frames
    have hclose := close_foldl_add {} children
    rw [before_nil, List.append_nil] at hclose
    generalize (children.map tidy).foldl Held.add {} = held at hinside hclose
    have htag : (within ⟨name, attributes⟩ held frames).step '<' =
        some (reading (⟨⟨name, attributes⟩, held.close⟩ :: frames) .opened) := rfl
    have hslash : (reading (⟨⟨name, attributes⟩, held.close⟩ :: frames) .opened).step '/' =
        some (reading (⟨⟨name, attributes⟩, held.close⟩ :: frames) (.stop [])) := rfl
    have hstop := reads_stop hname attributes held.close frames
    rw [hclose, List.reverse_reverse] at hstop
    rw [hclose] at htag hslash
    have hrender : render (element name attributes children) = '<' ::
        ((name.toList ++ renderAttributes attributes) ++ ('>' :: (renderAll children ++
          ('<' :: '/' :: (name.toList ++ ['>']))))) := by
      have hbegin : "</".toList = ['<', '/'] := rfl
      rw [hheld, render, renderAll, hbegin]
      simp only [List.append_assoc, List.cons_append, List.nil_append]
    exact ⟨_, hrender, hstart.append
      (.cons hopen (hinside.append (.cons htag (.cons hslash hstop))))⟩

end Reader

/-- Elements and attributes have names, and an element has no attribute twice. -/
inductive WellNamed : Markup → Prop where
  | text (s : List Char) : WellNamed (text s)
  | element {name : String} {attributes : List (String × List Char)} {children : List Markup}
    (isName : IsName name) (isKey : ∀ key ∈ attributes.map (·.1), IsName key)
    (distinct : (attributes.map (·.1)).Nodup) (held : ∀ m ∈ children, WellNamed m) :
    WellNamed (element name attributes children)

theorem WellNamed.readable {m : Markup} (h : WellNamed m) : Reader.Readable m := by
  induction h with
  | text s => exact Reader.readable_text s
  | @element name attributes children isName isKey distinct held ih =>
    intro tag h frames
    obtain ⟨cs, hrender, hreads⟩ :=
      Reader.reads_element isName (List.forall_mem_map.1 isKey) distinct ih
      (⟨tag, h.close⟩ :: frames)
    rw [hrender]
    exact .cons rfl hreads

/-- **What is written of a tree is read as the tree**, whatever its texts and the values
of its attributes are. -/
theorem tree?_render {name : String} {attributes : List (String × List Char)}
    {children : List Markup} (h : WellNamed (element name attributes children)) :
    tree? (render (element name attributes children)) =
      some (tidy (element name attributes children)) := by
  obtain - | ⟨isName, isKey, distinct, held⟩ := h
  obtain ⟨cs, hrender, hreads⟩ := Reader.reads_element isName (List.forall_mem_map.1 isKey) distinct
    (fun m hm => (held m hm).readable) []
  have hdone : Reader.Reads (.reading [] (.between {})) ('<' :: cs)
      (.done (tidy (element name attributes children))) := .cons rfl hreads
  unfold tree?
  unfold Reader.Reads at hdone
  rw [hrender, hdone]

/-- Elements that are not closed, closed by another name or side by side are refused, and so are
marks that are not referred to. -/
example : ["<a>", "<a></b>", "<a/><a/>", "<a>></a>", "<a b='c'/>", "<a b=\"<\"/>", "<a>&nbsp;</a>",
    "<a b=\"\" b=\"\"/>", "a<a/>"].filterMap (fun s => tree? s.toList) = [] := by rfl

end ShelterLine.Markup
