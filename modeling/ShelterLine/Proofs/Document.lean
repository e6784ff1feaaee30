import ShelterLine.Markup.Call
import ShelterLine.Proofs.Sentences
import ShelterLine.Proofs.XmlText

/-!
# No text breaks out of a document

What is spoken comes from callers, operators and the model, and the provider executes the document
that it is put into. Here every document is read as the provider gets it: there are just the
elements that it was built from, whatever the texts and addresses are. No character that has a
meaning in markup is spoken, and an address is read as it was given, but for the characters that
could end an attribute or an element.

Nothing takes out the characters that XML has no room for, and a document with one of them is no
XML. Any other document is, and is read with the line ends and blanks of XML.
-/

namespace ShelterLine

/-- The strings that a call is given. -/
def IntakeCall.strings (c : IntakeCall) : List String :=
  c.shelterName :: c.survivorContext ::
    (c.callbackNumber.toList ++ c.script.toList ++ c.gatherUrl.toList)

namespace Markup

/-! ## What is spoken -/

/-- No character has a meaning in markup. -/
def Harmless (cs : List Char) : Prop := ∀ c ∈ cs, isSpecial c = false

/-- A character as the fixed sentences have them: XML has room for it, and it has no meaning in
markup. -/
def isPlain (c : Char) : Bool := isXmlChar c && !isSpecial c

/-- A text of plain characters and of what is left of the strings that are given. -/
def SpokenOf (given : List String) (cs : List Char) : Prop :=
  ∀ c ∈ cs, isPlain c = true ∨ ∃ s ∈ given, c ∈ strip s.toList

variable {given : List String} {cs ds : List Char}

theorem SpokenOf.plain (h : cs.all isPlain = true) : SpokenOf given cs := fun c hc =>
  Or.inl (List.all_eq_true.1 h c hc)

theorem SpokenOf.strip {s : String} (h : s ∈ given) : SpokenOf given (strip s.toList) := fun _ hc =>
  Or.inr ⟨s, h, hc⟩

theorem SpokenOf.append (h : SpokenOf given cs) (h' : SpokenOf given ds) :
    SpokenOf given (cs ++ ds) := fun c hc =>
  (List.mem_append.1 hc).elim (h c) (h' c)

theorem SpokenOf.harmless (h : SpokenOf given cs) : Harmless cs := by
  intro c hc
  rcases h c hc with hplain | ⟨s, -, hleft⟩
  · simpa using (Bool.and_eq_true_iff.1 hplain).2
  · simpa using (List.mem_filter.1 hleft).2

theorem SpokenOf.all_isXmlChar (h : SpokenOf given cs)
    (hgiven : ∀ s ∈ given, s.toList.all isXmlChar = true) : cs.all isXmlChar = true := by
  refine List.all_eq_true.2 fun c hc => ?_
  rcases h c hc with hplain | ⟨s, hs, hleft⟩
  · exact (Bool.and_eq_true_iff.1 hplain).1
  · exact List.all_eq_true.1 (hgiven s hs) c (List.mem_filter.1 hleft).1

theorem SpokenOf.blocks (h : SpokenOf given cs) : ∀ line ∈ Speech.blocks cs, SpokenOf given line :=
  fun _ hline c hc => h c (Speech.mem_of_mem_blocks hline hc)

theorem spokenOf_defaultLines (c : IntakeCall) :
    ∀ line ∈ defaultLines c, SpokenOf c.strings line := by
  have hname : c.shelterName ∈ c.strings := List.mem_cons_self
  have hcontext : c.survivorContext ∈ c.strings := List.mem_cons_of_mem _ List.mem_cons_self
  refine List.forall_mem_cons.2 ⟨.plain (by decide +kernel), List.forall_mem_cons.2 ⟨?_,
    List.forall_mem_cons.2 ⟨?_, List.forall_mem_singleton.2 (.plain (by decide +kernel))⟩⟩⟩
  · exact (SpokenOf.append (.plain (by decide +kernel)) (.strip hname)).append
      (.plain (by decide +kernel))
  · have hstop : SpokenOf c.strings ['.'] := .plain (by decide +kernel)
    refine (SpokenOf.append (.plain (by decide +kernel)) (.strip hcontext)).append (hstop.append ?_)
    cases hnumber : c.callbackNumber with
    | none => exact List.forall_mem_nil _
    | some n =>
      have hn : n ∈ c.strings := by simp [IntakeCall.strings, hnumber]
      exact (SpokenOf.append (.plain (by decide +kernel)) (.strip hn)).append
        (.plain (by decide +kernel))

/-- The sentences of a call without a script, with what is left of the names and texts in them. -/
def sentences (c : IntakeCall) : List String :=
  let left (s : String) : String := String.ofList (strip s.toList)
  ["Hello. This is Eden calling about urgent shelter intake availability.",
    "Is this intake staff for " ++ left c.shelterName ++ "?",
    "Context: " ++ left c.survivorContext ++ "." ++ c.callbackNumber.elim "" fun n =>
      " Please call back " ++ left n ++ " if disconnected.",
    "Please connect us with intake staff, or share voicemail instructions for immediate " ++
      "placement follow-up."]

theorem defaultLines_eq (c : IntakeCall) : defaultLines c = (sentences c).map String.toList := by
  have hquestion : "?".toList = ['?'] := rfl
  have hstop : ".".toList = ['.'] := rfl
  have hnothing : "".toList = [] := rfl
  unfold defaultLines sentences
  cases c.callbackNumber with
  | none =>
    simp only [List.map_cons, List.map_nil, String.toList_append, String.toList_ofList, Option.elim,
      hquestion, hstop, hnothing, List.append_nil]
  | some n =>
    simp only [List.map_cons, List.map_nil, String.toList_append, String.toList_ofList, Option.elim,
      hquestion, hstop, List.append_assoc, List.singleton_append]

theorem intakeLines_of_script {c : IntakeCall} {script : String} (h : c.script = some script)
    (hblank : Text.isBlankText (strip script.toList) = false) :
    intakeLines c = Speech.blocks (strip script.toList) := by
  unfold intakeLines
  rw [h, Option.map_some]
  dsimp only
  rw [hblank]
  rfl

theorem intakeLines_of_blank {c : IntakeCall}
    (h : ∀ script, c.script = some script → Text.isBlankText (strip script.toList) = true) :
    intakeLines c = (sentences c).map String.toList := by
  rw [← defaultLines_eq]
  unfold intakeLines
  cases hscript : c.script with
  | none => rfl
  | some script =>
    rw [Option.map_some]
    dsimp only
    rw [h script hscript]
    rfl

theorem spokenOf_intakeLines (c : IntakeCall) :
    ∀ line ∈ intakeLines c, SpokenOf c.strings line := by
  unfold intakeLines
  split
  · rename_i s hs
    obtain ⟨script, hscript, rfl⟩ := Option.map_eq_some_iff.1 hs
    have hmem : script ∈ c.strings := by simp [IntakeCall.strings, hscript]
    split
    · exact spokenOf_defaultLines c
    · exact (SpokenOf.strip hmem).blocks
  · exact spokenOf_defaultLines c

/-! ## Documents as they are read -/

mutual

/-- The texts in a tree. -/
def texts : Markup → List (List Char)
  | text s => [s]
  | element _ _ children => textsAll children

/-- The texts in some trees. -/
def textsAll : List Markup → List (List Char)
  | [] => []
  | m :: ms => texts m ++ textsAll ms

end

/-- No text in the tree could be taken for anything else. -/
def HoldsHarmless (m : Markup) : Prop := ∀ cs ∈ m.texts, Harmless cs

/-- What is handed out for a document is read as a tree of harmless texts. -/
structure ReadsAs (m tree : Markup) : Prop where
  read : tree? m.toString.toList = some tree
  harmless : tree.HoldsHarmless

/-- It is XML if XML has room for all characters of the texts and addresses in the tree, and then it
is the tree that XML has for this one. There is room for all of them if there is for those of the
strings that are given. -/
structure ParsesAs (given : List String) (m tree : Markup) : Prop extends ReadsAs m tree where
  xml : read? m.toString.toList = if tree.isXml then some tree.asXml else none
  isXml : (∀ s ∈ given, s.toList.all isXmlChar = true) → tree.isXml = true
  harmlessAsXml : tree.asXml.HoldsHarmless

/-- A text, if there is any. -/
def held (cs : List Char) : List Markup := if cs = [] then [] else [text cs]

/-- A sentence that is spoken. -/
def heard (cs : List Char) : Markup := element "Say" [] (held cs)

/-- Listening after some sentences. The address has lost what could end an attribute
or an element. -/
def listening (url : String) (sentences : List Markup) : Markup :=
  element "Gather" [("input", "speech".toList),
    ("action", url.toList.filter fun c => c ∉ ['<', '>', '\'', '"']), ("method", "POST".toList),
    ("timeout", "15".toList), ("speechTimeout", "auto".toList),
    ("hints", speechHints.toList)] sentences

/-! ### Harmless trees -/

theorem holdsHarmless_element (name : String) (attributes : List (String × List Char))
    {children : List Markup} (h : ∀ m ∈ children, HoldsHarmless m) :
    HoldsHarmless (element name attributes children) := by
  change ∀ cs ∈ textsAll children, Harmless cs
  induction children with
  | nil => exact fun cs hcs => absurd hcs List.not_mem_nil
  | cons m ms ih =>
    obtain ⟨hm, hms⟩ := List.forall_mem_cons.1 h
    intro cs hcs
    rcases List.mem_append.1 hcs with hcs | hcs
    · exact hm cs hcs
    · exact ih hms cs hcs

theorem holdsHarmless_held (name : String) (attributes : List (String × List Char))
    (h : Harmless cs) : HoldsHarmless (element name attributes (held cs)) := by
  refine holdsHarmless_element name attributes fun m hm => ?_
  unfold held at hm
  split at hm
  · exact absurd hm List.not_mem_nil
  · obtain rfl := List.mem_singleton.1 hm
    intro ds hds
    obtain rfl := List.mem_singleton.1 hds
    exact h

theorem holdsHarmless_map_heard {lines : List (List Char)}
    (h : ∀ line ∈ lines, SpokenOf given line) : ∀ m ∈ lines.map heard, HoldsHarmless m := by
  intro m hm
  obtain ⟨line, hline, rfl⟩ := List.mem_map.1 hm
  exact holdsHarmless_held "Say" [] (h line hline).harmless

mutual

theorem texts_mapText (f g : List Char → List Char) :
    ∀ m : Markup, (mapText f g m).texts = m.texts.map f
  | text _ => rfl
  | element _ _ children => textsAll_mapText f g children

theorem textsAll_mapText (f g : List Char → List Char) :
    ∀ ms : List Markup, textsAll (mapTextAll f g ms) = (textsAll ms).map f
  | [] => rfl
  | m :: ms => by
    rw [mapTextAll, textsAll, texts_mapText f g m, textsAll_mapText f g ms, textsAll,
      List.map_append]

end

/-- Settling line ends and blanks gives no character a meaning. -/
theorem HoldsHarmless.asXml {m : Markup} (h : m.HoldsHarmless) : m.asXml.HoldsHarmless := by
  unfold HoldsHarmless Markup.asXml withBlanks withLineEnds
  rw [texts_mapText, texts_mapText, List.map_id]
  intro cs hcs c hc
  obtain ⟨ds, hds, rfl⟩ := List.mem_map.1 hcs
  rcases mem_lineEnds hc with hc | rfl
  · exact h ds hds c hc
  · decide

/-! ### What the builders' trees are read as -/

theorem before_text_nil (cs : List Char) : before (text cs) [] = held cs := by
  cases cs <;> rfl

theorem tidy_say (cs : List Char) : tidy (say cs) = heard cs :=
  congrArg (element "Say" []) (before_text_nil cs)

theorem tidyAll_map_say (lines : List (List Char)) : tidyAll (lines.map say) = lines.map heard := by
  induction lines with
  | nil => rfl
  | cons line lines ih =>
    change before (tidy (say line)) (tidyAll (lines.map say)) = _
    rw [tidy_say, ih]
    rfl

/-- Of the characters that have a meaning only the ampersand stays in an address. -/
theorem attributeUrl_eq (url : String) :
    attributeUrl url = url.toList.filter fun c => c ∉ ['<', '>', '\'', '"'] := by
  have hmarks : "<>&'\"".toList = ['<', '>', '&', '\'', '"'] := rfl
  unfold attributeUrl isSpecial
  rw [hmarks]
  refine List.filter_congr fun c _ => ?_
  by_cases hamp : c = '&'
  · subst hamp
    rfl
  · simp [hamp]

theorem tidy_gather (url : String) (children : List Markup) :
    tidy (gather url children) = listening url (tidyAll children) := by
  unfold listening
  rw [← attributeUrl_eq]
  rfl

theorem wellNamed_bare {name : String} (hname : IsName name) {children : List Markup}
    (h : ∀ m ∈ children, WellNamed m) : WellNamed (element name [] children) :=
  .element hname (List.forall_mem_nil _) List.nodup_nil h

theorem wellNamed_say (cs : List Char) : WellNamed (say cs) :=
  wellNamed_bare (by decide) (List.forall_mem_singleton.2 (.text cs))

theorem wellNamed_map_say (lines : List (List Char)) : ∀ m ∈ lines.map say, WellNamed m :=
  List.forall_mem_map.2 fun line _ => wellNamed_say line

theorem wellNamed_gather (url : String) {children : List Markup} (h : ∀ m ∈ children, WellNamed m) :
    WellNamed (gather url children) := by
  have hkeys : ∀ key ∈ ["input", "action", "method", "timeout", "speechTimeout", "hints"],
      IsName key := by
    decide
  have hdistinct : ["input", "action", "method", "timeout", "speechTimeout",
      "hints"].Nodup := by decide
  exact .element (by decide) hkeys hdistinct h

theorem wellNamed_conference (cs : List Char) : WellNamed (element "Conference"
    [("startConferenceOnEnter", "true".toList), ("endConferenceOnExit", "false".toList)]
    [.text cs]) :=
  .element (by decide) (by decide) (by decide) (List.forall_mem_singleton.2 (.text cs))

theorem apart_say (cs : List Char) : Apart (say cs) := .leaf "Say" [] cs

theorem isXml_say (h : cs.all isXmlChar = true) : (say cs).isXml = true :=
  allChars_element "Say" rfl (List.forall_mem_singleton.2 h)

theorem isXml_gather {url : String} (hurl : url.toList.all isXmlChar = true)
    {children : List Markup} (h : ∀ m ∈ children, m.isXml = true) :
    (gather url children).isXml = true := by
  have haction : (attributeUrl url).all isXmlChar = true :=
    List.all_eq_true.2 fun c hc => List.all_eq_true.1 hurl c (List.mem_filter.1 hc).1
  have hfixed : ["speech", "POST", "15", "auto", speechHints].all (·.toList.all isXmlChar) =
      true := by
    decide +kernel
  simp only [List.all_cons, List.all_nil, Bool.and_true, Bool.and_eq_true] at hfixed
  obtain ⟨hinput, hmethod, htimeout, hspeech, hhints⟩ := hfixed
  refine allChars_element "Gather" ?_ h
  simp only [List.all_cons, List.all_nil, hinput, haction, hmethod, htimeout, hspeech, hhints,
    Bool.and_true]

/-- A document is read as the elements that it holds are, one after the other. -/
theorem parsesAs_response {children trees : List Markup} (hnamed : ∀ m ∈ children, WellNamed m)
    (hapart : ∀ m ∈ children, Apart m) (htidy : tidyAll children = trees)
    (hharmless : ∀ m ∈ trees, HoldsHarmless m)
    (hxml : (∀ s ∈ given, s.toList.all isXmlChar = true) → ∀ m ∈ children, m.isXml = true) :
    (response children).ParsesAs given (element "Response" [] trees) := by
  have hresponse : IsName "Response" := by decide
  have hwell := wellNamed_bare hresponse hnamed
  have htree : tidy (element "Response" [] children) = element "Response" [] trees := by
    rw [← htidy]
    rfl
  have hnode : Apart (element "Response" [] children) := .node "Response" [] hapart
  have hread := tree?_render hwell
  have hxmlRead := read?_render hwell hnode
  have hholds := holdsHarmless_element "Response" [] hharmless
  rw [htree] at hread hxmlRead
  have htext : (response children).toString.toList = render (element "Response" [] children) :=
    String.toList_ofList
  refine ⟨⟨htext ▸ hread, hholds⟩, htext ▸ hxmlRead, fun hgiven => ?_, hholds.asXml⟩
  rw [← htree, hnode.isXml_tidy]
  exact allChars_element "Response" rfl (hxml hgiven)

/-- Speaking and listening, and a sentence for when nothing is heard. -/
theorem gather_parsesAs {url : String} (hurl : url ∈ given) {lines : List (List Char)}
    {otherwise : List Char} (hlines : ∀ line ∈ lines, SpokenOf given line)
    (hotherwise : SpokenOf given otherwise) :
    (response [gather url (lines.map say), say otherwise]).ParsesAs given
      (element "Response" [] [listening url (lines.map heard), heard otherwise]) := by
  refine parsesAs_response ?_ ?_ ?_ ?_ fun hgiven => ?_
  · exact List.forall_mem_cons.2 ⟨wellNamed_gather url (wellNamed_map_say lines),
      List.forall_mem_singleton.2 (wellNamed_say otherwise)⟩
  · exact List.forall_mem_cons.2
      ⟨.node "Gather" _ (List.forall_mem_map.2 fun line _ => apart_say line),
        List.forall_mem_singleton.2 (apart_say otherwise)⟩
  · change before (tidy (gather url (lines.map say))) (before (tidy (say otherwise)) []) = _
    rw [tidy_gather, tidyAll_map_say, tidy_say]
    rfl
  · exact List.forall_mem_cons.2
      ⟨holdsHarmless_element "Gather" _ (holdsHarmless_map_heard hlines),
        List.forall_mem_singleton.2 (holdsHarmless_held "Say" [] hotherwise.harmless)⟩
  · exact List.forall_mem_cons.2
      ⟨isXml_gather (hgiven url hurl) (List.forall_mem_map.2 fun line hline =>
        isXml_say ((hlines line hline).all_isXmlChar hgiven)),
        List.forall_mem_singleton.2 (isXml_say (hotherwise.all_isXmlChar hgiven))⟩

theorem intake_parsesAs_plain {c : IntakeCall} (h : c.gatherUrl = none) :
    (intake c).ParsesAs c.strings (element "Response" [] ((intakeLines c).map heard)) := by
  unfold intake
  rw [h]
  refine parsesAs_response (wellNamed_map_say _)
    (List.forall_mem_map.2 fun line _ => apart_say line) (tidyAll_map_say _)
    (holdsHarmless_map_heard (spokenOf_intakeLines c)) fun hgiven => ?_
  exact List.forall_mem_map.2 fun line hline =>
    isXml_say ((spokenOf_intakeLines c line hline).all_isXmlChar hgiven)

theorem intake_parsesAs_gather {c : IntakeCall} {url : String} (h : c.gatherUrl = some url) :
    (intake c).ParsesAs c.strings (element "Response" [] [listening url ((intakeLines c).map heard),
      heard ("We did not receive a response. We will follow up through our usual channels. " ++
        "Goodbye.").toList]) := by
  have hurl : url ∈ c.strings := by simp [IntakeCall.strings, h]
  unfold intake
  rw [h]
  exact gather_parsesAs hurl (spokenOf_intakeLines c) (.plain (by decide +kernel))

theorem followUp_parsesAs_gather (reply url : String) :
    (followUp reply (some url) false).ParsesAs [reply, url] (element "Response" []
      [listening url [heard (strip reply.toList)],
        heard "We did not catch that. Goodbye.".toList]) := by
  have hlines : ∀ line ∈ [strip reply.toList], SpokenOf [reply, url] line :=
    List.forall_mem_singleton.2 (.strip List.mem_cons_self)
  exact gather_parsesAs (List.mem_cons_of_mem _ (List.mem_singleton_self url)) hlines
    (.plain (by decide +kernel))

theorem followUp_parsesAs_hangup (reply : String) {url : Option String} {endCall : Bool}
    (h : url = none ∨ endCall = true) :
    (followUp reply url endCall).ParsesAs [reply] (element "Response" []
      [heard (strip reply.toList), element "Hangup" [] []]) := by
  have hhangup : followUp reply url endCall =
      response [say (strip reply.toList), element "Hangup" [] []] := by
    rcases h with rfl | rfl
    · rfl
    · cases url <;> rfl
  have hspoken : SpokenOf [reply] (strip reply.toList) := .strip (List.mem_singleton_self reply)
  rw [hhangup]
  refine parsesAs_response ?_ ?_ ?_ ?_ fun hgiven => ?_
  · exact List.forall_mem_cons.2 ⟨wellNamed_say _,
      List.forall_mem_singleton.2 (wellNamed_bare (by decide) (List.forall_mem_nil _))⟩
  · exact List.forall_mem_cons.2 ⟨apart_say _,
      List.forall_mem_singleton.2 (.node "Hangup" [] (List.forall_mem_nil _))⟩
  · change before (tidy (say (strip reply.toList))) _ = _
    rw [tidy_say]
    rfl
  · exact List.forall_mem_cons.2 ⟨holdsHarmless_held "Say" [] hspoken.harmless,
      List.forall_mem_singleton.2 (holdsHarmless_element "Hangup" [] (List.forall_mem_nil _))⟩
  · exact List.forall_mem_cons.2 ⟨isXml_say (hspoken.all_isXmlChar hgiven),
      List.forall_mem_singleton.2 rfl⟩

theorem conferenceJoin_parsesAs (name : String) :
    (conferenceJoin name).ParsesAs [name] (element "Response" []
      [heard "Connecting you to an Eden assisted transfer line.".toList,
        element "Dial" [] [element "Conference"
          [("startConferenceOnEnter", "true".toList), ("endConferenceOnExit", "false".toList)]
          (held (strip name.toList))]]) := by
  have hspoken : SpokenOf [name] (strip name.toList) := .strip (List.mem_singleton_self name)
  have hfixed : SpokenOf [name] "Connecting you to an Eden assisted transfer line.".toList :=
    .plain (by decide +kernel)
  refine parsesAs_response ?_ ?_ ?_ ?_ fun hgiven => ?_
  · exact List.forall_mem_cons.2 ⟨wellNamed_say _, List.forall_mem_singleton.2
      (wellNamed_bare (by decide) (List.forall_mem_singleton.2 (wellNamed_conference _)))⟩
  · exact List.forall_mem_cons.2 ⟨apart_say _, List.forall_mem_singleton.2
      (.node "Dial" [] (List.forall_mem_singleton.2 (.leaf "Conference" _ _)))⟩
  · change before (tidy (say _)) [element "Dial" [] [element "Conference" _
      (before (text (strip name.toList)) [])]] = _
    rw [tidy_say, before_text_nil]
    rfl
  · exact List.forall_mem_cons.2 ⟨holdsHarmless_held "Say" [] hfixed.harmless,
      List.forall_mem_singleton.2 (holdsHarmless_element "Dial" []
        (List.forall_mem_singleton.2 (holdsHarmless_held "Conference" _ hspoken.harmless)))⟩
  · refine List.forall_mem_cons.2 ⟨isXml_say (hfixed.all_isXmlChar hgiven),
      List.forall_mem_singleton.2 (allChars_element "Dial" rfl (List.forall_mem_singleton.2 ?_))⟩
    exact allChars_element "Conference" (by decide)
      (List.forall_mem_singleton.2 (hspoken.all_isXmlChar hgiven))

/-- **No text breaks out of a document.** Each document is read as one response with the elements
that it was built from, and if XML has room for the characters of all that is given, it is XML and
read in this way. What is spoken has no character with a meaning in markup, and is the fixed
sentences with what is left of the names and texts in them, or the blocks of the script. A script of
which something is left to be spoken is spoken. -/
theorem no_text_breaks_out :
    (∀ c : IntakeCall, c.gatherUrl = none →
      (intake c).ParsesAs c.strings (element "Response" [] ((intakeLines c).map heard))) ∧
    (∀ (c : IntakeCall) (url : String), c.gatherUrl = some url →
      (intake c).ParsesAs c.strings (element "Response" []
        [listening url ((intakeLines c).map heard),
          heard ("We did not receive a response. We will follow up through our usual channels. " ++
            "Goodbye.").toList])) ∧
    (∀ (c : IntakeCall) (script : String), c.script = some script →
      Text.isBlankText (strip script.toList) = false →
      intakeLines c = Speech.blocks (strip script.toList) ∧ intakeLines c ≠ []) ∧
    (∀ c : IntakeCall,
      (∀ script, c.script = some script → Text.isBlankText (strip script.toList) = true) →
      intakeLines c = (sentences c).map String.toList) ∧
    (∀ reply url : String, (followUp reply (some url) false).ParsesAs [reply, url]
      (element "Response" [] [listening url [heard (strip reply.toList)],
        heard "We did not catch that. Goodbye.".toList])) ∧
    (∀ (reply : String) (url : Option String) (endCall : Bool), url = none ∨ endCall = true →
      (followUp reply url endCall).ParsesAs [reply] (element "Response" []
        [heard (strip reply.toList), element "Hangup" [] []])) ∧
    (∀ name : String, (conferenceJoin name).ParsesAs [name] (element "Response" []
      [heard "Connecting you to an Eden assisted transfer line.".toList,
        element "Dial" [] [element "Conference"
          [("startConferenceOnEnter", "true".toList), ("endConferenceOnExit", "false".toList)]
          (held (strip name.toList))]])) := by
  refine ⟨fun c => intake_parsesAs_plain, fun c url => intake_parsesAs_gather, ?_,
    fun c => intakeLines_of_blank, followUp_parsesAs_gather,
    fun reply url endCall => followUp_parsesAs_hangup reply, conferenceJoin_parsesAs⟩
  intro c script hscript hblank
  have hlines := intakeLines_of_script hscript hblank
  refine ⟨hlines, ?_⟩
  rw [hlines]
  obtain ⟨ch, hch, hspoken⟩ := List.all_eq_false.1 hblank
  exact Speech.blocks_ne_nil hch (Bool.eq_false_iff.2 hspoken)

/-- A call whose script and address try to end what they are put into. -/
def hostileCall : IntakeCall where
  shelterName := "Harbor House"
  survivorContext := "Needs a bed tonight."
  script := some "</Say><Hangup/>"
  gatherUrl := some "https://eden.test/gather?a=1&b=2\"><Hangup/>"

/-- What is left of the script is spoken, and nothing is hung up, by an address as little as by a
reply. All of it is XML. -/
theorem no_text_breaks_out_hostileCall :
    (intake hostileCall).ParsesAs hostileCall.strings (element "Response" []
      [listening "https://eden.test/gather?a=1&b=2\"><Hangup/>"
          ((intakeLines hostileCall).map heard),
        heard ("We did not receive a response. We will follow up through our usual channels. " ++
          "Goodbye.").toList]) ∧
    (∀ s ∈ hostileCall.strings, s.toList.all isXmlChar = true) ∧
    (read? (intake hostileCall).toString.toList).isSome = true ∧
    intakeLines hostileCall ≠ [] ∧
    read? (followUp "</Say><Hangup/>" none false).toString.toList = some (element "Response" []
      [heard "/SayHangup/".toList, element "Hangup" [] []]) := by
  obtain ⟨-, hgather, hscript, -, -, hhangup, -⟩ := no_text_breaks_out
  have hspoken := hscript hostileCall "</Say><Hangup/>" rfl (by decide)
  have hparses := hgather hostileCall "https://eden.test/gather?a=1&b=2\"><Hangup/>" rfl
  have hxml : ∀ s ∈ hostileCall.strings, s.toList.all isXmlChar = true := by decide +kernel
  have hreply := hhangup "</Say><Hangup/>" none false (Or.inl rfl)
  have hreplyXml := hreply.isXml (List.forall_mem_singleton.2 (by decide +kernel))
  refine ⟨hparses, hxml, ?_, hspoken.2, ?_⟩
  · rw [hparses.xml, if_pos (hparses.isXml hxml)]
    rfl
  · rw [hreply.xml, if_pos hreplyXml]
    rfl

/-- **A control character is spoken as it is, and the document with it is no XML.** A carriage
return is heard as a line feed, and a tab in an address is a blank. -/
theorem followUp_control_no_xml :
    read? (followUp "a\x01b" none false).toString.toList = none ∧
    read? (followUp "a\rb" none false).toString.toList =
      some (element "Response" [] [heard "a\nb".toList, element "Hangup" [] []]) ∧
    read? (followUp "a" (some "https://eden.test/a\tb") false).toString.toList =
      some (element "Response" [] [listening "https://eden.test/a b" [heard "a".toList],
        heard "We did not catch that. Goodbye.".toList]) := by
  refine ⟨?_, ?_, ?_⟩
  · rw [(followUp_parsesAs_hangup "a\x01b" (Or.inl rfl)).xml]
    rfl
  · rw [(followUp_parsesAs_hangup "a\rb" (Or.inl rfl)).xml]
    rfl
  · rw [(followUp_parsesAs_gather "a" "https://eden.test/a\tb").xml]
    rfl

end Markup

end ShelterLine
