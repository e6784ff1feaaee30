import Mathlib.Data.List.TakeDrop
import ShelterLine.Proofs.Document
import ShelterLine.Script.Fallback

/-!
# How much of the script is spoken

The script that needs no model has nine fixed sentences, the question that names the shelter,
the survivor's context, and the line about calling back, and just twelve sentences are
spoken. So all of it is spoken if each of the three is one sentence, as it is if what they
tell has no line's end and no sentence's end in it. With any sentence more the last one goes,
which says whom to call in danger.
-/

namespace ShelterLine

namespace Markup

/-! ## What is said in a document -/

mutual

/-- The texts that are spoken in a document, in their order. -/
def said : Markup → List (List Char)
  | text _ => []
  | element name _ children => if name = "Say" then textsAll children else saidAll children

/-- The texts that are spoken in some documents. -/
def saidAll : List Markup → List (List Char)
  | [] => []
  | m :: ms => said m ++ saidAll ms

end

/-- What is said when nothing is heard. -/
def afterSilence (url : Option String) : List (List Char) :=
  if url.isSome then
    [("We did not receive a response. We will follow up through our usual channels. " ++
      "Goodbye.").toList]
  else []

theorem saidAll_map_heard {lines : List (List Char)} (h : ∀ line ∈ lines, line ≠ []) :
    saidAll (lines.map heard) = lines := by
  induction lines with
  | nil => rfl
  | cons line lines ih =>
    obtain ⟨hline, hlines⟩ := List.forall_mem_cons.1 h
    have hsaid : said (heard line) = [line] := by
      unfold heard held
      rw [if_neg hline]
      rfl
    rw [List.map_cons, saidAll, hsaid, ih hlines, List.singleton_append]

/-- Of a script of which something can be spoken the first sentences are said, and no more. -/
theorem intake_said {c : IntakeCall} {script : String} (h : c.script = some script)
    (hblank : Text.isBlankText (strip script.toList) = false) :
    ∃ tree, (intake c).ReadsAs tree ∧
      said tree = (Speech.sentences (strip script.toList)).take Speech.maxBlocks ++
        afterSilence c.gatherUrl := by
  have hlines := intakeLines_of_script h hblank
  have hsaid : saidAll ((intakeLines c).map heard) =
      (Speech.sentences (strip script.toList)).take Speech.maxBlocks := by
    rw [hlines, Speech.blocks_eq]
    exact saidAll_map_heard fun line hline => Speech.ne_nil_of_mem_sentences
      (List.mem_of_mem_take hline)
  cases hurl : c.gatherUrl with
  | none =>
    refine ⟨_, (intake_parsesAs_plain hurl).toReadsAs, ?_⟩
    change saidAll ((intakeLines c).map heard) = _
    rw [hsaid]
    exact (List.append_nil _).symm
  | some url =>
    refine ⟨_, (intake_parsesAs_gather hurl).toReadsAs, ?_⟩
    change saidAll ((intakeLines c).map heard) ++ _ = _
    rw [hsaid]
    rfl

/-! ## Markup taken out of lines -/

theorem strip_append (xs ys : List Char) : strip (xs ++ ys) = strip xs ++ strip ys :=
  List.filter_append ..

theorem strip_intercalate (lines : List (List Char)) :
    strip (['\n'].intercalate lines) = ['\n'].intercalate (lines.map strip) := by
  induction lines with
  | nil => rfl
  | cons line lines ih =>
    cases lines with
    | nil => simp
    | cons next lines =>
      rw [List.intercalate_cons_cons, strip_append, strip_append, ih, List.map_cons, List.map_cons,
        List.map_cons, List.intercalate_cons_cons]
      rfl

end Markup

namespace Script

open Markup hiding sentences
open Speech

/-! ## The sentences of the script -/

/-- The question that names the shelter. -/
def nameQuestion (i : Input) : List Char :=
  "Is this the intake line for ".toList ++ strip i.shelterName.toList ++ ['?']

/-- The line that tells of the survivor. -/
def contextLine (i : Input) : List Char :=
  "Brief context: ".toList ++ strip i.survivorContext.toList

/-- The line about calling back. -/
def callbackSpoken (i : Input) : List Char := strip (callbackLine i.callbackNumber).toList

/-- What comes before the questions. -/
def opening (i : Input) : List (List Char) :=
  ["Hi, Im Eden.".toList, "Im calling on behalf of someone who needs emergency shelter.".toList] ++
    sentences (nameQuestion i) ++
    ["Im reaching out from a placement coordination service.".toList,
      "We have a person seeking safe housing.".toList] ++
    sentences (contextLine i)

/-- What is asked of every shelter: for a bed, for the waitlist, and what to have ready. -/
def questionLines : List String := [
  "Can you tell me: do you have any beds available tonight?",
  "If not, is there a waitlist or a good time for us to call back?",
  "What intake requirements should we have ready before they arrive?"]

/-- The questions as they are spoken. -/
def questions : List (List Char) := questionLines.map String.toList

/-- What is said at the end. -/
def farewell : List (List Char) :=
  ["Thank you.".toList, "For immediate danger, people are directed to 911.".toList]

/-- The questions and what comes after them. -/
def closing (i : Input) : List (List Char) := questions ++ sentences (callbackSpoken i) ++ farewell

/-- Who is calling, and on whose behalf. -/
def greeting : String :=
  "Hi, I'm " ++ agentName ++ ". I'm calling on behalf of someone who needs emergency shelter. "

/-- The first line: the greeting, and whether this is the shelter. -/
def greetingLine (i : Input) : String :=
  greeting ++ ("Is this the intake line for " ++ i.shelterName ++ "?")

/-- Where the call is from, and whom it is for. -/
def introduction : String :=
  "I'm reaching out from a placement coordination service. We have a person seeking safe housing. "

/-- The second line: the introduction and the survivor's context. -/
def introductionLine (i : Input) : String :=
  introduction ++ ("Brief context: " ++ i.survivorContext)

/-- The last line. -/
def farewellLine : String := "Thank you. For immediate danger, people are directed to 911."

theorem fallbackLines_eq (i : Input) : fallbackLines i = greetingLine i :: introductionLine i ::
    (questionLines ++ [callbackLine i.callbackNumber, farewellLine]) := rfl

theorem sentences_greeting (i : Input) : sentences (strip (greetingLine i).toList) =
    ["Hi, Im Eden.".toList,
      "Im calling on behalf of someone who needs emergency shelter.".toList] ++
      sentences (nameQuestion i) := by
  have hfixed : ['.', ' '] <:+ strip greeting.toList ∧ sentences (strip greeting.toList) =
        ["Hi, Im Eden.".toList,
          "Im calling on behalf of someone who needs emergency shelter.".toList] := by
    decide +kernel
  have hquestion : strip ("Is this the intake line for " ++ i.shelterName ++ "?").toList =
      nameQuestion i := by
    rw [String.toList_append, String.toList_append, strip_append, strip_append]
    rfl
  unfold greetingLine
  rw [String.toList_append, strip_append, sentences_append hfixed.1 rfl rfl, hfixed.2, hquestion]

theorem sentences_introduction (i : Input) : sentences (strip (introductionLine i).toList) =
    ["Im reaching out from a placement coordination service.".toList,
      "We have a person seeking safe housing.".toList] ++ sentences (contextLine i) := by
  have hfixed : ['.', ' '] <:+ strip introduction.toList ∧ sentences (strip introduction.toList) =
        ["Im reaching out from a placement coordination service.".toList,
          "We have a person seeking safe housing.".toList] := by
    decide +kernel
  have hcontext : strip ("Brief context: " ++ i.survivorContext).toList = contextLine i := by
    rw [String.toList_append, strip_append]
    rfl
  unfold introductionLine
  rw [String.toList_append, strip_append, sentences_append hfixed.1 rfl rfl, hfixed.2, hcontext]

/-- **The sentences of the script, those of each line after those of the one before.** -/
theorem sentences_fallback (i : Input) :
    sentences (strip (fallback i).toList) = opening i ++ closing i := by
  have hend : "\n".toList = ['\n'] := rfl
  have hquestions : questionLines.flatMap (fun line => sentences (strip line.toList)) =
      questions := by
    decide +kernel
  have hfarewell : sentences (strip farewellLine.toList) = farewell := by decide +kernel
  have heach : (((fallbackLines i).map String.toList).map strip).flatMap sentences =
      (fallbackLines i).flatMap fun line => sentences (strip line.toList) := by
    rw [List.map_map, List.flatMap_map]
    rfl
  unfold fallback
  rw [String.toList_intercalate, hend, strip_intercalate, sentences_intercalate, heach,
    fallbackLines_eq, List.flatMap_cons, List.flatMap_cons, List.flatMap_append, List.flatMap_cons,
    List.flatMap_singleton, sentences_greeting, sentences_introduction, hquestions, hfarewell]
  simp [opening, closing, callbackSpoken]

/-! ## Speaking the script -/

/-- The call that is placed with the script that needs no model. -/
def fallbackCall (i : Input) (url : Option String) : IntakeCall where
  shelterName := i.shelterName
  survivorContext := i.survivorContext
  callbackNumber := i.callbackNumber
  script := some (fallback i)
  gatherUrl := url

/-- The first twelve sentences of the script are said, and no more of it. -/
theorem fallbackCall_said (i : Input) (url : Option String) :
    ∃ tree, (intake (fallbackCall i url)).ReadsAs tree ∧
      said tree = (opening i ++ closing i).take maxBlocks ++ afterSilence url := by
  have hfirst : "Hi, Im Eden.".toList ∈ blocks (strip (fallback i).toList) := by
    rw [blocks_eq, sentences_fallback]
    exact List.mem_cons_self
  have hspoken : Text.isBlankText (strip (fallback i).toList) = false :=
    List.all_eq_false.2 ⟨'H', mem_of_mem_blocks hfirst (by decide), by decide⟩
  have hsaid := @intake_said (fallbackCall i url) (fallback i) rfl hspoken
  rwa [sentences_fallback] at hsaid

theorem callbackSpoken_eq (i : Input) : callbackSpoken i =
    match i.callbackNumber with
    | some number =>
      "If disconnected, please return the call at ".toList ++ strip number.toList ++ ['.']
    | none => "If disconnected, we can call back through official shelter channels.".toList := by
  unfold callbackSpoken
  cases i.callbackNumber with
  | none => decide +kernel
  | some number =>
    change strip ("If disconnected, please return the call at " ++ number ++ ".").toList = _
    rw [String.toList_append, String.toList_append, strip_append, strip_append]
    rfl

theorem callbackSpoken_head (i : Input) : (callbackSpoken i).head? = some 'I' := by
  rw [callbackSpoken_eq]
  cases i.callbackNumber <;> rfl

theorem mem_contextLine (i : Input) : 'B' ∈ contextLine i :=
  List.mem_append_left _ List.mem_cons_self

theorem mem_nameQuestion (i : Input) : 'I' ∈ nameQuestion i :=
  List.mem_append_left _ (List.mem_append_left _ List.mem_cons_self)

theorem mem_callbackSpoken (i : Input) : 'I' ∈ callbackSpoken i :=
  List.mem_of_mem_head? (callbackSpoken_head i)

theorem length_script (i : Input) : (opening i ++ closing i).length =
    9 + ((sentences (nameQuestion i)).length + (sentences (contextLine i)).length +
      (sentences (callbackSpoken i)).length) := by
  have hquestions : questions.length = 3 := rfl
  have hfarewell : farewell.length = 2 := rfl
  simp only [opening, closing, List.length_append, List.length_cons, List.length_nil,
    hquestions, hfarewell]
  omega

/-- Nothing is left out just if each of the lines that tell something is one sentence. -/
theorem take_script_eq_iff (i : Input) :
    (opening i ++ closing i).take maxBlocks = opening i ++ closing i ↔
    (sentences (nameQuestion i)).length = 1 ∧ (sentences (contextLine i)).length = 1 ∧
      (sentences (callbackSpoken i)).length = 1 := by
  have hname := length_sentences_pos (mem_nameQuestion i) (by decide)
  have hcontext := length_sentences_pos (mem_contextLine i) (by decide)
  have hcallback := length_sentences_pos (mem_callbackSpoken i) (by decide)
  have hmax : maxBlocks = 12 := rfl
  rw [List.take_eq_self_iff, length_script, hmax]
  omega

/-! ## Lines of one sentence -/

/-- A fixed text that ends in a blank is unbroken with what follows. -/
theorem unbroken_told {front told : List Char} (hfront : Unbroken front)
    (hblank : front.getLast? = some ' ') (h : Unbroken told) : Unbroken (front ++ told) := by
  refine hfront.append h (Or.inl fun c hc => ?_)
  rw [hblank] at hc
  obtain rfl := Option.some.inj hc
  rfl

theorem unbroken_nameQuestion {i : Input} (h : Unbroken (strip i.shelterName.toList)) :
    Unbroken (nameQuestion i) :=
  (unbroken_told (by decide) (by decide) h).append (by decide) (Or.inr rfl)

theorem unbroken_contextLine {i : Input} (h : Unbroken (strip i.survivorContext.toList)) :
    Unbroken (contextLine i) :=
  unbroken_told (by decide) (by decide) h

theorem unbroken_callbackSpoken {i : Input}
    (h : ∀ number, i.callbackNumber = some number → Unbroken (strip number.toList)) :
    Unbroken (callbackSpoken i) := by
  rw [callbackSpoken_eq]
  cases hnumber : i.callbackNumber with
  | none => decide +kernel
  | some number =>
    exact (unbroken_told (by decide) (by decide) (h number hnumber)).append (by decide) (Or.inr rfl)

theorem trim_callbackSpoken (i : Input) : Text.trim (callbackSpoken i) = callbackSpoken i := by
  have hlast : (callbackSpoken i).getLast? = some '.' := by
    rw [callbackSpoken_eq]
    cases i.callbackNumber with
    | none => decide +kernel
    | some number => exact List.getLast?_concat
  exact Text.trim_eq_self (Text.startsPlain_of_head (callbackSpoken_head i) (by decide))
    (Text.endsPlain_of_last hlast (by decide))

/-- **How much of the script is spoken.** Whatever is told of the shelter, the survivor and the
number to call, the document of the call is read as one in which the first twelve sentences of the
script are said, in their order. All are just if the question that names the shelter, the context
and the line about calling back are one sentence each. If what they tell is unbroken, then the
three questions, the line about calling back as a whole, the thanks and the line about danger are
said one after the other. -/
theorem fallback_spoken (i : Input) (url : Option String) :
    ∃ tree, (intake (fallbackCall i url)).ReadsAs tree ∧
      said tree = (opening i ++ closing i).take maxBlocks ++ afterSilence url ∧
      (said tree = opening i ++ closing i ++ afterSilence url ↔
        (sentences (nameQuestion i)).length = 1 ∧ (sentences (contextLine i)).length = 1 ∧
          (sentences (callbackSpoken i)).length = 1) ∧
      (Unbroken (strip i.shelterName.toList) → Unbroken (strip i.survivorContext.toList) →
        (∀ number, i.callbackNumber = some number → Unbroken (strip number.toList)) →
        questions ++ callbackSpoken i :: farewell <:+: said tree) := by
  obtain ⟨tree, hread, hsaid⟩ := fallbackCall_said i url
  have hall : said tree = opening i ++ closing i ++ afterSilence url ↔
      (sentences (nameQuestion i)).length = 1 ∧ (sentences (contextLine i)).length = 1 ∧
        (sentences (callbackSpoken i)).length = 1 := by
    rw [← take_script_eq_iff, hsaid, List.append_left_inj]
  refine ⟨tree, hread, hsaid, hall, fun hname hcontext hcallback => ?_⟩
  have hnameSentence := sentences_of_unbroken (unbroken_nameQuestion hname)
    (mem_nameQuestion i) (by decide)
  have hcontextSentence :=
    sentences_of_unbroken (unbroken_contextLine hcontext) (mem_contextLine i) (by decide)
  have hcallbackSentence :=
    sentences_of_unbroken (unbroken_callbackSpoken hcallback) (mem_callbackSpoken i) (by decide)
  rw [trim_callbackSpoken] at hcallbackSentence
  rw [hall.2 ⟨by rw [hnameSentence]; rfl,
    by rw [hcontextSentence]; rfl, by rw [hcallbackSentence]; rfl⟩]
  refine ⟨opening i, afterSilence url, ?_⟩
  unfold closing
  rw [hcallbackSentence]
  simp

/-- A call with something of each kind to tell. -/
def harborHouse : Input :=
  ⟨"Harbor House", "One adult, needs a bed tonight.", some "(510) 555-0100"⟩

/-- All that is told is unbroken, so all is spoken. -/
theorem fallback_spoken_harborHouse :
    ∃ tree, (intake (fallbackCall harborHouse none)).ReadsAs tree ∧
      questions ++ "If disconnected, please return the call at (510) 555-0100.".toList ::
        farewell <:+: said tree := by
  obtain ⟨tree, hread, -, -, hspoken⟩ := fallback_spoken harborHouse none
  refine ⟨tree, hread, hspoken (by decide +kernel) (by decide +kernel) fun number hnumber => ?_⟩
  obtain rfl := Option.some.inj hnumber
  decide +kernel

/-- A survivor's context of two sentences. -/
def twoSentences : Input := ⟨"Harbor House", "One adult. Two children.", none⟩

/-- With one sentence more nobody is told whom to call in danger. -/
theorem twoSentences_leave_out_danger :
    ∃ tree, (intake (fallbackCall twoSentences none)).ReadsAs tree ∧
    "For immediate danger, people are directed to 911.".toList ∉ said tree := by
  obtain ⟨tree, hread, hsaid⟩ := fallbackCall_said twoSentences none
  refine ⟨tree, hread, ?_⟩
  rw [hsaid]
  decide +kernel

end Script

end ShelterLine
