import ShelterLine.Proofs.Lower
import ShelterLine.Proofs.Outcome

/-!
# A shelter that says it has no room

Two readers hear the same speech. The one that answers on the phone looks for the phrases of a
full shelter first; the one that reads transcripts looks for phrases of room first, so where
both are spoken it reports room. Of the phrases themselves only two can overlap, "no beds" and
"beds available". So a refusal is read as room just if the speech has "no beds available" in
it, or says both things apart from each other; any other refusal is not, and no survivor is
told of room because of it.
-/

namespace ShelterLine.Script

open Text

/-! ## What a full shelter is answered -/

/-- The answer to a shelter that is full. -/
def fullReply : SpokenReply :=
  ⟨"I understand you're at full capacity. Thank you for letting us know. We'll look for other " ++
    "options. Goodbye.", true⟩

theorem fullPhrases_plain : ∀ p ∈ fullPhrases, StartsPlain p.toList ∧ EndsPlain p.toList := by
  have hends : (fullPhrases.all fun p =>
      !p.toList.head?.any isBlank && !p.toList.getLast?.any isBlank) = true := by decide
  intro p hp
  have hp := List.all_eq_true.1 hends p hp
  simp only [Bool.and_eq_true, Bool.not_eq_true'] at hp
  refine ⟨fun c hc => ?_, fun c hc => ?_⟩
  · rw [hc] at hp
    exact hp.1
  · rw [hc] at hp
    exact hp.2

/-- **A shelter is answered as full just if a phrase of a full shelter is heard.** -/
theorem contextualReply_eq_full_iff (speech : String) :
    contextualReply speech = fullReply ↔ mentions fullPhrases (lower speech.toList) = true := by
  rw [← mentions_lower_trim fullPhrases_plain]
  unfold contextualReply
  generalize lower (trim speech.toList) = said
  dsimp only
  split
  · -- neither silence nor its report has any of the phrases in it
    rename_i hsilent
    have hnone : mentions fullPhrases said = false := by
      rcases hsilent with rfl | rfl <;> decide
    rw [hnone]
    exact ⟨fun h => absurd h (by decide), fun h => by cases h⟩
  split
  · rename_i hfull
    exact ⟨fun _ => hfull, fun _ => rfl⟩
  rename_i hfull
  refine ⟨fun h => absurd h ?_, fun h => absurd h hfull⟩
  -- none of the other answers is the one to a full shelter
  split
  · decide
  split
  · exact fun h => Bool.false_ne_true (congrArg SpokenReply.endCall h)
  split
  · exact fun h => Bool.false_ne_true (congrArg SpokenReply.endCall h)
  split
  · exact fun h => Bool.false_ne_true (congrArg SpokenReply.endCall h)
  · exact fun h => Bool.false_ne_true (congrArg SpokenReply.endCall h)

/-! ## Phrases that overlap -/

section

variable {p q u text : List Char}

/-- Both phrases stand in the text without sharing a character. -/
def Apart (p q text : List Char) : Prop :=
  ∃ a b c, text = a ++ (p ++ (b ++ (q ++ c))) ∨ text = a ++ (q ++ (b ++ (p ++ c)))

/-- The second phrase begins within the first, after `u`, and goes on as the first does. -/
def Enters (p q u : List Char) : Prop := ∃ v, p = u ++ v ∧ v ≠ [] ∧ (v <+: q ∨ q <+: v)

/-- Of two phrases the second begins after the first or within it. -/
theorem after_or_enters {b d : List Char} (h : p ++ b = u ++ (q ++ d)) :
    (∃ gap, u = p ++ gap ∧ b = gap ++ (q ++ d)) ∨ Enters p q u := by
  rcases List.append_eq_append_iff.1 h with ⟨gap, rfl, hb⟩ | ⟨v, hp, hv⟩
  · exact Or.inl ⟨gap, rfl, hb⟩
  · by_cases hnil : v = []
    · subst hnil
      rw [List.append_nil] at hp
      exact Or.inl ⟨[], by rw [hp, List.append_nil], hv.symm⟩
    · exact Or.inr ⟨v, hp, hnil,
        List.prefix_or_prefix_of_prefix ⟨b, hv.symm⟩ (List.prefix_append q d)⟩

/-- Two phrases in one text are apart, or one begins within the other. -/
theorem apart_or_enters (hp : p <:+: text) (hq : q <:+: text) :
    Apart p q text ∨ (∃ u, Enters p q u ∧ u ++ q <:+: text) ∨ ∃ u, Enters q p u := by
  obtain ⟨a, b, rfl⟩ := hp
  obtain ⟨c, d, hsplit⟩ := hq
  rw [List.append_assoc, List.append_assoc] at hsplit
  rcases List.append_eq_append_iff.1 hsplit.symm with ⟨u, rfl, hrest⟩ | ⟨u, rfl, hrest⟩
  · rcases after_or_enters hrest with ⟨gap, rfl, rfl⟩ | henters
    · exact Or.inl ⟨a, gap, d, Or.inl (by simp)⟩
    · exact Or.inr (Or.inl ⟨u, henters, a, d, by rw [List.append_assoc a p b, hrest]; simp⟩)
  · rcases after_or_enters hrest with ⟨gap, rfl, rfl⟩ | henters
    · exact Or.inl ⟨c, gap, b, Or.inr (by simp)⟩
    · exact Or.inr (Or.inr ⟨u, henters⟩)

/-- What may stand before a second phrase that begins within the first. -/
def entries (p q : List Char) : List (List Char) :=
  ((List.range p.length).filter fun k =>
    (p.drop k).isPrefixOf q || q.isPrefixOf (p.drop k)).map p.take

theorem mem_entries (h : Enters p q u) : u ∈ entries p q := by
  obtain ⟨v, rfl, hv, hcomparable⟩ := h
  have hlong := List.length_pos_iff.2 hv
  refine List.mem_map.2 ⟨u.length, List.mem_filter.2 ⟨List.mem_range.2 ?_, ?_⟩, List.take_left⟩
  · rw [List.length_append]
    omega
  · rw [List.drop_left]
    simpa using hcomparable

/-- The one way in which phrases of a full shelter and of room overlap. -/
def overlapping : List Char := "no beds available".toList

theorem entries_full : (fullPhrases.all fun p => availablePhrases.all fun q =>
    (entries p.toList q.toList).all fun u => u ++ q.toList == overlapping) = true := by
  decide +kernel

theorem entries_available : (fullPhrases.all fun p => availablePhrases.all fun q =>
    (entries q.toList p.toList).isEmpty) = true := by
  decide +kernel

end

/-! ## Refusals that are read as room -/

/-- A phrase of a full shelter and one of room: the two that overlap, or any two apart
from each other. -/
def SaysBoth (said : List Char) : Prop :=
  overlapping <:+: said ∨ ∃ p ∈ fullPhrases, ∃ q ∈ availablePhrases, Apart p.toList q.toList said

theorem saysBoth_iff {said : List Char} :
    SaysBoth said ↔ mentions fullPhrases said = true ∧ mentions availablePhrases said = true := by
  rw [mentions_iff, mentions_iff]
  constructor
  · rintro (hoverlap | ⟨p, hp, q, hq, a, b, c, rfl | rfl⟩)
    · have hfull : "no beds".toList <:+: overlapping := ⟨[], " available".toList, rfl⟩
      have hroom : "beds available".toList <:+: overlapping := ⟨"no ".toList, [], rfl⟩
      exact ⟨⟨"no beds", by decide, hfull.trans hoverlap⟩,
        ⟨"beds available", by decide, hroom.trans hoverlap⟩⟩
    · exact ⟨⟨p, hp, a, b ++ (q.toList ++ c), by simp⟩, ⟨q, hq, a ++ (p.toList ++ b), c, by simp⟩⟩
    · exact ⟨⟨p, hp, a ++ (q.toList ++ b), c, by simp⟩, ⟨q, hq, a, b ++ (p.toList ++ c), by simp⟩⟩
  · rintro ⟨⟨p, hp, hfull⟩, ⟨q, hq, hroom⟩⟩
    rcases apart_or_enters hfull hroom with hapart | ⟨u, henters, hmerged⟩ | ⟨u, henters⟩
    · exact Or.inr ⟨p, hp, q, hq, hapart⟩
    · have hmerge := List.all_eq_true.1
        (List.all_eq_true.1 (List.all_eq_true.1 entries_full p hp) q hq) u (mem_entries henters)
      rw [beq_iff_eq] at hmerge
      exact Or.inl (hmerge ▸ hmerged)
    · have hnone := List.all_eq_true.1 (List.all_eq_true.1 entries_available p hp) q hq
      rw [List.isEmpty_iff] at hnone
      exact absurd (mem_entries henters) (by rw [hnone]; exact List.not_mem_nil)

theorem phraseReport_available_iff (speech : String) :
    (phraseReport speech).availability = .available ↔
      mentions availablePhrases (lower speech.toList) = true := by
  change phraseAvailability (lower speech.toList) = .available ↔ _
  unfold phraseAvailability
  split
  · rename_i hroom
    exact ⟨fun _ => hroom, fun _ => rfl⟩
  · rename_i hroom
    refine ⟨fun h => ?_, fun h => absurd h hroom⟩
    split at h <;> cases h

/-- Nobody is told of room that was not reported. -/
theorem transcriptMessages_of_unavailable {s : Surroundings} {g : Gate} {j : Job} {a : Attempt}
    {text : String} {report : IntakeReport} (h : report.availability ≠ .available) :
    Desk.transcriptMessages s g j a text report = [] := by
  have hnobody : Desk.survivorNumber? g j report = none := by
    unfold Desk.survivorNumber?
    rw [if_neg fun hroom => h hroom.1]
  unfold Desk.transcriptMessages
  rw [hnobody]

/-- **When a refusal is read as room.** A shelter is answered as full just if a phrase of a
full shelter is heard, whatever blanks are around the speech. Such a speech is reported as room
just if it has "no beds available" in it, or a phrase of a full shelter and a phrase of room
apart from each other; if neither, then whatever the job and its surroundings are, the survivor
gets no message about it. -/
theorem refusal_read_as_room_iff (speech : String) :
    (contextualReply speech = fullReply ↔ ∃ p ∈ fullPhrases, p.toList <:+: lower speech.toList) ∧
    (contextualReply speech = fullReply ∧ (phraseReport speech).availability = .available ↔
      SaysBoth (lower speech.toList)) ∧
    ∀ s g j a, Desk.transcriptMessages s g j a speech (phraseReport speech) ≠ [] →
      contextualReply speech = fullReply → SaysBoth (lower speech.toList) := by
  have hboth : contextualReply speech = fullReply ∧
      (phraseReport speech).availability = .available ↔ SaysBoth (lower speech.toList) := by
    rw [contextualReply_eq_full_iff, phraseReport_available_iff, saysBoth_iff]
  refine ⟨?_, hboth, fun s g j a htold hfull => ?_⟩
  · rw [contextualReply_eq_full_iff, mentions_iff]
  · refine hboth.1 ⟨hfull, ?_⟩
    by_contra hunavailable
    exact htold (transcriptMessages_of_unavailable hunavailable)

/-- A survivor with a number is told of room that a shelter has just said it does not have. -/
theorem refusal_read_as_room_iff_survivorTold :
    ∃ j a, ((Desk.ofConfig {}).run
      [(.calm, .startJob Desk.reachableSurvivor)]).jobs.findSid? "CA0" = some (j, a) ∧
      Desk.transcriptMessages .calm (.ofConfig {}) j a "no beds available"
        (phraseReport "no beds available") ≠ [] ∧
      SaysBoth (lower "no beds available".toList) := by
  have htold : (((Desk.ofConfig {}).run [(.calm, .startJob Desk.reachableSurvivor)]).jobs.findSid?
      "CA0").any (fun found => !(Desk.transcriptMessages .calm (.ofConfig {}) found.1 found.2
        "no beds available" (phraseReport "no beds available")).isEmpty) = true := by
    decide +kernel
  obtain ⟨⟨j, a⟩, hfind, htold⟩ := (Option.any_eq_true _ _).1 htold
  have hmessages : Desk.transcriptMessages .calm (.ofConfig {}) j a "no beds available"
      (phraseReport "no beds available") ≠ [] := by simpa using htold
  have hfull : contextualReply "no beds available" = fullReply := by decide +kernel
  exact ⟨j, a, hfind, hmessages,
    (refusal_read_as_room_iff "no beds available").2.2 .calm (.ofConfig {}) j a hmessages hfull⟩

/-- One reader hears a refusal where the other hears room. -/
theorem noBedsAvailable_read_as_room : contextualReply "no beds available" = fullReply ∧
    (phraseReport "no beds available").availability = .available := by
  decide +kernel

end ShelterLine.Script
