import SpoilerMarkup.Proofs.Node.Close

/-!
A tree loses nothing of its stream and repeats nothing, however the stream is balanced. A builder
adds to the events of its tree what it takes, or lets a text grow by it; only closing tags can get
lost or come in, and these are no content. Main statement: `content_toEvents_ofEvents`.
-/
namespace SpoilerMarkup

namespace Event

/-- The tag of an event that opens an element. -/
def startTag? : Event → Option Tag
  | .start tag => some tag
  | _ => none

/-- The tags that open elements in a stream, in order. -/
def startTags (events : List Event) : List Tag :=
  events.filterMap startTag?

/-- What stands between the tags of a stream. Texts that are neighbours without the tags are
joined, and the two kinds of raw markup are not told apart. -/
def content (events : List Event) : List Event :=
  joinTexts (fun _ => true) 0 ((events.filter isContent).map plain)

/-- Two streams open the same elements and have the same content. -/
structure SameContent (events events' : List Event) : Prop where
  startTags : startTags events = startTags events'
  content : content events = content events'

theorem SameContent.refl (events : List Event) : SameContent events events :=
  ⟨rfl, rfl⟩

theorem SameContent.symm {events events' : List Event} (h : SameContent events events') :
    SameContent events' events :=
  ⟨h.startTags.symm, h.content.symm⟩

theorem SameContent.trans {events events' events'' : List Event} (h : SameContent events events')
    (h' : SameContent events' events'') : SameContent events events'' :=
  ⟨h.startTags.trans h'.startTags, h.content.trans h'.content⟩

theorem startTag?_plain (event : Event) : event.plain.startTag? = event.startTag? := by
  cases event <;> rfl

theorem isContent_plain (event : Event) : event.plain.isContent = event.isContent := by
  cases event <;> rfl

/-- Closing tags are no content. -/
theorem sameContent_finish (before : List Event) (tags : List EndTag) (after : List Event) :
    SameContent (before ++ tags.map .finish ++ after) (before ++ after) := by
  have htags : (tags.map Event.finish).filterMap startTag? = [] := by
    simp [startTag?, List.filterMap_eq_nil_iff]
  have hcontent : (tags.map Event.finish).filter isContent = [] := by
    simp [isContent, List.filter_eq_nil_iff]
  constructor
  · simp only [startTags, List.filterMap_append, htags, List.append_nil]
  · simp only [content, List.filter_append, hcontent, List.append_nil]

/-- Raw markup of one kind is the same content as raw markup of the other. -/
theorem sameContent_of_plain {event event' : Event} (h : event.plain = event'.plain)
    (before after : List Event) :
    SameContent (before ++ event :: after) (before ++ event' :: after) := by
  have htag : event.startTag? = event'.startTag? := by
    rw [← startTag?_plain, h, startTag?_plain]
  have hcontent : event.isContent = event'.isContent := by
    rw [← isContent_plain, h, isContent_plain]
  constructor
  · simp only [startTags, List.filterMap_append, List.filterMap_cons, htag]
  · simp only [content, List.filter_append, List.filter_cons, hcontent]
    split <;> simp [h]

/-- A text that has grown is the same content as two neighbouring texts. -/
theorem sameContent_texts (before : List Event) (value value' : String) (after : List Event) :
    SameContent (before ++ .text (value ++ value') :: after)
      (before ++ .text value :: .text value' :: after) := by
  constructor
  · simp only [startTags, List.filterMap_append, List.filterMap_cons, startTag?]
  · have hjoined (before after : List Event) :
        joinTexts (fun _ => true) 0 (before ++ .text value :: .text value' :: after) =
          joinTexts (fun _ => true) 0 (before ++ .text (value ++ value') :: after) :=
      joinTexts_append_texts 0 before after value value' rfl
    simpa [content, List.filter_cons, isContent, plain] using
      (hjoined ((before.filter isContent).map plain) ((after.filter isContent).map plain)).symm

end Event

open Event

namespace Builder

variable {b : Builder}

theorem exists_hasOpen (b : Builder) : ∃ opened, b.HasOpen opened := by
  cases hverbatim : b.verbatim with
  | none => exact ⟨_, (hasOpen_of_none hverbatim).2 rfl⟩
  | some element =>
    have hlength : (List.replicate element.depth element.tag).length = element.depth :=
      List.length_replicate
    exact ⟨_, (hasOpen_of_some hverbatim).2 ⟨_, hlength, rfl⟩⟩

theorem plain_kept (b : Builder) (event : Event) : (b.kept event).plain = event.plain := by
  obtain ⟨opened, hopen⟩ := exists_hasOpen b
  rw [kept_eq hopen]
  split
  · exact plain_settled _ event
  · rfl

/-- Any event that closes nothing is added as it is kept, or it is a text by which the last one
grows. -/
theorem toEvents_push_of_not_finish {event : Event} (h : ∀ tag, event ≠ .finish tag) :
    (b.push event).toEvents = b.toEvents ++ [b.kept event] ∨
      ∃ before last value, event = .text value ∧ b.toEvents = before ++ [.text last] ∧
        (b.push event).toEvents = before ++ [.text (last ++ value)] := by
  obtain ⟨opened, hopen⟩ := exists_hasOpen b
  have hstep : openAfter? opened event = some (openAfter opened event) := by
    cases event with
    | finish tag => exact absurd rfl (h tag)
    | _ => rfl
  cases hverbatim : b.verbatim with
  | some element =>
    have hkept : b.kept event = event := by simp [kept, hverbatim]
    rw [push_of_some hverbatim, hkept]
    exact .inl (pushVerbatim_spec hverbatim hopen hstep).2
  | none =>
    rw [push_of_none hverbatim]
    exact (pushContent_spec hverbatim hopen hstep).2

/-- A closing tag adds a closing tag, perhaps another one, or nothing. -/
theorem toEvents_push_finish (b : Builder) (tag : EndTag) :
    ∃ tags : List EndTag, (b.push (.finish tag)).toEvents = b.toEvents ++ tags.map .finish := by
  cases hverbatim : b.verbatim with
  | some element =>
    rw [push_of_some hverbatim]
    cases hdepth : element.depth with
    | zero =>
      rw [pushVerbatim_finish hverbatim hdepth, toEvents_closeVerbatim hverbatim]
      exact ⟨[element.tag.close], rfl⟩
    | succ depth =>
      refine ⟨[tag], ?_⟩
      simp [pushVerbatim, hdepth, toEvents, verbatimEvents, hverbatim]
  | none =>
    rw [push_of_none hverbatim, pushContent]
    cases hopened : b.opened with
    | nil => exact ⟨[], by simp [closeElement, hopened]⟩
    | cons element outer =>
      rw [toEvents_closeElement hverbatim hopened]
      exact ⟨[element.tag.close], rfl⟩

/-- Taking an event keeps the content of what has been taken and what is still to come. -/
theorem sameContent_push (b : Builder) (event : Event) (events : List Event) :
    SameContent ((b.push event).toEvents ++ events) (b.toEvents ++ event :: events) := by
  by_cases hfinish : ∃ tag, event = .finish tag
  · obtain ⟨tag, rfl⟩ := hfinish
    obtain ⟨tags, hevents⟩ := toEvents_push_finish b tag
    have hstray := sameContent_finish b.toEvents [tag] events
    rw [List.map_singleton, List.append_assoc, List.singleton_append] at hstray
    rw [hevents]
    exact (sameContent_finish b.toEvents tags events).trans hstray.symm
  · have hnot : ∀ tag, event ≠ .finish tag := fun tag he => hfinish ⟨tag, he⟩
    rcases toEvents_push_of_not_finish (b := b) hnot with
      hevents | ⟨before, last, value, rfl, hbefore, hevents⟩
    · rw [hevents, List.append_assoc, List.singleton_append]
      exact sameContent_of_plain (plain_kept b event) b.toEvents events
    · rw [hevents, hbefore, List.append_assoc, List.append_assoc, List.singleton_append,
        List.singleton_append]
      exact sameContent_texts before last value events

theorem sameContent_foldl_push (b : Builder) (events : List Event) :
    SameContent (events.foldl push b).toEvents (b.toEvents ++ events) := by
  induction events generalizing b with
  | nil =>
    rw [List.append_nil]
    exact .refl _
  | cons event events ih =>
    have hstep := sameContent_push b event events
    exact (ih (b.push event)).trans hstep

/-- Finishing a tree brings in closing tags only. -/
theorem sameContent_finish (b : Builder) : SameContent b.finish.toEvents b.toEvents := by
  have hclosed := Event.sameContent_finish b.toEvents (b.unclosed.map Tag.close) []
  rw [List.append_nil, List.append_nil, List.map_map] at hclosed
  rw [toEvents_finish]
  exact hclosed

end Builder

namespace Node

/-- The tree of any stream, balanced or not, opens the elements of the stream in their order and
has the content of the stream. -/
theorem content_toEvents_ofEvents (events : List Event) :
    startTags (ofEvents events).toEvents = startTags events ∧
      content (ofEvents events).toEvents = content events := by
  have hrun := Builder.sameContent_foldl_push Builder.empty events
  have hempty : Builder.empty.toEvents = [] := by
    simp [Builder.empty, Builder.toEvents, Builder.openedEvents, Builder.verbatimEvents]
  rw [hempty, List.nil_append] at hrun
  have htree : SameContent (ofEvents events).toEvents events :=
    (Builder.sameContent_finish _).trans hrun
  exact ⟨htree.startTags, htree.content⟩

/-- A stray closing tag gets lost, the one behind the strong text closes the image, and what is
behind it belongs to the quote, which is closed at the end. -/
example :
    let image : Tag := .image ⟨.inline, "u", "", ""⟩
    let events : List Event := [.text "a", .finish .item, .html "<b>", .start (.blockQuote none),
      .start image, .finish .strong, .text "b", .text "", .text "c"]
    (ofEvents events).toEvents = [.text "a", .inlineHtml "<b>", .start (.blockQuote none),
        .start image, .finish .image, .text "bc", .finish (.blockQuote none)] ∧
      content events = [.text "a", .inlineHtml "<b>", .text "bc"] := by
  decide +kernel

end Node

end SpoilerMarkup
