import SpoilerMarkup.Proofs.Event.Join

/-!
Streams whose raw markup is of the kind that belongs where it stands: a block of its own directly
inside an HTML block, and part of a line everywhere else. What is inside verbatim elements stays
as it is. Main definition: `Event.settleMarkup`.
-/
namespace SpoilerMarkup.Event

open SpanStyle (depthAfter)

/-- Raw markup as a block of its own or as a part of a line. No other event changes. -/
def settled (isBlock : Bool) : Event → Event
  | .html value | .inlineHtml value => if isBlock then .html value else .inlineHtml value
  | event => event

/-- The open elements after an event, innermost first. -/
def openAfter (opened : List Tag) : Event → List Tag
  | .start tag => tag :: opened
  | .finish _ => opened.tail
  | _ => opened

/-- Makes raw markup outside verbatim elements a block of its own if the innermost open element is
an HTML block, and a part of a line otherwise. The elements that are open are given innermost
first. -/
def settleMarkup : Nat → List Tag → List Event → List Event
  | _, _, [] => []
  | depth, opened, event :: events =>
    (if depth = 0 then event.settled (opened.head? = some .htmlBlock) else event) ::
      settleMarkup (depthAfter depth event) (openAfter opened event) events

theorem openAfter_of_some {opened opened' : List Tag} {event : Event}
    (h : openAfter? opened event = some opened') : openAfter opened event = opened' := by
  cases event with
  | finish tag =>
    cases opened with
    | nil => simp [openAfter?] at h
    | cons innermost outer =>
      simp only [openAfter?, Option.ite_none_right_eq_some, Option.some.injEq] at h
      exact h.2
  | _ => simpa [openAfter?, openAfter] using h

theorem plain_settled (isBlock : Bool) (event : Event) :
    (event.settled isBlock).plain = event.plain := by
  cases event <;> cases isBlock <;> rfl

theorem depthAfter_settled (isBlock : Bool) (depth : Nat) (event : Event) :
    depthAfter depth (event.settled isBlock) = depthAfter depth event := by
  rw [← depthAfter_plain, plain_settled, depthAfter_plain]

theorem settled_eq_text {isBlock : Bool} {event : Event} {value : String}
    (h : event.settled isBlock = .text value) : event = .text value := by
  cases event <;> cases isBlock <;> simp_all [settled]

/-- The kind of raw markup is all that is settled. -/
theorem plainMarkup_settleMarkup (depth : Nat) (opened : List Tag) (events : List Event) :
    plainMarkup depth (settleMarkup depth opened events) = plainMarkup depth events := by
  induction events generalizing depth opened with
  | nil => rfl
  | cons event events ih =>
    have hrest := ih (depthAfter depth event) (openAfter opened event)
    rw [settleMarkup]
    simp only [plainMarkup, changeAtDepth_cons] at hrest ⊢
    by_cases hdepth : depth = 0
    · simp only [hdepth, ↓reduceIte, plain_settled, depthAfter_settled] at hrest ⊢
      rw [hrest]
    · simp only [hdepth, ↓reduceIte]
      rw [hrest]

theorem text_mem_settleMarkup {depth : Nat} {opened : List Tag} {events : List Event}
    {value : String} (h : .text value ∈ settleMarkup depth opened events) :
    .text value ∈ events := by
  induction events generalizing depth opened with
  | nil => exact h
  | cons event events ih =>
    rw [settleMarkup] at h
    rcases List.mem_cons.1 h with h | h
    · split at h
      · simp [settled_eq_text h.symm]
      · simp [h]
    · simp [ih h]

end SpoilerMarkup.Event
