import SpoilerMarkup.SpanStyle.Stream

/-!
Streams read with the depth of each event, the number of elements open since a verbatim one was
opened. What is done to the texts and the markup outside verbatim elements is given by what is
done to one event at a depth. Nothing is done at any other depth than zero, so the content of a
verbatim element is left alone as long as no event of it closes what was opened before.
-/
namespace SpoilerMarkup.Event

open SpanStyle (depthAfter)

/-- Whether an event stands between tags. -/
def isContent : Event → Bool
  | .start _ | .finish _ => false
  | _ => true

def isText : Event → Bool
  | .text _ => true
  | _ => false

def isMarkup : Event → Bool
  | .html _ | .inlineHtml _ => true
  | _ => false

/-- Whether an event becomes a leaf of a tree, and not a node of another kind. -/
def isLeaf : Event → Bool
  | .start _ | .finish _ | .text _ | .code _ | .html _ | .inlineHtml _ => false
  | _ => true

@[simp] theorem depthAfter_of_isContent {event : Event} (h : event.isContent) (depth : Nat) :
    depthAfter depth event = depth := by
  cases event <;> simp_all [isContent, depthAfter]

@[simp] theorem depthAfter_text (depth : Nat) (value : String) :
    depthAfter depth (.text value) = depth := rfl

theorem depthAfter_start {tag : Tag} (h : ¬ tag.isVerbatim) : depthAfter 0 (.start tag) = 0 := by
  simp [depthAfter, h]

theorem depthAfter_start_verbatim {tag : Tag} (h : tag.isVerbatim) :
    depthAfter 0 (.start tag) = 1 := by
  simp [depthAfter, h]

theorem depthAfter_start_of_verbatim {depth : Nat} {tag : Tag} (h : 0 < depth ∨ tag.isVerbatim) :
    depthAfter depth (.start tag) = depth + 1 := by
  rcases h with h | h <;> simp [depthAfter, h]

/-- The depth behind some events. -/
def depthAfterAll (depth : Nat) (events : List Event) : Nat :=
  events.foldl depthAfter depth

@[simp] theorem depthAfterAll_nil (depth : Nat) : depthAfterAll depth [] = depth := rfl

@[simp] theorem depthAfterAll_cons (depth : Nat) (event : Event) (events : List Event) :
    depthAfterAll depth (event :: events) = depthAfterAll (depthAfter depth event) events := rfl

@[simp] theorem depthAfterAll_append (depth : Nat) (events events' : List Event) :
    depthAfterAll depth (events ++ events') =
      depthAfterAll (depthAfterAll depth events) events' := by
  rw [depthAfterAll, List.foldl_append]
  rfl

theorem depthAfterAll_of_isContent {events : List Event} (h : ∀ event ∈ events, event.isContent)
    (depth : Nat) : depthAfterAll depth events = depth := by
  induction events with
  | nil => rfl
  | cons event events ih =>
    rw [depthAfterAll_cons, depthAfter_of_isContent (h event (by simp)),
      ih fun event hevent => h event (by simp [hevent])]

/-- Puts in the place of each event what it becomes at its depth. -/
def changeAtDepth (change : Nat → Event → List Event) : Nat → List Event → List Event
  | _, [] => []
  | depth, event :: events =>
    change depth event ++ changeAtDepth change (depthAfter depth event) events

section

variable {change change' : Nat → Event → List Event}

@[simp] theorem changeAtDepth_nil (depth : Nat) : changeAtDepth change depth [] = [] := rfl

@[simp] theorem changeAtDepth_cons (depth : Nat) (event : Event) (events : List Event) :
    changeAtDepth change depth (event :: events) =
      change depth event ++ changeAtDepth change (depthAfter depth event) events := rfl

@[simp] theorem changeAtDepth_append (depth : Nat) (events events' : List Event) :
    changeAtDepth change depth (events ++ events') =
      changeAtDepth change depth events ++
        changeAtDepth change (depthAfterAll depth events) events' := by
  induction events generalizing depth with
  | nil => rfl
  | cons event events ih =>
    simp [ih]

/-- Among events that open and close nothing the depth stays as it is. -/
theorem changeAtDepth_of_isContent {events : List Event} (h : ∀ event ∈ events, event.isContent)
    (depth : Nat) : changeAtDepth change depth events = events.flatMap (change depth) := by
  induction events with
  | nil => rfl
  | cons event events ih =>
    rw [changeAtDepth_cons, depthAfter_of_isContent (h event (by simp)),
      ih fun event hevent => h event (by simp [hevent]), List.flatMap_cons]

/-- What an event becomes leads to the same depth as the event. -/
def KeepsDepth (change : Nat → Event → List Event) : Prop :=
  ∀ depth event, depthAfterAll depth (change depth event) = depthAfter depth event

theorem depthAfterAll_changeAtDepth (h : KeepsDepth change) (depth : Nat) (events : List Event) :
    depthAfterAll depth (changeAtDepth change depth events) = depthAfterAll depth events := by
  induction events generalizing depth with
  | nil => rfl
  | cons event events ih =>
    rw [changeAtDepth_cons, depthAfterAll_append, h, ih, depthAfterAll_cons]

/-- Two changes, one after the other, are one change. -/
theorem changeAtDepth_changeAtDepth (h : KeepsDepth change) (depth : Nat) (events : List Event) :
    changeAtDepth change' depth (changeAtDepth change depth events) =
      changeAtDepth (fun depth event => changeAtDepth change' depth (change depth event)) depth
        events := by
  induction events generalizing depth with
  | nil => rfl
  | cons event events ih =>
    rw [changeAtDepth_cons, changeAtDepth_append, h, ih, changeAtDepth_cons]

theorem mem_changeAtDepth {depth : Nat} {events : List Event} {event : Event}
    (h : event ∈ changeAtDepth change depth events) :
    ∃ depth, ∃ source ∈ events, event ∈ change depth source := by
  induction events generalizing depth with
  | nil => simp at h
  | cons source events ih =>
    rw [changeAtDepth_cons, List.mem_append] at h
    rcases h with h | h
    · exact ⟨depth, source, by simp, h⟩
    · obtain ⟨depth, source, hsource, h⟩ := ih h
      exact ⟨depth, source, by simp [hsource], h⟩

end

/-- A run over some events has made a step over the first one. -/
theorem foldlM_cons_eq_some {σ : Type} {step : σ → Event → Option σ} {state state' : σ}
    {event : Event} {events : List Event} :
    (event :: events).foldlM step state = some state' ↔
      ∃ next, step state event = some next ∧ events.foldlM step next = some state' := by
  rw [List.foldlM_cons, Option.bind_eq_bind, Option.bind_eq_some_iff]

theorem foldlM_append_eq_some {σ : Type} {step : σ → Event → Option σ} {state between state' : σ}
    {events events' : List Event} (h : events.foldlM step state = some between)
    (h' : events'.foldlM step between = some state') :
    (events ++ events').foldlM step state = some state' := by
  rw [List.foldlM_append, h]
  exact h'

/-- The number of open elements after an event, or none if it closes one that is not open. -/
def levelAfter? (level : Nat) : Event → Option Nat
  | .start _ => some (level + 1)
  | .finish _ => if level = 0 then none else some (level - 1)
  | _ => some level

/-- No prefix closes more elements than it opens, and all that are opened are closed. -/
def IsBalanced (events : List Event) : Prop :=
  events.foldlM levelAfter? 0 = some 0

instance : DecidablePred IsBalanced := fun _ => inferInstanceAs (Decidable (_ = _))

/-- Inside a verbatim element the depth follows the number of elements opened in it. -/
theorem depthAfter_of_level {level level' : Nat} {event : Event}
    (h : levelAfter? level event = some level') : depthAfter (level + 1) event = level' + 1 := by
  cases event with
  | start tag =>
    cases h
    simp [depthAfter]
  | finish tag =>
    simp only [levelAfter?, depthAfter] at h ⊢
    split at h
    · simp at h
    · cases h
      omega
  | _ => simp_all [levelAfter?, depthAfter]

theorem depthAfterAll_of_level {level level' : Nat} {events : List Event}
    (h : events.foldlM levelAfter? level = some level') :
    depthAfterAll (level + 1) events = level' + 1 := by
  induction events generalizing level with
  | nil => simp_all
  | cons event events ih =>
    obtain ⟨next, hnext, h⟩ := foldlM_cons_eq_some.1 h
    rw [depthAfterAll_cons, depthAfter_of_level hnext, ih h]

theorem changeAtDepth_of_level {change : Nat → Event → List Event}
    (hchange : ∀ depth event, change (depth + 1) event = [event]) {level level' : Nat}
    {events : List Event} (h : events.foldlM levelAfter? level = some level') :
    changeAtDepth change (level + 1) events = events := by
  induction events generalizing level with
  | nil => rfl
  | cons event events ih =>
    obtain ⟨next, hnext, h⟩ := foldlM_cons_eq_some.1 h
    rw [changeAtDepth_cons, hchange, depthAfter_of_level hnext, ih h, List.singleton_append]

section

variable {change : Nat → Event → List Event} {tag : Tag} {events : List Event}

/-- Tags that are left alone stay around what becomes of the content of their element. -/
theorem changeAtDepth_element (htag : ¬ tag.isVerbatim)
    (hstart : change 0 (.start tag) = [.start tag])
    (hfinish : change 0 (.finish tag.close) = [.finish tag.close])
    (hdepth : depthAfterAll 0 events = 0) :
    changeAtDepth change 0 (.start tag :: (events ++ [.finish tag.close])) =
      .start tag :: (changeAtDepth change 0 events ++ [.finish tag.close]) := by
  rw [changeAtDepth_cons, hstart, depthAfter_start htag, changeAtDepth_append, hdepth,
    changeAtDepth_cons, hfinish]
  rfl

theorem changeAtDepth_verbatim (htag : tag.isVerbatim)
    (hstart : change 0 (.start tag) = [.start tag])
    (hchange : ∀ depth event, change (depth + 1) event = [event]) (hbalanced : IsBalanced events) :
    changeAtDepth change 0 (.start tag :: (events ++ [.finish tag.close])) =
      .start tag :: (events ++ [.finish tag.close]) := by
  rw [changeAtDepth_cons, hstart, depthAfter_start_verbatim htag, changeAtDepth_append,
    changeAtDepth_of_level hchange hbalanced, depthAfterAll_of_level hbalanced, changeAtDepth_cons,
    hchange]
  rfl

end

/-- The open elements after an event, innermost first, or none if it closes another element than
the innermost one. -/
def openAfter? (opened : List Tag) : Event → Option (List Tag)
  | .start tag => some (tag :: opened)
  | .finish tag =>
    match opened with
    | [] => none
    | innermost :: outer => if tag = innermost.close then some outer else none
  | _ => some opened

/-- Every closing event closes the innermost open element, and none is left open. -/
def IsNested (events : List Event) : Prop :=
  events.foldlM openAfter? [] = some []

instance : DecidablePred IsNested := fun _ => inferInstanceAs (Decidable (_ = _))

/-- Markup that is a block of its own, as markup inside a line of text. -/
def plain : Event → Event
  | .html value => .inlineHtml value
  | event => event

/-- Makes no difference between the two kinds of raw markup outside verbatim elements. -/
def plainMarkup : Nat → List Event → List Event :=
  changeAtDepth fun depth event => if depth = 0 then [event.plain] else [event]

theorem isText_plain (event : Event) : event.plain.isText = event.isText := by
  cases event <;> rfl

@[simp] theorem depthAfter_plain (depth : Nat) (event : Event) :
    depthAfter depth event.plain = depthAfter depth event := by
  cases event <;> rfl

theorem plainMarkup_append {events : List Event} (h : depthAfterAll 0 events = 0)
    (events' : List Event) :
    plainMarkup 0 (events ++ events') = plainMarkup 0 events ++ plainMarkup 0 events' := by
  rw [plainMarkup, changeAtDepth_append, h]

theorem plainMarkup_of_isContent {events : List Event} (h : ∀ event ∈ events, event.isContent) :
    plainMarkup 0 events = events.map plain := by
  rw [plainMarkup, changeAtDepth_of_isContent h, List.map_eq_flatMap]
  simp only [↓reduceIte]

theorem countP_plainMarkup (depth : Nat) (events : List Event) :
    (plainMarkup depth events).countP isMarkup = events.countP isMarkup := by
  induction events generalizing depth with
  | nil => rfl
  | cons event events ih =>
    have hplain : event.plain.isMarkup = event.isMarkup := by cases event <;> rfl
    rw [plainMarkup] at ih ⊢
    rw [changeAtDepth_cons, List.countP_append, ih, List.countP_cons]
    by_cases hdepth : depth = 0 <;> simp [hdepth, hplain, Nat.add_comm]

theorem text_mem_plainMarkup {depth : Nat} {events : List Event}
    (h : .text "" ∈ plainMarkup depth events) : .text "" ∈ events := by
  obtain ⟨depth, source, hsource, h⟩ := mem_changeAtDepth h
  split at h
  · cases source <;> simp_all [plain]
  · rwa [List.mem_singleton.1 h]

theorem keepsDepth_plain :
    KeepsDepth fun depth event => if depth = 0 then [event.plain] else [event] := by
  intro depth event
  by_cases hdepth : depth = 0 <;> simp [hdepth]

end SpoilerMarkup.Event
