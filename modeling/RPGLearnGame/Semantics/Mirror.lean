import RPGLearnGame.Semantics.EventMachine

/-!
# Mirrors of a publishing source

A source publishes updates as it changes; a mirror that is attached applies
them. The source announces its whole view once, when it starts. Nothing is
replayed on attaching, so a mirror that attaches after the announcement keeps
whatever it showed before until the next update.

`Publisher` carries the two laws that make mirroring work at all: an
announcement sets any mirror to the source's view, and the updates of one event
carry a mirror from the view before it to the view after it. `inSync_exact`
says what is left: a started source and an attached mirror agree along a run
exactly when every late attachment finds them in agreement already.
-/

universe u

namespace Mirror

/-- A source whose announcements and updates are enough to mirror its view. -/
structure Publisher (Source Event View Update : Type u) where
  Admits : Source → Event → Prop
  next : Source → Event → Source
  /-- What a mirror of the source should show. -/
  view : Source → View
  /-- The updates sent when the source starts. -/
  announce : Source → List Update
  /-- The updates sent while the source processes one event. -/
  publish : Source → Event → List Update
  /-- How a mirror applies an update. -/
  receive : View → Update → View
  announced : ∀ source shown, (announce source).foldl receive shown = view source
  published : ∀ source event, Admits source event →
    (publish source event).foldl receive (view source) = view (next source event)

/-- A source, one mirror of it, and how far the two have been set up. -/
structure Stage (Source View : Type u) where
  source : Source
  shown : View
  started : Bool
  attached : Bool

/-- The source starts, the mirror attaches, or the source processes an event. -/
inductive Command (Event : Type u) where
  | start
  | attach
  | event (event : Event)

variable {Source Event View Update : Type u}

/-- Deliver updates to the mirror when it is attached at that moment. -/
def deliver (receive : View → Update → View) (attached : Bool) (shown : View)
    (updates : List Update) : View :=
  if attached then updates.foldl receive shown else shown

/-- The source and its mirror, driven in any order. -/
def machine (publisher : Publisher Source Event View Update) :
    EventMachine (Stage Source View) (Command Event) where
  Admits
    | stage, .event event => publisher.Admits stage.source event
    | _, _ => True
  next
    | stage, .start =>
        { stage with
          shown := deliver publisher.receive stage.attached stage.shown
            (publisher.announce stage.source)
          started := true }
    | stage, .attach => { stage with attached := true }
    | stage, .event event =>
        { stage with
          source := publisher.next stage.source event
          shown := deliver publisher.receive stage.attached stage.shown
            (publisher.publish stage.source event) }

/-- The mirror shows the source's view. -/
def Agrees (publisher : Publisher Source Event View Update) (stage : Stage Source View) : Prop :=
  stage.shown = publisher.view stage.source

/-- Once both are set up, the mirror shows the source's view. -/
def InSync (publisher : Publisher Source Event View Update) (stage : Stage Source View) : Prop :=
  stage.started → stage.attached → Agrees publisher stage

/-- An attachment that comes after the start finds the mirror in agreement. -/
def AttachesInAgreement (publisher : Publisher Source Event View Update)
    (stage : Stage Source View) : Command Event → Prop
  | .attach => stage.started → ¬ stage.attached → Agrees publisher stage
  | _ => True

/-- One step keeps the mirror in sync exactly when it is not a late attachment
to a source with another view. -/
theorem inSync_exact (publisher : Publisher Source Event View Update) :
    (machine publisher).ExactCondition (fun _ => True) (InSync publisher)
      (AttachesInAgreement publisher) where
  supported := ⟨fun _ _ => trivial⟩
  exact := by
    rintro ⟨source, shown, started, attached⟩ command - inSync admits
    cases command with
    | start =>
        refine iff_of_true ?_ trivial
        rintro - (nowAttached : attached = true)
        simp [Agrees, machine, deliver, nowAttached, publisher.announced]
    | attach =>
        constructor
        · exact fun after nowStarted _ => after nowStarted rfl
        · intro agrees nowStarted _
          by_cases before : attached
          · exact inSync nowStarted before
          · exact agrees nowStarted before
    | event event =>
        refine iff_of_true ?_ trivial
        intro (nowStarted : started = true) (nowAttached : attached = true)
        have agreed : shown = publisher.view source := inSync nowStarted nowAttached
        simp [Agrees, machine, deliver, nowAttached, agreed, publisher.published source event admits]

end Mirror
