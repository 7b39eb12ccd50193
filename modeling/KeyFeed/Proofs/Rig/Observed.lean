/-
This file sorts the events by who causes them, and picks the events of one sort out of
all. Events are only ever added at the end, so what is picked out only grows there too.
-/

import KeyFeed.Rig.State

namespace KeyFeed

namespace Event

/-- What the adapter notices of the sender: bytes that the port takes, and pauses. -/
def isWriter : Event → Bool
  | wrote _ => true
  | slept _ => true
  | _ => false

/-- A port is asked for, or is closed. -/
def isPort : Event → Bool
  | opening _ => true
  | portClosed => true
  | _ => false

/-- A call to the console. -/
def isConsole : Event → Bool
  | consoleCreated => true
  | consoleSetUp => true
  | consoleRestored => true
  | _ => false

/-- What the echo listener can cause. -/
def isAside : Event → Bool
  | portClosed => true
  | backedOff _ => true
  | echoed _ => true
  | logged _ _ => true
  | printed _ => true
  | _ => false

/-- A text for the log or for one of the two streams of the program. -/
def isText : Event → Bool
  | logged _ _ => true
  | loggingStarted _ => true
  | printed _ => true
  | reported _ => true
  | _ => false

theorem isWriter_of_isAside {event : Event} (aside : event.isAside = true) :
    event.isWriter = false := by
  cases event <;> simp_all [isAside, isWriter]

theorem isConsole_of_isAside {event : Event} (aside : event.isAside = true) :
    event.isConsole = false := by
  cases event <;> simp_all [isAside, isConsole]

theorem isWriter_of_isText {event : Event} (text : event.isText = true) :
    event.isWriter = false := by
  cases event <;> simp_all [isText, isWriter]

theorem isPort_of_isText {event : Event} (text : event.isText = true) : event.isPort = false := by
  cases event <;> simp_all [isText, isPort]

theorem isConsole_of_isText {event : Event} (text : event.isText = true) :
    event.isConsole = false := by
  cases event <;> simp_all [isText, isConsole]

/-- The events of one sort, in their order. -/
def only (sort : Event → Bool) (events : Array Event) : List Event := events.toList.filter sort

variable {sort : Event → Bool}

theorem only_push_of_sort {event : Event} (belongs : sort event = true) (events : Array Event) :
    only sort (events.push event) = only sort events ++ [event] := by
  simp [only, belongs]

theorem only_push_of_not_sort {event : Event} (foreign : sort event = false)
    (events : Array Event) : only sort (events.push event) = only sort events := by
  simp [only, foreign]

theorem only_append {events later : Array Event} {added : List Event}
    (grown : later.toList = events.toList ++ added) :
    only sort later = only sort events ++ added.filter sort := by
  rw [only, grown, List.filter_append]
  rfl

theorem only_of_foreign {events later : Array Event} {added : List Event}
    (grown : later.toList = events.toList ++ added)
    (foreign : ∀ event ∈ added, sort event = false) : only sort later = only sort events := by
  have none : added.filter sort = [] := List.filter_eq_nil_iff.mpr (by simpa using foreign)
  rw [only_append grown, none, List.append_nil]

/-- Where the events of a sort are the same, so are those of a narrower one. -/
theorem only_of_only {narrow wide : Event → Bool}
    (within : ∀ event, narrow event = true → wide event = true) {events later : Array Event}
    (same : only wide later = only wide events) : only narrow later = only narrow events := by
  have inside : ∀ all : Array Event, only narrow all = (only wide all).filter narrow := by
    intro all
    rw [only, only, List.filter_filter]
    refine List.filter_congr fun event _ => ?_
    cases belongs : narrow event with
    | false => rfl
    | true => rw [within event belongs]; rfl
  rw [inside later, inside events, same]

/-- The events before the first call to the console. -/
def beforeConsole (events : Array Event) : List Event :=
  events.toList.takeWhile fun event => !event.isConsole

/-- What is written before the first call to the console is written before all that comes with
that call or without any. -/
theorem beforeConsole_writers {events later : Array Event} {front back : List Event}
    (unused : only isConsole events = [])
    (silent : ∀ event ∈ front, event.isWriter = false ∧ event.isConsole = false)
    (used : ∀ event ∈ back.head?, event.isConsole = true)
    (grown : later.toList = events.toList ++ front ++ back) :
    (beforeConsole later).filter isWriter = only isWriter events := by
  have outside : ∀ event ∈ events.toList ++ front, (!event.isConsole) = true := by
    refine List.forall_mem_append.mpr ⟨fun event member => ?_, fun event member => ?_⟩
    · have foreign := List.filter_eq_nil_iff.mp unused event member
      simpa using foreign
    · rw [(silent event member).2]
      rfl
  have ends : back.takeWhile (fun event => !event.isConsole) = [] := by
    cases back with
    | nil => rfl
    | cons event rest =>
      have calls : event.isConsole = true := used event rfl
      rw [List.takeWhile_cons, calls]
      rfl
  have quiet : front.filter isWriter = [] :=
    List.filter_eq_nil_iff.mpr fun event member => by simpa using (silent event member).1
  rw [beforeConsole, grown, List.takeWhile_append_of_pos outside, ends, List.append_nil,
    List.filter_append, quiet, List.append_nil]
  rfl

end Event

end KeyFeed
