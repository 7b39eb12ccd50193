/-
This file holds the surroundings of a session and what the session knows of them:
the plan of what the port, the console and the clock will do, the counts by which
the plan is followed, the parts that change, and the events so far. Everything
that happens is a function of this state, so two runs from the same state agree.
-/

import KeyFeed.Keyboard.Keys
import KeyFeed.Link.PortList
import KeyFeed.Rig.Event
import KeyFeed.Rig.Failure

namespace KeyFeed

/-- The calls to the surroundings that a plan can let fail. -/
inductive Point where
  | opening
  | write
  | flush
  | close
  | sleep
  | sink
  | consoleCreation
  | consoleSetUp
  | consoleRestoring
  deriving Repr, DecidableEq

/-- A call that fails: the point, the count of calls at that point up to and with this one, and
the failure. -/
structure PlannedFault where
  point : Point
  count : Nat
  failure : Failure
  deriving Repr, DecidableEq

/-- What a read of the port gives: bytes, of which there are none when the time limit passes,
or a failure. -/
inductive Arrival where
  | bytes (bytes : List UInt8)
  | failure (failure : Failure)
  deriving Repr, DecidableEq

/-- What the console gives when it is asked for a key. -/
inductive Keystroke where
  | key (key : Key)
  | endOfInput
  | failure (failure : Failure)
  deriving Repr, DecidableEq

/-- What the surroundings will do. -/
structure Plan where
  /-- The calls that fail. -/
  faults : List PlannedFault := []
  /-- What arrives at the port during the sleep of a count. -/
  duringSleep : List (Nat × List Arrival) := []
  /-- What the machine answers when it is asked for its ports. -/
  ports : Except Failure (List Link.PortInfo) := .ok []
  /-- The date and time that the clock shows. -/
  date : String := ""
  deriving Repr

/-- The failure that the plan has for a call. -/
def Plan.fault? (plan : Plan) (point : Point) (count : Nat) : Option Failure :=
  (plan.faults.find? fun fault => fault.point = point ∧ fault.count = count).map (·.failure)

/-- What arrives during the sleep of a count. -/
def Plan.arrivals (plan : Plan) (count : Nat) : List Arrival :=
  (plan.duringSleep.lookup count).getD []

/-- The last count that the plan speaks of. -/
def Plan.horizon (plan : Plan) : Nat :=
  let faults := plan.faults.foldl (fun last fault => max last fault.count) 0
  plan.duringSleep.foldl (fun last planned => max last planned.1) faults

/-- The counts of calls so far. -/
structure Tally where
  opening : Nat := 0
  write : Nat := 0
  flush : Nat := 0
  close : Nat := 0
  sleep : Nat := 0
  sink : Nat := 0
  consoleCreation : Nat := 0
  consoleSetUp : Nat := 0
  consoleRestoring : Nat := 0
  deriving Repr, DecidableEq

namespace Tally

/-- The count of calls at a point. -/
def get (tally : Tally) : Point → Nat
  | .opening => tally.opening
  | .write => tally.write
  | .flush => tally.flush
  | .close => tally.close
  | .sleep => tally.sleep
  | .sink => tally.sink
  | .consoleCreation => tally.consoleCreation
  | .consoleSetUp => tally.consoleSetUp
  | .consoleRestoring => tally.consoleRestoring

/-- The counts after one more call at a point. -/
def bump (tally : Tally) : Point → Tally
  | .opening => { tally with opening := tally.opening + 1 }
  | .write => { tally with write := tally.write + 1 }
  | .flush => { tally with flush := tally.flush + 1 }
  | .close => { tally with close := tally.close + 1 }
  | .sleep => { tally with sleep := tally.sleep + 1 }
  | .sink => { tally with sink := tally.sink + 1 }
  | .consoleCreation => { tally with consoleCreation := tally.consoleCreation + 1 }
  | .consoleSetUp => { tally with consoleSetUp := tally.consoleSetUp + 1 }
  | .consoleRestoring => { tally with consoleRestoring := tally.consoleRestoring + 1 }

@[simp] theorem get_bump_self (tally : Tally) (point : Point) :
    (tally.bump point).get point = tally.get point + 1 := by
  cases point <;> rfl

theorem get_bump_of_ne (tally : Tally) {bumped point : Point} (different : point ≠ bumped) :
    (tally.bump bumped).get point = tally.get point := by
  cases bumped <;> cases point <;> simp_all [get, bump]

end Tally

/-- The port that the link holds. -/
inductive HeldPort where
  /-- The link holds no port. -/
  | none
  /-- The link holds a port, which may have gone away meanwhile. -/
  | held (present : Bool)
  deriving Repr, DecidableEq

namespace HeldPort

/-- The link holds a port. -/
def isHeld : HeldPort → Bool
  | none => false
  | held _ => true

/-- The link holds a port that is still there. -/
def isOpen : HeldPort → Bool
  | none => false
  | held present => present

end HeldPort

/-- The activity that reads the port while a session is open. -/
inductive Listener where
  /-- No session was opened yet. -/
  | absent
  /-- It waits for the next arrival. -/
  | listening
  /-- It has ended, with the fault of the link that ended it, if one did. -/
  | ended (fault : Option LinkFault)
  deriving Repr, DecidableEq

/-- The fault that ended the listener. -/
def Listener.fault? : Listener → Option LinkFault
  | ended fault => fault
  | _ => none

/-- Where echoed text goes. -/
inductive Sink where
  /-- To an observer, who may fail. -/
  | observer
  /-- To the standard output. -/
  | output
  deriving Repr, DecidableEq

/-- The console and the keys captured from it. -/
structure Keyboard where
  /-- The console is ready for single keys. -/
  active : Bool := false
  /-- The reader of the console is alive. -/
  reading : Bool := false
  keys : Keys := .none
  deriving Repr, DecidableEq

/-- The surroundings and the session in them. -/
structure Rig where
  plan : Plan
  settings : Link.Settings
  sink : Sink := .observer
  tally : Tally := {}
  events : Array Event := #[]
  port : HeldPort := .none
  /-- A session is to go on. -/
  running : Bool := false
  listener : Listener := .absent
  /-- What arrives when the listener is waited for at the end of a session. -/
  finalArrivals : List Arrival := []
  /-- What arrives when the link is read without a listener. -/
  queuedArrivals : List Arrival := []
  keyboard : Keyboard := {}
  /-- The keystrokes that the user makes, one batch during each sleep at the console. -/
  batches : List (List Keystroke) := []
  /-- The number of the pass over the script. -/
  pass : Nat := 1
  deriving Repr

end KeyFeed
