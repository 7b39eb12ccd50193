/-
This file holds the keys that were captured and not yet read. A console hands out
one character at a time, so a cursor or function key arrives as several; reading
joins them to one key again. A lone escape is a key of its own, the cancel key.
-/

namespace KeyFeed

/-- A key as the characters it sends. -/
abbrev Key := List Char

namespace Key

/-- The escape key, which also begins the sequence of a cursor or function key. -/
def escape : Key := ['\x1b']

/-- The interrupt key. -/
def interrupt : Key := ['\x03']

/-- The keys that end the interactive phase. -/
def isCancel (key : Key) : Bool := key = escape || key = interrupt

/-- The key that introduces a sequence of any length. -/
def openIntroducer : Key := ['[']

/-- The key that introduces a sequence of one more character. -/
def shortIntroducer : Key := ['O']

/-- After an escape the key introduces a sequence. -/
def isIntroducer (key : Key) : Bool := key = openIntroducer || key = shortIntroducer

/-- The key ends an open sequence: in the order of texts it lies between the at sign and the
tilde. -/
def isFinal : Key → Bool
  | [] => false
  | first :: rest => '@' ≤ first && (first < '~' || (first = '~' && rest.isEmpty))

/-- A key as it is sent: the adapter ends lines with a carriage return. -/
def received (key : Key) : Key := if key = ['\n'] then ['\r'] else key

end Key

/-- The captured keys: those read ahead in search of a sequence, and behind them the queue. -/
structure Keys where
  ahead : List Key
  queue : List Key
  deriving Repr, DecidableEq

namespace Keys

/-- No key is captured. -/
def none : Keys := ⟨[], []⟩

/-- All captured keys in the order in which they are read. -/
def pending (keys : Keys) : List Key := keys.ahead ++ keys.queue

/-- A key can be read. -/
def available (keys : Keys) : Bool := !keys.ahead.isEmpty || !keys.queue.isEmpty

/-- The keys with more at the end. -/
def append (keys : Keys) (more : List Key) : Keys := { keys with queue := keys.queue ++ more }

@[simp] theorem pending_append (keys : Keys) (more : List Key) :
    (keys.append more).pending = keys.pending ++ more := by
  simp [append, pending]

theorem append_append (keys : Keys) (first second : List Key) :
    (keys.append first).append second = keys.append (first ++ second) :=
  congrArg (Keys.mk keys.ahead) (List.append_assoc _ _ _)

/-- The first pending key and the keys after it. -/
def next? (keys : Keys) : Option (Key × Keys) :=
  match keys.ahead, keys.queue with
  | key :: rest, queue => some (key, ⟨rest, queue⟩)
  | [], key :: rest => some (key, ⟨[], rest⟩)
  | [], [] => Option.none

theorem next?_pending {keys rest : Keys} {key : Key} (taken : keys.next? = some (key, rest)) :
    keys.pending = key :: rest.pending := by
  unfold next? at taken
  split at taken <;> simp_all [pending]
  · rcases taken with ⟨rfl, rfl⟩
    simp
  · rcases taken with ⟨rfl, rfl⟩
    simp

theorem next?_eq_none_iff {keys : Keys} : keys.next? = Option.none ↔ keys.pending = [] := by
  unfold next?
  split <;> simp_all [pending]

theorem pending_length_next {keys rest : Keys} {key : Key}
    (taken : keys.next? = some (key, rest)) : rest.pending.length < keys.pending.length := by
  rw [next?_pending taken]
  exact Nat.lt_succ_self _

/-- The count of characters at which a sequence is taken as it is. -/
def longestSequence : Nat := 8

/-- Joins pending keys to a sequence that was introduced. It ends with the one key after the
short introducer, with a final key after the open one, at the length limit, or when nothing
is pending. -/
def collect (introducer : Key) (sequence : Key) (keys : Keys) : Key × Keys :=
  if sequence.length < longestSequence then
    match _ : keys.next? with
    | Option.none => (sequence, keys)
    | some (key, rest) =>
      if introducer = Key.shortIntroducer || key.isFinal then (sequence ++ key, rest)
      else collect introducer (sequence ++ key) rest
  else (sequence, keys)
termination_by keys.pending.length
decreasing_by exact pending_length_next (by assumption)

/-- Reads a key. A key that follows an escape and introduces no sequence is read ahead and
stays pending. -/
def read? (keys : Keys) : Option (Key × Keys) :=
  match keys.next? with
  | Option.none => Option.none
  | some (key, rest) =>
    if key = Key.escape then
      match rest.next? with
      | Option.none => some (key, rest)
      | some (follower, later) =>
        if follower.isIntroducer then some (collect follower (key ++ follower) later)
        else some (key, { later with ahead := follower :: later.ahead })
    else some (key, rest)

end Keys

end KeyFeed
