set_option autoImplicit false

/-! # Locks on accounts

Within one process, at most one task at a time is inside the section of an account. The registry
has a lock for each account that is in use: a task that wants to enter takes the lock of the
account from the registry, or a new one if there is none. Then it asks for the lock, and waits if
the lock is held or others wait for it already; a wait may be given up. An entry of the registry
may be collected at any moment when no task refers to its lock. A task that enters a second section
while it is inside a first one counts as two.

`Locks.step` gives the state after an event, or nothing when the event cannot happen.
-/

namespace Scrip

/-- Where a task is. Unless it is outside, it refers to a lock. -/
inductive Phase where
  | outside
  | arriving (account : Int) (lock : Nat)
  | waiting (account : Int) (lock : Nat)
  | inside (account : Int) (lock : Nat)
deriving DecidableEq, Repr

namespace Phase

/-- The lock that a task refers to, and the account for whose section it is. -/
def claim? : Phase → Option (Int × Nat)
  | outside => none
  | arriving account lock => some (account, lock)
  | waiting account lock => some (account, lock)
  | inside account lock => some (account, lock)

def refersTo (p : Phase) (lock : Nat) : Bool := p.claim?.any (·.2 == lock)

def holds (p : Phase) (lock : Nat) : Bool :=
  match p with
  | inside _ l => l == lock
  | _ => false

def awaits (p : Phase) (lock : Nat) : Bool :=
  match p with
  | waiting _ l => l == lock
  | _ => false

end Phase

/-- The registry and the tasks. Locks are numbered in the order of their making; `queue` has
the waiting tasks in the order of their coming. -/
structure Locks where
  made : Nat := 0
  table : List (Int × Nat) := []
  tasks : List (Nat × Phase) := []
  queue : List Nat := []
deriving DecidableEq, Repr

/-- What can happen. -/
inductive LockEvent where
  /-- A task takes the lock of an account from the registry. -/
  | look (task : Nat) (account : Int)
  /-- A task asks for the lock that it has taken. -/
  | ask (task : Nat)
  /-- A task that has waited gets the lock. -/
  | wake (task : Nat)
  /-- A task that waits is cancelled. -/
  | giveUp (task : Nat)
  /-- A task releases the lock. -/
  | leave (task : Nat)
  /-- The entry of an account is collected. -/
  | collect (account : Int)
deriving DecidableEq, Repr

namespace Locks

def phase (s : Locks) (task : Nat) : Phase :=
  match s.tasks.find? (·.1 == task) with
  | some t => t.2
  | none => .outside

def move (s : Locks) (task : Nat) (p : Phase) : Locks :=
  { s with tasks := (task, p) :: s.tasks.filter (·.1 != task) }

/-- Whether there is a task in such a place. -/
def anyPhase (s : Locks) (p : Phase → Bool) : Bool := s.tasks.any fun t => p (s.phase t.1)

def isHeld (s : Locks) (lock : Nat) : Bool := s.anyPhase (·.holds lock)

def isReferred (s : Locks) (lock : Nat) : Bool := s.anyPhase (·.refersTo lock)

/-- The first task of the queue that waits for a lock. -/
def firstWaiting (s : Locks) (lock : Nat) : Option Nat :=
  s.queue.find? fun task => (s.phase task).awaits lock

def lockOf? (s : Locks) (account : Int) : Option Nat :=
  (s.table.find? (·.1 == account)).map (·.2)

/-- The lock of an account: the one in the registry, or a new one that is put there. -/
def lockFor (s : Locks) (account : Int) : Nat × Locks :=
  match s.lockOf? account with
  | some lock => (lock, s)
  | none => (s.made, { s with made := s.made + 1, table := (account, s.made) :: s.table })

def drop (s : Locks) (account : Int) : Locks :=
  { s with table := s.table.filter (·.1 != account) }

def enqueue (s : Locks) (task : Nat) : Locks := { s with queue := s.queue ++ [task] }

def dequeue (s : Locks) (task : Nat) : Locks := { s with queue := s.queue.filter (· != task) }

/-- The state after an event. A task that asks for its lock gets it at once if the lock is free
and nobody waits for it; a waiting task gets it when it is free and the task is the first. -/
def step (s : Locks) : LockEvent → Option Locks
  | .look task account =>
    match s.phase task with
    | .outside =>
      let (lock, s) := s.lockFor account
      some (s.move task (.arriving account lock))
    | _ => none
  | .ask task =>
    match s.phase task with
    | .arriving account lock =>
      if s.isHeld lock || (s.firstWaiting lock).isSome then
        some ((s.move task (.waiting account lock)).enqueue task)
      else some (s.move task (.inside account lock))
    | _ => none
  | .wake task =>
    match s.phase task with
    | .waiting account lock =>
      if s.isHeld lock || s.firstWaiting lock != some task then none
      else some ((s.move task (.inside account lock)).dequeue task)
    | _ => none
  | .giveUp task =>
    match s.phase task with
    | .waiting _ _ => some ((s.move task .outside).dequeue task)
    | _ => none
  | .leave task =>
    match s.phase task with
    | .inside _ _ => some (s.move task .outside)
    | _ => none
  | .collect account =>
    match s.lockOf? account with
    | none => none
    | some lock => if s.isReferred lock then none else some (s.drop account)

/-- The state after some events in order, if they can all happen. -/
def run (s : Locks) (events : List LockEvent) : Option Locks := events.foldlM step s

end Locks

end Scrip
