import Scrip.Service.Operation
import Scrip.Store.Write
import Scrip.Work.Database
set_option autoImplicit false

/-! # Crews

Operations of several workers on one store. The workers share nothing but the database: locks of
one process exclude nobody in another one. So any number of operations may be under way, each in
a session of its own, and they take turns statement by statement in any order. The writes that
were committed are kept in order, which tells the committed store.
-/

namespace Scrip

/-- An operation under way: what is left of its script, and the writes of its session. -/
structure Job where
  left : Script Answer
  pending : List Write := []

/-- Operations under way on a store, and what was committed since the beginning. -/
structure Crew where
  origin : Store
  log : List (List Write) := []
  jobs : List Job := []

namespace Crew

def idle (store : Store) : Crew := ⟨store, [], []⟩

def store (c : Crew) : Store := c.log.foldl Store.applyAll c.origin

/-- The crew after the reply to the statement that a job asks next. -/
def move (c : Crew) (i : Nat) (pending : List Write) (committed : Bool) (job : Job) : Crew :=
  { c with
    log := if committed then c.log ++ [pending] else c.log
    jobs := c.jobs.set i job }

/-- One step of a crew. An operation begins; or the next statement of a job gets a reply from
the database. It can only change rows that no other job keeps closed, and only commit what
satisfies the uniqueness constraints. -/
inductive Step : Crew → Crew → Prop where
  | begin {c : Crew} (settings : Settings) (now : Moment) (op : Operation)
      (offered : op.isOffered = true) :
      Step c { c with jobs := c.jobs ++ [⟨op.whole settings now, []⟩] }
  | reply {c : Crew} {i : Nat} {q : Statement} {next : Except Failure q.Reply → Script Answer}
      {pending after : List Write} {reply : Except Failure q.Reply}
      (job : c.jobs[i]? = some ⟨.ask q next, pending⟩)
      (does : q.Does (fun _ _ => True) c.store pending reply after)
      (free : ∀ j other, j ≠ i → c.jobs[j]? = some other →
        ∀ row ∈ closedRows after, row ∉ closedRows other.pending)
      (lawful : q.committed reply = true → (c.store.applyAll pending).Lawful) :
      Step c (c.move i pending (q.committed reply) ⟨next reply, after⟩)

/-- Whether no job but one has closed any of the rows that some writes change. -/
def isFree (c : Crew) (i : Nat) (ws : List Write) : Bool :=
  c.jobs.zipIdx.all fun (other, j) =>
    j == i || (closedRows ws).all fun row => !(closedRows other.pending).contains row

/-- The crew after the turn of a job in which nothing fails, if the job does not have to wait. -/
def turn? (c : Crew) (i : Nat) : Option Crew :=
  match c.jobs[i]? with
  | some ⟨.ask q next, pending⟩ =>
    let (reply, after) := q.respond c.store pending
    if c.isFree i after ∧ (q.committed reply = true → (c.store.applyAll pending).Lawful) then
      some (c.move i pending (q.committed reply) ⟨next reply, after⟩)
    else none
  | _ => none

/-- The crew after some turns in order. -/
def turns? (c : Crew) (order : List Nat) : Option Crew := order.foldlM turn? c

/-- Any number of steps. -/
inductive Reaches : Crew → Crew → Prop where
  | refl (c : Crew) : Reaches c c
  | next {c c' c'' : Crew} (run : Reaches c c') (step : Step c' c'') : Reaches c c''

end Crew

end Scrip
