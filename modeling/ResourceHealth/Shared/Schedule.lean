import ResourceHealth.Shared.Progress

/-!
# Schedules

Threads that share a monitor move one at a time in an order that nobody promises.
For an operation a thread takes the lock, goes through the steps of the operation, and
gives the lock back; between any two of its moves other threads may move.

Main definitions:

- `Thread`: the operations that a thread has still to do, and where it is in the first.
- `Crowd`: a shared monitor with its threads.
- `Crowd.gather`: threads that have not begun.
- `Crowd.proceed`: a step of the thread that holds the lock.
- `Crowd.move`: one move of one thread.
- `Crowd.follow`: the moves of a schedule.
- `Schedule.inTurn`: a schedule in which the threads take turns.
-/

namespace ResourceHealth

/-- Where a thread is in its first operation. -/
inductive Stage (World : Type) where
  /-- It has not taken the lock. -/
  | outside
  /-- It holds the lock. -/
  | inside (progress : Progress World)

/-- A thread: what it has still to do and what it was answered. -/
structure Thread (World : Type) where
  pending : List Operation
  stage : Stage World := .outside
  answers : List (Except Panic Answer) := []

/-- A shared monitor with its threads. -/
structure Crowd (State World : Type) where
  shared : Shared State
  threads : List (Thread World)
  /-- The thread that holds the lock. -/
  holder : Option Nat := none
  events : List Event := []

namespace Crowd

variable {State World : Type}

/-- Threads with a program each, none of which has begun. -/
def gather (shared : Shared State) (programs : List (List Operation)) : Crowd State World where
  shared
  threads := programs.map fun pending => { pending }

/-- A thread that holds the lock goes a step on.  If it panics it ends there, and the lock is
given back poisoned. -/
def proceed (source : Source State World) (index : Nat) (thread : Thread World)
    (operation : Operation) (progress : Progress World) (crowd : Crowd State World) :
    Crowd State World :=
  let outcome := progress.advance source operation crowd.shared.lock
  match outcome.answer with
  | .ok next =>
    { crowd with
      shared := { crowd.shared with monitor := outcome.state }
      threads := crowd.threads.set index { thread with stage := .inside next }
      events := crowd.events ++ outcome.events }
  | .error cause =>
    { shared := ⟨outcome.state, true⟩
      threads :=
        crowd.threads.set index { pending := [], answers := thread.answers ++ [.error cause] }
      holder := none
      events := crowd.events ++ outcome.events }

/-- One move of a thread, if it can make one.  The moment at which it takes the lock is the
moment of its operation. -/
def move (source : Source State World) (index : Nat) (moment : Moment World)
    (crowd : Crowd State World) : Option (Crowd State World) :=
  match crowd.threads[index]? with
  | none => none
  | some thread =>
    match thread.pending, thread.stage with
    | [], _ => none
    | _ :: _, .outside =>
      match crowd.holder with
      | some _ => none
      | none =>
        some
          { crowd with
            holder := some index
            threads :=
              crowd.threads.set index { thread with stage := .inside (.begun moment) } }
    | _ :: rest, .inside (.ended answer) =>
      some
        { crowd with
          holder := none
          threads :=
            crowd.threads.set index
              { pending := rest, answers := thread.answers ++ [.ok answer] } }
    | operation :: _, .inside progress =>
      some (crowd.proceed source index thread operation progress)

/-- The moves of a schedule, at a moment each; a thread that cannot move waits. -/
def follow (source : Source State World) (schedule : List (Nat × Moment World))
    (crowd : Crowd State World) : Crowd State World :=
  schedule.foldl (fun current turn => (current.move source turn.1 turn.2).getD current) crowd

@[simp]
theorem follow_nil (source : Source State World) (crowd : Crowd State World) :
    crowd.follow source [] = crowd :=
  rfl

/-- A schedule goes on from the crowd that its first turn leaves, a turn that cannot move leaving
it as it is. -/
@[simp]
theorem follow_cons (source : Source State World) (turn : Nat × Moment World)
    (rest : List (Nat × Moment World)) (crowd : Crowd State World) :
    crowd.follow source (turn :: rest) =
      ((crowd.move source turn.1 turn.2).getD crowd).follow source rest :=
  rfl

end Crowd

namespace Schedule

/-- How many moves an operation takes at most: taking the lock, nine steps, and giving it
back. -/
def movesPerOperation : Nat := 11

/-- A schedule in which the threads take turns, one move each, often enough for a number of
operations of each thread. -/
def inTurn (threads rounds : Nat) : List Nat :=
  (List.replicate (movesPerOperation * threads * rounds) (List.range threads)).flatten

end Schedule

end ResourceHealth
