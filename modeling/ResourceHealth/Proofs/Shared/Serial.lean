import ResourceHealth.Proofs.Monitor.Calls
import ResourceHealth.Proofs.Shared.Progress
import ResourceHealth.Shared.Schedule

/-!
# Interleavings are serial

The moves of threads that share a monitor come in any order, but the calls of the
threads take effect one after the other, each as a whole, in the order in which they
got the lock.

Main definitions:

- `Crowd.MoveCases`: all that a move can be.
- `Crowd.added`: the samples that the moves of a schedule put into the history.
- `Crowd.SerialInvariant`: the invariant, which gives the calls that are done in their order.

Main results:

- Theorem `Crowd.SerialInvariant.move`: every move keeps the invariant.
- Theorem `Crowd.serial_follow`: after any schedule the threads are as after calls one
  after the other.
-/

namespace ResourceHealth

/-! ## Moves -/

namespace Crowd

variable {State World : Type}

/-- All that a move of a thread can be. -/
inductive MoveCases (source : Source State World) (index : Nat) (moment : Moment World)
    (crowd : Crowd State World) : Crowd State World → Prop where
  /-- It takes the lock. -/
  | take {thread : Thread World} {operation : Operation} {rest : List Operation}
      (hthread : crowd.threads[index]? = some thread)
      (hpending : thread.pending = operation :: rest) (hstage : thread.stage = .outside)
      (hholder : crowd.holder = none) :
      MoveCases source index moment crowd
        { crowd with
          holder := some index
          threads := crowd.threads.set index { thread with stage := .inside (.begun moment) } }
  /-- It gives the lock back. -/
  | release {thread : Thread World} {operation : Operation} {rest : List Operation}
      {answer : Answer} (hthread : crowd.threads[index]? = some thread)
      (hpending : thread.pending = operation :: rest)
      (hstage : thread.stage = .inside (.ended answer)) :
      MoveCases source index moment crowd
        { crowd with
          holder := none
          threads :=
            crowd.threads.set index
              { pending := rest, answers := thread.answers ++ [.ok answer] } }
  /-- It goes a step on. -/
  | step {thread : Thread World} {operation : Operation} {rest : List Operation}
      {progress next : Progress World} {now : Monitor State} {log : List Event}
      (hthread : crowd.threads[index]? = some thread)
      (hpending : thread.pending = operation :: rest)
      (hstage : thread.stage = .inside progress) (hended : ∀ answer, progress ≠ .ended answer)
      (hadvance : progress.advance source operation crowd.shared.monitor =
        { answer := .ok next, state := now, events := log }) :
      MoveCases source index moment crowd
        { crowd with
          shared := { crowd.shared with monitor := now }
          threads := crowd.threads.set index { thread with stage := .inside next }
          events := crowd.events ++ log }
  /-- It panics. -/
  | panic {thread : Thread World} {operation : Operation} {rest : List Operation}
      {progress : Progress World} {cause : Panic} {now : Monitor State} {log : List Event}
      (hthread : crowd.threads[index]? = some thread)
      (hpending : thread.pending = operation :: rest)
      (hstage : thread.stage = .inside progress)
      (hadvance : progress.advance source operation crowd.shared.monitor =
        { answer := .error cause, state := now, events := log }) :
      MoveCases source index moment crowd
        { shared := ⟨now, true⟩
          threads :=
            crowd.threads.set index
              { pending := [], answers := thread.answers ++ [.error cause] }
          holder := none
          events := crowd.events ++ log }

/-- A thread that holds the lock and does not know its answer goes a step on. -/
theorem move_of_inside {source : Source State World} {index : Nat} {moment : Moment World}
    {crowd : Crowd State World} {thread : Thread World} {operation : Operation}
    {rest : List Operation} {progress : Progress World}
    (hthread : crowd.threads[index]? = some thread)
    (hpending : thread.pending = operation :: rest) (hstage : thread.stage = .inside progress)
    (hended : ∀ answer, progress ≠ .ended answer) :
    crowd.move source index moment =
      some (crowd.proceed source index thread operation progress) := by
  unfold move
  cases progress with
  | ended answer => exact absurd rfl (hended answer)
  | _ => simp only [hthread, hpending, hstage]

/-- A thread inside an operation moves by one step of that operation. -/
theorem moves_proceed {source : Source State World} {index : Nat} {moment : Moment World}
    {crowd : Crowd State World} {thread : Thread World} {operation : Operation}
    {rest : List Operation} {progress : Progress World}
    (hthread : crowd.threads[index]? = some thread)
    (hpending : thread.pending = operation :: rest) (hstage : thread.stage = .inside progress)
    (hended : ∀ answer, progress ≠ .ended answer) :
    crowd.MoveCases source index moment
      (crowd.proceed source index thread operation progress) := by
  unfold proceed
  rw [Shared.lock_eq_monitor]
  rcases hadvance : progress.advance source operation crowd.shared.monitor with
    ⟨cause | next, now, log⟩
  · exact .panic hthread hpending hstage hadvance
  · exact .step hthread hpending hstage hended hadvance

/-- A move is one of these. -/
theorem moves_of_move {source : Source State World} {index : Nat} {moment : Moment World}
    {crowd next : Crowd State World} (h : crowd.move source index moment = some next) :
    crowd.MoveCases source index moment next := by
  cases hthread : crowd.threads[index]? with
  | none => simp [move, hthread] at h
  | some thread =>
    rcases hpending : thread.pending with _ | ⟨operation, rest⟩
    · simp [move, hthread, hpending] at h
    · cases hstage : thread.stage with
      | outside =>
        cases hholder : crowd.holder with
        | some other => simp [move, hthread, hpending, hstage, hholder] at h
        | none =>
          simp only [move, hthread, hpending, hstage, hholder, Option.some.injEq] at h
          rw [← h, ← hpending]
          exact .take hthread hpending hstage hholder
      | inside progress =>
        by_cases hended : ∃ answer, progress = .ended answer
        · obtain ⟨answer, rfl⟩ := hended
          simp only [move, hthread, hpending, hstage, Option.some.injEq] at h
          rw [← h]
          exact .release hthread hpending hstage
        · have hgoes : ∀ answer, progress ≠ .ended answer := fun answer heq =>
            hended ⟨answer, heq⟩
          rw [move_of_inside hthread hpending hstage hgoes, Option.some.injEq] at h
          rw [← h]
          exact moves_proceed hthread hpending hstage hgoes

end Crowd

/-! ## The invariant -/

section

variable {State World : Type} {source : Source State World} {start : Monitor State}
  {programs : List (List Operation)} {calls : List (Call World)}

/-- What a thread has come to after calls one after the other: it has the answers to its
calls, and the rest of its program is still to do, unless it panicked. -/
structure Thread.AfterCalls (source : Source State World) (start : Monitor State)
    (calls : List (Call World)) (index : Nat) (program : List Operation)
    (thread : Thread World) : Prop where
  answers : thread.answers = start.answersTo source index calls
  program : ∃ left, program = Call.operationsOf index calls ++ left ∧
    (thread.pending = left ∨
      thread.pending = [] ∧ ∃ cause, .error cause ∈ thread.answers)

/-- Only the thread that holds the lock is inside. -/
def Crowd.MutualExclusion (crowd : Crowd State World) : Prop :=
  ∀ (index : Nat) (thread : Thread World), crowd.threads[index]? = some thread →
    crowd.holder ≠ some index → thread.stage = .outside

/-- How the monitor stands to the monitor that the calls done so far have left, with the
samples that the call under way has put into the history. -/
inductive Crowd.LockState (source : Source State World) (before : Monitor State)
    (crowd : Crowd State World) : List (Nat × Sample) → Prop where
  /-- No call is under way. -/
  | free (hholder : crowd.holder = none) (hmonitor : crowd.shared.monitor = before) :
      LockState source before crowd []
  /-- The first call of the thread that holds the lock is under way. -/
  | held {holder : Nat} {thread : Thread World} {operation : Operation}
      {rest : List Operation} {progress : Progress World} {moment : Moment World}
      {log : List Event} (hholder : crowd.holder = some holder)
      (hthread : crowd.threads[holder]? = some thread)
      (hpending : thread.pending = operation :: rest) (hstage : thread.stage = .inside progress)
      (hreached : progress.Reached source operation moment before crowd.shared.monitor log) :
      LockState source before crowd
        ((progress.storedBy source operation moment before).map (holder, ·))

/-- What holds of threads that began with programs, whatever moves they made: some calls are
done, one after the other, and one more may be under way. -/
structure Crowd.SerialInvariant (source : Source State World) (start : Monitor State)
    (programs : List (List Operation)) (calls : List (Call World))
    (added : List (Nat × Sample)) (crowd : Crowd State World) : Prop where
  length : crowd.threads.length = programs.length
  threads : ∀ (index : Nat) (program : List Operation) (thread : Thread World),
    programs[index]? = some program → crowd.threads[index]? = some thread →
      thread.AfterCalls source start calls index program
  callers : ∀ call ∈ calls, call.thread < programs.length
  mutualExclusion : crowd.MutualExclusion
  lockState : ∃ under, crowd.LockState source (start.after source (calls.map Call.step)) under ∧
    added = start.takenBy source calls ++ under

/-! ## One thread -/

namespace Thread

/-- What a thread has been answered does not depend on the stage it is in. -/
theorem AfterCalls.with_stage {index : Nat} {program : List Operation} {thread : Thread World}
    (h : thread.AfterCalls source start calls index program) (stage : Stage World) :
    AfterCalls source start calls index program { thread with stage } where
  answers := h.answers
  program := h.program

/-- The call of another thread is none of its business. -/
theorem AfterCalls.of_other {index : Nat} {program : List Operation} {thread : Thread World}
    (h : thread.AfterCalls source start calls index program) {call : Call World}
    (hother : call.thread ≠ index) :
    thread.AfterCalls source start (calls ++ [call]) index program where
  answers := by simp [Monitor.answersTo_append, Monitor.answersTo, hother, h.answers]
  program := by simpa [Call.operationsOf, hother] using h.program

/-- A thread whose call is answered goes on with the rest, or ends in a panic. -/
theorem AfterCalls.of_answer {index : Nat} {program : List Operation} {thread : Thread World}
    (h : thread.AfterCalls source start calls index program) {operation : Operation}
    {rest pending : List Operation} {moment : Moment World} {answer : Except Panic Answer}
    (hpending : thread.pending = operation :: rest)
    (hanswer : ((start.after source (calls.map Call.step)).perform source operation
      moment).answer = answer)
    (hnext : pending = rest ∨ pending = [] ∧ ∃ cause, answer = .error cause) :
    AfterCalls source start (calls ++ [⟨index, operation, moment⟩]) index program
      { pending, answers := thread.answers ++ [answer] } where
  answers := by
    simp [Monitor.answersTo_append, Monitor.answersTo, h.answers, hanswer]
  program := by
    obtain ⟨left, hprogram, hleft⟩ := h.program
    have hdo : left = operation :: rest := by
      rcases hleft with hleft | ⟨hempty, -⟩
      · rw [← hleft, hpending]
      · rw [hpending] at hempty
        cases hempty
    refine ⟨rest, ?_, ?_⟩
    · rw [hprogram, hdo, Call.operationsOf_append]
      simp [Call.operationsOf]
    · rcases hnext with hnext | ⟨hnext, cause, hcause⟩
      · exact Or.inl hnext
      · exact Or.inr ⟨hnext, cause, by simp [hcause]⟩

end Thread

/-! ## One move -/

namespace Crowd

variable {crowd next : Crowd State World} {noted : List (Nat × Sample)} {index : Nat}

/-- The sample that the next move of a thread puts into the history. -/
def addedSample? (index : Nat) (crowd : Crowd State World) : Option Sample :=
  crowd.threads[index]?.bind fun thread =>
    match thread.stage with
    | .outside => none
    | .inside progress => progress.addedSample?

/-- A thread inside an operation is about to add the sample that its progress holds, if any. -/
theorem addedSample?_of_stage {thread : Thread World} {progress : Progress World}
    (hthread : crowd.threads[index]? = some thread) (hstage : thread.stage = .inside progress) :
    crowd.addedSample? index = progress.addedSample? := by
  simp [addedSample?, hthread, hstage]

/-- A thread that is inside is the one whose call is under way. -/
theorem SerialInvariant.exists_of_inside
    (h : crowd.SerialInvariant source start programs calls noted)
    {thread : Thread World} {operation : Operation} {rest : List Operation}
    {progress : Progress World} (hthread : crowd.threads[index]? = some thread)
    (hpending : thread.pending = operation :: rest) (hstage : thread.stage = .inside progress) :
    crowd.holder = some index ∧
      ∃ moment log,
        let before := start.after source (calls.map Call.step)
        progress.Reached source operation moment before crowd.shared.monitor log ∧
        noted = start.takenBy source calls ++
          (progress.storedBy source operation moment before).map (index, ·) := by
  have hheld : crowd.holder = some index := by
    by_cases hheld : crowd.holder = some index
    · exact hheld
    · rw [h.mutualExclusion index thread hthread hheld] at hstage
      cases hstage
  refine ⟨hheld, ?_⟩
  obtain ⟨under, hlockState, hnoted⟩ := h.lockState
  cases hlockState with
  | free hholder hmonitor =>
    rw [hheld] at hholder
    cases hholder
  | held hholder hthread' hpending' hstage' hreached =>
    rw [hheld] at hholder
    cases hholder
    rw [hthread] at hthread'
    cases hthread'
    rw [hpending] at hpending'
    cases hpending'
    rw [hstage] at hstage'
    cases hstage'
    exact ⟨_, _, hreached, hnoted⟩

/-- The threads after the calls have gone on and one of them has changed. -/
theorem after_set {threads : List (Thread World)} {more : List (Call World)}
    {new : Thread World}
    (hnew : ∀ program, programs[index]? = some program →
      new.AfterCalls source start more index program)
    (hothers : ∀ (other : Nat) (program : List Operation) (thread : Thread World),
      other ≠ index → programs[other]? = some program → threads[other]? = some thread →
        thread.AfterCalls source start more other program) :
    ∀ (other : Nat) (program : List Operation) (thread : Thread World),
      programs[other]? = some program → (threads.set index new)[other]? = some thread →
        thread.AfterCalls source start more other program := by
  intro other program thread hprogram hthread
  by_cases hother : other = index
  · subst hother
    rw [List.getElem?_set_self'] at hthread
    cases hold : threads[other]? with
    | none =>
      rw [hold] at hthread
      cases hthread
    | some old =>
      rw [hold] at hthread
      cases hthread
      exact hnew program hprogram
  · rw [List.getElem?_set_ne (Ne.symm hother)] at hthread
    exact hothers other program thread hother hprogram hthread

/-- Only a thread that changes can come in, and then it holds the lock. -/
theorem MutualExclusion.set (h : crowd.MutualExclusion)
    (hindex : crowd.holder = none ∨ crowd.holder = some index) {new : Thread World}
    {shared : Shared State} {holder : Option Nat} {events : List Event}
    (hnew : holder = some index ∨ new.stage = .outside) :
    MutualExclusion { shared, threads := crowd.threads.set index new, holder, events } := by
  intro other thread hthread hholder
  simp only at hthread hholder
  by_cases hother : other = index
  · subst hother
    rcases hnew with hheld | hnew
    · exact absurd hheld hholder
    · rw [List.getElem?_set_self'] at hthread
      cases hold : crowd.threads[other]? with
      | none =>
        rw [hold] at hthread
        cases hthread
      | some old =>
        rw [hold] at hthread
        cases hthread
        exact hnew
  · rw [List.getElem?_set_ne (Ne.symm hother)] at hthread
    refine h other thread hthread ?_
    rcases hindex with hindex | hindex <;> rw [hindex] <;> simp [Ne.symm hother]

/-- A call that is done is one more of the calls. -/
theorem SerialInvariant.of_answer (h : crowd.SerialInvariant source start programs calls noted)
    {thread : Thread World} {operation : Operation} {rest pending : List Operation}
    {moment : Moment World} {answer : Except Panic Answer} {now : Monitor State}
    {log : List Event} (poisoned : Bool) (events : List Event)
    (hthread : crowd.threads[index]? = some thread)
    (hpending : thread.pending = operation :: rest) (hheld : crowd.holder = some index)
    (hperform : (start.after source (calls.map Call.step)).perform source operation moment =
      { answer, state := now, events := log })
    (hnext : pending = rest ∨ pending = [] ∧ ∃ cause, answer = .error cause) :
    SerialInvariant source start programs (calls ++ [⟨index, operation, moment⟩])
      (start.takenBy source calls ++
        ((start.after source (calls.map Call.step)).taken? source operation
          moment).toList.map (index, ·))
      { shared := ⟨now, poisoned⟩
        threads :=
          crowd.threads.set index { pending, answers := thread.answers ++ [answer] }
        holder := none
        events } := by
  have hindex : index < programs.length := by
    rw [← h.length]
    exact (List.getElem?_eq_some_iff.mp hthread).1
  have hanswer : ((start.after source (calls.map Call.step)).perform source operation
      moment).answer = answer := by rw [hperform]
  refine
    { length := by rw [List.length_set, h.length]
      threads := after_set (fun program hprogram => ?_)
        fun other program current hother hprogram hcurrent => ?_
      callers := ?_
      mutualExclusion := h.mutualExclusion.set (Or.inr hheld) (Or.inr rfl)
      lockState := ⟨[], .free rfl ?_, ?_⟩ }
  · exact (h.threads index program thread hprogram hthread).of_answer hpending hanswer hnext
  · exact (h.threads other program current hprogram hcurrent).of_other (Ne.symm hother)
  · intro call hcall
    rcases List.mem_append.mp hcall with hcall | hcall
    · exact h.callers call hcall
    · rw [List.mem_singleton.mp hcall]
      exact hindex
  · rw [List.map_append, Monitor.after_append]
    simp [Call.step, hperform]
  · simp [Monitor.takenBy_append, Monitor.takenBy]

/-- Every move keeps the invariant. -/
theorem SerialInvariant.move (h : crowd.SerialInvariant source start programs calls noted)
    {moment : Moment World} (hmove : crowd.move source index moment = some next) :
    ∃ more, next.SerialInvariant source start programs (calls ++ more)
      (noted ++ (crowd.addedSample? index).toList.map (index, ·)) := by
  cases moves_of_move hmove with
  | @take thread operation rest hthread hpending hstage hholder =>
    -- Nobody held the lock, so the monitor is as the calls have left it.
    obtain ⟨under, hlockState, hnoted⟩ := h.lockState
    have hnone : crowd.addedSample? index = none := by simp [addedSample?, hthread, hstage]
    refine ⟨[], ?_⟩
    rw [hnone, List.append_nil]
    cases hlockState with
    | held hheld =>
      rw [hholder] at hheld
      cases hheld
    | free _ hmonitor =>
      have hlength := (List.getElem?_eq_some_iff.mp hthread).1
      have hbegun : Progress.Reached source operation moment
          (start.after source (calls.map Call.step)) (.begun moment) crowd.shared.monitor [] := by
        rw [hmonitor]
        exact .begun
      exact
        { length := by rw [List.length_set, h.length]
          threads := after_set
            (fun program hprogram => (h.threads index program thread hprogram hthread).with_stage _)
            fun other program current _ hprogram hcurrent =>
              h.threads other program current hprogram hcurrent
          callers := h.callers
          mutualExclusion := h.mutualExclusion.set (Or.inl hholder) (Or.inl rfl)
          lockState :=
            ⟨_, .held rfl (List.getElem?_set_self hlength) hpending rfl hbegun,
              by simp [hnoted, Progress.storedBy, Progress.stored]⟩ }
  | @release thread operation rest answer hthread hpending hstage =>
    obtain ⟨hheld, moment, log, hreached, hnoted⟩ :=
      h.exists_of_inside hthread hpending hstage
    rw [addedSample?_of_stage hthread hstage]
    -- The answer is that of the whole operation, which is now one of the calls.
    cases hreached with
    | ended hperform =>
      refine ⟨[⟨index, operation, moment⟩], ?_⟩
      rw [hnoted]
      simp only [Progress.addedSample?, Option.toList_none, List.map_nil, List.append_nil]
      exact h.of_answer _ _ hthread hpending hheld hperform (Or.inl rfl)
  | @step thread operation rest progress following now told hthread hpending hstage hended
      hadvance =>
    obtain ⟨hheld, moment, log, hreached, hnoted⟩ :=
      h.exists_of_inside hthread hpending hstage
    -- The calls stay as they are; only the one under way has come further.
    have hadvanceSound := hreached.advance
    have hstored := hreached.storedBy_advance (by rw [hadvance])
    rw [Progress.AdvanceSound, hadvance] at hadvanceSound
    have hlength := (List.getElem?_eq_some_iff.mp hthread).1
    refine ⟨[], ?_⟩
    rw [addedSample?_of_stage hthread hstage, List.append_nil]
    exact
      { length := by rw [List.length_set, h.length]
        threads := after_set
          (fun program hprogram => (h.threads index program thread hprogram hthread).with_stage _)
          fun other program current _ hprogram hcurrent =>
            h.threads other program current hprogram hcurrent
        callers := h.callers
        mutualExclusion := h.mutualExclusion.set (Or.inr hheld) (Or.inl hheld)
        lockState :=
          ⟨_, .held hheld (List.getElem?_set_self hlength) hpending rfl hadvanceSound,
            by rw [hnoted, hstored, List.map_append, List.append_assoc]⟩ }
  | @panic thread operation rest progress cause now told hthread hpending hstage hadvance =>
    obtain ⟨hheld, moment, log, hreached, hnoted⟩ :=
      h.exists_of_inside hthread hpending hstage
    -- The whole operation panics, and nothing of it has come into the history.
    have hadvanceSound := hreached.advance
    rw [Progress.AdvanceSound, hadvance] at hadvanceSound
    obtain ⟨hstored, hadds⟩ := Progress.stored_of_panic (by rw [hadvance])
    have hnone : (start.after source (calls.map Call.step)).taken? source operation moment =
        none := Monitor.taken?_of_panic (by rw [hadvanceSound])
    have hdone := h.of_answer true (crowd.events ++ told) hthread hpending hheld hadvanceSound
      (Or.inr ⟨rfl, cause, rfl⟩)
    rw [hnone] at hdone
    refine ⟨[⟨index, operation, moment⟩], ?_⟩
    rw [hnoted, addedSample?_of_stage hthread hstage, hadds, Progress.storedBy, hstored,
      List.append_assoc]
    exact hdone

/-! ## Schedules -/

/-- The samples that the moves of a schedule put into the history, each with the thread that
takes it. -/
def added (source : Source State World) :
    List (Nat × Moment World) → Crowd State World → List (Nat × Sample)
  | [], _ => []
  | (index, moment) :: rest, crowd =>
    match crowd.move source index moment with
    | none => crowd.added source rest
    | some next => (crowd.addedSample? index).toList.map (index, ·) ++ next.added source rest

/-- All that follows keeps the invariant. -/
theorem SerialInvariant.follow (h : crowd.SerialInvariant source start programs calls noted)
    (schedule : List (Nat × Moment World)) :
    ∃ more, (crowd.follow source schedule).SerialInvariant source start programs (calls ++ more)
      (noted ++ crowd.added source schedule) := by
  induction schedule generalizing crowd calls noted with
  | nil =>
    refine ⟨[], ?_⟩
    rw [List.append_nil, added, List.append_nil]
    exact h
  | cons turn rest ih =>
    rw [follow_cons]
    simp only [added]
    cases hmove : crowd.move source turn.1 turn.2 with
    | none => exact ih h
    | some next =>
      obtain ⟨first, hfirst⟩ := h.move hmove
      obtain ⟨second, hsecond⟩ := ih hfirst
      refine ⟨first ++ second, ?_⟩
      rw [← List.append_assoc, ← List.append_assoc]
      exact hsecond

/-- The invariant holds before anyone has moved. -/
theorem serial_gather (source : Source State World) (shared : Shared State)
    (programs : List (List Operation)) :
    (gather shared programs).SerialInvariant source shared.monitor programs [] [] where
  length := List.length_map _
  threads := by
    intro index program thread hprogram hthread
    simp only [gather, List.getElem?_map, hprogram, Option.map_some, Option.some.injEq]
      at hthread
    subst hthread
    exact { answers := rfl, program := ⟨program, rfl, Or.inl rfl⟩ }
  callers := by simp
  mutualExclusion := by
    intro index thread hthread _
    simp only [gather, List.getElem?_map, Option.map_eq_some_iff] at hthread
    obtain ⟨program, -, rfl⟩ := hthread
    rfl
  lockState := ⟨[], .free rfl rfl, rfl⟩

/-- Whatever the schedule, the threads are as after calls one after the other. -/
theorem serial_follow (source : Source State World) (shared : Shared State)
    (programs : List (List Operation)) (schedule : List (Nat × Moment World)) :
    ∃ calls, ((gather shared programs).follow source schedule).SerialInvariant source shared.monitor
      programs calls ((gather shared programs).added source schedule) :=
  (serial_gather source shared programs).follow schedule

end Crowd

end

end ResourceHealth
