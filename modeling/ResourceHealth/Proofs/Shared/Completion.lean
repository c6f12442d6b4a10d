import Mathlib
import ResourceHealth.Proofs.Shared.Serial

/-!
# All threads come to an end

The threads of a monitor never wait for each other in a circle: as long as one has
something to do, one of them can move, and each move leaves fewer moves.

Main definitions:

- `Crowd.Done`: no thread has anything left to do.
- `Crowd.movesLeft`: how many moves there are at most.

Main results:

- Theorem `Crowd.movesLeft_lt_of_move`: each move leaves fewer moves.
- Theorem `Crowd.SerialInvariant.done_or_moveCases`: no state is stuck.
- Theorem `Crowd.SerialInvariant.exists_done`: what has begun can be brought to an end.
-/

namespace ResourceHealth

variable {State World : Type}

/-- How many moves a thread has left at most. -/
def Thread.movesLeft (thread : Thread World) : Nat :=
  Schedule.movesPerOperation * thread.pending.length -
    match thread.stage with
    | .outside => 0
    | .inside progress => progress.rank + 1

namespace Crowd

/-- No thread has anything left to do. -/
def Done (crowd : Crowd State World) : Prop :=
  ∀ thread ∈ crowd.threads, thread.pending = []

instance (crowd : Crowd State World) : Decidable crowd.Done :=
  inferInstanceAs (Decidable (∀ thread ∈ crowd.threads, thread.pending = []))

/-- How many moves there are left at most. -/
def movesLeft (crowd : Crowd State World) : Nat :=
  (crowd.threads.map Thread.movesLeft).sum

/-! ## Each move leaves fewer -/

/-- A smaller term makes a smaller sum. -/
theorem sum_map_set_lt {threads : List (Thread World)} {index : Nat} {old new : Thread World}
    (hold : threads[index]? = some old) (hless : new.movesLeft < old.movesLeft) :
    ((threads.set index new).map Thread.movesLeft).sum <
      (threads.map Thread.movesLeft).sum := by
  induction threads generalizing index with
  | nil => cases hold
  | cons thread rest ih =>
    cases index with
    | zero =>
      cases hold
      simp only [List.set_cons_zero, List.map_cons, List.sum_cons]
      omega
    | succ index =>
      have hrest := ih hold
      simp only [List.set_cons_succ, List.map_cons, List.sum_cons]
      omega

/-- Each move leaves fewer moves. -/
theorem movesLeft_lt_of_move {source : Source State World} {index : Nat}
    {moment : Moment World} {crowd next : Crowd State World}
    (h : crowd.move source index moment = some next) : next.movesLeft < crowd.movesLeft := by
  cases moves_of_move h with
  | take hthread hpending hstage hholder =>
    refine sum_map_set_lt hthread ?_
    simp only [Thread.movesLeft, hpending, hstage, Progress.rank, List.length_cons,
      Schedule.movesPerOperation]
    omega
  | release hthread hpending hstage =>
    refine sum_map_set_lt hthread ?_
    simp only [Thread.movesLeft, hpending, hstage, Progress.rank, List.length_cons,
      Schedule.movesPerOperation]
    omega
  | @step thread operation rest progress following now told hthread hpending hstage hended
      hadvance =>
    have hforward : progress.rank < following.rank :=
      Progress.rank_advance hended (by rw [hadvance])
    have hbound := following.rank_le
    refine sum_map_set_lt hthread ?_
    simp only [Thread.movesLeft, hpending, hstage, List.length_cons,
      Schedule.movesPerOperation]
    omega
  | @panic thread operation rest progress cause now told hthread hpending hstage hadvance =>
    have hbound := progress.rank_le
    refine sum_map_set_lt hthread ?_
    simp only [Thread.movesLeft, hpending, hstage, List.length_cons, List.length_nil,
      Schedule.movesPerOperation]
    omega

/-! ## No state is stuck -/

variable {source : Source State World} {start : Monitor State}
  {programs : List (List Operation)} {calls : List (Call World)}
  {noted : List (Nat × Sample)} {crowd : Crowd State World}

/-- Either all threads are done, or one of them can move, at whatever moment. -/
theorem SerialInvariant.done_or_moveCases
    (h : crowd.SerialInvariant source start programs calls noted) :
    crowd.Done ∨ ∃ index, ∀ moment, ∃ next, crowd.move source index moment = some next := by
  obtain ⟨under, hlockState, -⟩ := h.lockState
  cases hlockState with
  | @held holder thread operation rest progress began log hholder hthread hpending hstage
      hreached =>
    right
    refine ⟨holder, fun moment => ?_⟩
    by_cases hended : ∃ answer, progress = .ended answer
    · obtain ⟨answer, rfl⟩ := hended
      simp [Crowd.move, hthread, hpending, hstage]
    · exact ⟨_, move_of_inside hthread hpending hstage fun answer heq =>
        hended ⟨answer, heq⟩⟩
  | free hholder hmonitor =>
    by_cases hdone : crowd.Done
    · exact Or.inl hdone
    · right
      simp only [Done, Classical.not_forall] at hdone
      obtain ⟨thread, hmem, hpending⟩ := hdone
      obtain ⟨index, hthread⟩ := List.mem_iff_getElem?.mp hmem
      have hstage : thread.stage = .outside :=
        h.mutualExclusion index thread hthread (by simp [hholder])
      obtain ⟨operation, rest, hpending⟩ := List.exists_cons_of_ne_nil hpending
      refine ⟨index, fun moment => ?_⟩
      simp [Crowd.move, hthread, hpending, hstage, hholder]

/-- What has begun can be brought to an end by further moves. -/
theorem SerialInvariant.exists_done (h : crowd.SerialInvariant source start programs calls noted)
    (moment : Moment World) :
    ∃ turns : List Nat, (crowd.follow source (turns.map (·, moment))).Done := by
  induction hleft : crowd.movesLeft using Nat.strongRecOn generalizing crowd calls noted with
  | ind left ih =>
    rcases h.done_or_moveCases with hdone | ⟨index, hmoveCases⟩
    · exact ⟨[], hdone⟩
    · obtain ⟨next, hmove⟩ := hmoveCases moment
      obtain ⟨more, hnext⟩ := h.move hmove
      obtain ⟨turns, hdone⟩ := ih next.movesLeft (hleft ▸ movesLeft_lt_of_move hmove) hnext rfl
      refine ⟨index :: turns, ?_⟩
      rw [List.map_cons, follow_cons, hmove]
      exact hdone

end Crowd

end ResourceHealth
