import Mathlib
import ResourceHealth.Proofs.Shared.Completion

/-!
# Samples of threads that share a monitor

Threads that share a monitor lose no sample and get none twice, in whatever order they
move.  If all they do is ask, one sample is enough for all of them.

Main definitions:

- `Thread.returned`: the samples that a thread was returned.

Main results:

- Theorem `perm_flatten_of_parts`: labelled entries are, up to order, their parts.
- Theorem `Crowd.SerialInvariant.program_eq`: a thread that is done has carried out its program.
- Theorem `Crowd.samples_of_any_interleaving`: what is in the history when all threads are
  done.
-/

namespace ResourceHealth

/-- Labelled entries are, up to order, the parts with the labels one after the other. -/
theorem perm_flatten_of_parts {Entry Value : Type} (label : Entry → Nat)
    (value : Entry → Value) {entries : List Entry} {parts : List (List Value)}
    (hlabel : ∀ entry ∈ entries, label entry < parts.length)
    (hparts : ∀ index part, parts[index]? = some part →
      part = (entries.filter fun entry => label entry = index).map value) :
    (entries.map value).Perm parts.flatten := by
  induction parts using List.reverseRecOn generalizing entries with
  | nil =>
    have hempty : entries = [] :=
      List.eq_nil_iff_forall_not_mem.mpr fun entry hmem =>
        Nat.not_lt_zero _ (hlabel entry hmem)
    rw [hempty]
    exact List.Perm.nil
  | append_singleton parts last ih =>
    let before := entries.filter fun entry => label entry < parts.length
    have hbefore : (before.map value).Perm parts.flatten := by
      refine ih (fun entry hmem => by simpa using (List.mem_filter.mp hmem).2)
        fun index part hpart => ?_
      have hindex : index < parts.length := (List.getElem?_eq_some_iff.mp hpart).1
      rw [hparts index part (by rw [List.getElem?_append_left hindex, hpart]),
        List.filter_filter]
      congr 1
      refine List.filter_congr fun entry _ => ?_
      by_cases hentry : label entry = index <;> simp [hentry, hindex]
    have hlast : last = (entries.filter fun entry => !decide (label entry < parts.length)).map
        value := by
      rw [hparts parts.length last (by simp)]
      congr 1
      refine List.filter_congr fun entry hmem => ?_
      have hbound := hlabel entry hmem
      rw [List.length_append, List.length_singleton] at hbound
      by_cases hentry : label entry = parts.length
      · simp [hentry]
      · have hless : label entry < parts.length := by omega
        simp [hentry, hless]
    have hsplit := (List.filter_append_perm
      (fun entry => decide (label entry < parts.length)) entries).symm.map value
    rw [List.map_append, ← hlast] at hsplit
    rw [List.flatten_append, List.flatten_singleton]
    exact hsplit.trans (hbefore.append_right last)

namespace Monitor

variable {State World : Type} {source : Source State World} {monitor : Monitor State}

/-- With a steady source no answer is a panic. -/
theorem ok_of_mem_answersTo (hsteady : source.Steady) {index : Nat} {calls : List (Call World)}
    {answer : Except Panic Answer} (h : answer ∈ monitor.answersTo source index calls) :
    ∃ given, answer = .ok given := by
  induction calls generalizing monitor with
  | nil => cases h
  | cons call rest ih =>
    rw [answersTo, List.mem_append] at h
    rcases h with h | h
    · obtain ⟨given, hgiven⟩ :=
        exists_answer_of_steady hsteady call.operation call.moment monitor
      split at h
      · rw [List.mem_singleton.mp h]
        exact ⟨given, hgiven⟩
      · cases h
    · exact ih h

/-- A sample is returned to a thread that called. -/
theorem exists_call_of_mem_returnedBy {calls : List (Call World)} {entry : Nat × Sample}
    (h : entry ∈ monitor.returnedBy source calls) : ∃ call ∈ calls, call.thread = entry.1 := by
  induction calls generalizing monitor with
  | nil => cases h
  | cons call rest ih =>
    rw [returnedBy, List.mem_append, List.mem_map] at h
    rcases h with ⟨sample, -, rfl⟩ | h
    · exact ⟨call, List.mem_cons_self, rfl⟩
    · obtain ⟨other, hmem, hthread⟩ := ih h
      exact ⟨other, List.mem_cons_of_mem call hmem, hthread⟩

end Monitor

variable {State World : Type}

/-- The samples that a thread was returned, in the order in which it took them. -/
def Thread.returned (thread : Thread World) : List Sample :=
  thread.answers.filterMap Monitor.returned?

namespace Crowd

variable {source : Source State World} {start : Monitor State}
  {programs : List (List Operation)} {calls : List (Call World)}
  {noted : List (Nat × Sample)} {crowd : Crowd State World}

/-- A call is part of the program of its thread. -/
theorem SerialInvariant.exists_program (h : crowd.SerialInvariant source start programs calls noted)
    {call : Call World} (hcall : call ∈ calls) :
    ∃ program ∈ programs, call.operation ∈ program := by
  have hthread := h.callers call hcall
  have hthread' : call.thread < crowd.threads.length := by rwa [h.length]
  obtain ⟨left, hprogram, -⟩ := (h.threads call.thread _ _
    (List.getElem?_eq_getElem hthread) (List.getElem?_eq_getElem hthread')).program
  refine ⟨programs[call.thread], List.getElem_mem hthread, ?_⟩
  rw [hprogram, List.mem_append]
  left
  exact List.mem_map_of_mem (List.mem_filter.mpr ⟨hcall, by simp⟩)

/-- With a steady source a thread that is done has carried out its program. -/
theorem SerialInvariant.program_eq (h : crowd.SerialInvariant source start programs calls noted)
    (hsteady : source.Steady) (hdone : crowd.Done) {index : Nat} {program : List Operation}
    (hprogram : programs[index]? = some program) :
    program = Call.operationsOf index calls := by
  have hindex : index < crowd.threads.length := by
    rw [h.length]
    exact (List.getElem?_eq_some_iff.mp hprogram).1
  have hthread := h.threads index program _ hprogram (List.getElem?_eq_getElem hindex)
  obtain ⟨left, hleft, hpending⟩ := hthread.program
  rcases hpending with hpending | ⟨-, cause, hcause⟩
  · rw [hdone _ (List.getElem_mem hindex)] at hpending
    rw [hleft, ← hpending, List.append_nil]
  · rw [hthread.answers] at hcause
    obtain ⟨given, hgiven⟩ := Monitor.ok_of_mem_answersTo hsteady hcause
    cases hgiven

/-- When all threads are done no call is under way. -/
theorem SerialInvariant.of_done (h : crowd.SerialInvariant source start programs calls noted)
    (hdone : crowd.Done) :
    crowd.shared.monitor = start.after source (calls.map Call.step) ∧
      noted = start.takenBy source calls := by
  obtain ⟨under, hlockState, hnoted⟩ := h.lockState
  cases hlockState with
  | free hholder hmonitor => exact ⟨hmonitor, by rw [hnoted, List.append_nil]⟩
  | held hholder hthread hpending hstage hreached =>
    rw [hdone _ (List.mem_of_getElem? hthread)] at hpending
    cases hpending

/-- When all threads are done the calls are, up to order, the programs. -/
theorem SerialInvariant.perm_programs (h : crowd.SerialInvariant source start programs calls noted)
    (hsteady : source.Steady) (hdone : crowd.Done) :
    (calls.map Call.operation).Perm programs.flatten :=
  perm_flatten_of_parts Call.thread Call.operation h.callers fun _ _ hprogram =>
    h.program_eq hsteady hdone hprogram

/-- What a thread was returned is its part of what the calls returned. -/
theorem SerialInvariant.returned_eq (h : crowd.SerialInvariant source start programs calls noted)
    {index : Nat} {thread : Thread World} (hthread : crowd.threads[index]? = some thread) :
    thread.returned =
      ((start.returnedBy source calls).filter fun entry => entry.1 = index).map Prod.snd := by
  have hindex : index < programs.length := by
    rw [← h.length]
    exact (List.getElem?_eq_some_iff.mp hthread).1
  rw [Thread.returned,
    (h.threads index _ thread (List.getElem?_eq_getElem hindex) hthread).answers,
    Monitor.filterMap_answersTo]

/-- What the calls returned is, up to order, what the threads were returned. -/
theorem SerialInvariant.perm_returned
    (h : crowd.SerialInvariant source start programs calls noted) :
    ((start.returnedBy source calls).map Prod.snd).Perm
      (crowd.threads.flatMap Thread.returned) := by
  refine perm_flatten_of_parts Prod.fst Prod.snd (fun entry hmem => ?_)
    fun index part hpart => ?_
  · obtain ⟨call, hcall, hthread⟩ := Monitor.exists_call_of_mem_returnedBy hmem
    rw [List.length_map, h.length, ← hthread]
    exact h.callers call hcall
  · rw [List.getElem?_map, Option.map_eq_some_iff] at hpart
    obtain ⟨thread, hthread, rfl⟩ := hpart
    exact h.returned_eq hthread

/-! ## When all are done -/

/-- What has become of the samples when all threads are done: those that were put into the
history are one that answered a question on an empty history, if there was one, and those
that were returned. -/
structure SampleAccount (start : Monitor State) (programs : List (List Operation))
    (added asked returned : List (Nat × Sample)) (crowd : Crowd State World) : Prop where
  added_eq : added = asked ++ returned
  length_asked : asked.length ≤ 1
  asked_eq_nil : start.history.entries ≠ [] ∨
    (∀ program ∈ programs, ∀ operation ∈ program, operation.asks = false) → asked = []
  /-- Each sampling of a program was returned a sample. -/
  length_returned : returned.length = (programs.map (List.count Operation.sample)).sum
  /-- What a thread was returned is in the order in which the thread took it. -/
  returned_eq : ∀ (index : Nat) (thread : Thread World), crowd.threads[index]? = some thread →
    thread.returned = (returned.filter fun entry => entry.1 = index).map Prod.snd
  perm_returned : (returned.map Prod.snd).Perm (crowd.threads.flatMap Thread.returned)
  /-- The history has the newest of what it had and what was added. -/
  entries_eq : crowd.shared.monitor.history.entries =
    History.newest start.history.capacity (start.history.entries ++ added.map Prod.snd)
  length_eq : crowd.shared.monitor.history.length =
    min start.history.capacity (start.history.length + asked.length +
      (programs.map (List.count Operation.sample)).sum)
  /-- No sample is kept more often than it was there, asked for and returned. -/
  count_le : ∀ sample, crowd.shared.monitor.history.entries.count sample ≤
    start.history.entries.count sample + (asked.map Prod.snd).count sample +
      (crowd.threads.flatMap Thread.returned).count sample
  ordered : crowd.shared.monitor.history.entries.Pairwise
    fun earlier later => earlier.timestamp ≤ later.timestamp
  /-- Time does not go back either from one sample to the next that was added. -/
  ordered_added : (added.map Prod.snd).Pairwise
    fun earlier later => earlier.timestamp ≤ later.timestamp

/-- Threads that leave the history to the samples settle. -/
theorem SerialInvariant.exists_sampleAccount
    (h : crowd.SerialInvariant source start programs calls noted)
    (hsteady : source.Steady) (hsound : start.Sound) (hdone : crowd.Done)
    (hkeeps : ∀ program ∈ programs, ∀ operation ∈ program, operation.keepsHistory = true) :
    ∃ asked returned, crowd.SampleAccount start programs noted asked returned := by
  have hcalls : ∀ call ∈ calls, call.operation.keepsHistory = true := by
    intro call hcall
    obtain ⟨program, hprogram, hoperation⟩ := h.exists_program hcall
    exact hkeeps program hprogram call.operation hoperation
  obtain ⟨asked, htaken, hlength, hnil⟩ := Monitor.exists_asked source hcalls hsound
  obtain ⟨hmonitor, hnoted⟩ := h.of_done hdone
  have hentries : crowd.shared.monitor.history.entries =
      History.newest start.history.capacity
        (start.history.entries ++ noted.map Prod.snd) := by
    rw [hmonitor, hnoted]
    exact Monitor.entries_after_calls hcalls hsound
  have hreturned : (start.returnedBy source calls).length =
      (programs.map (List.count Operation.sample)).sum := by
    rw [Monitor.length_returnedBy hsteady,
      (h.perm_programs hsteady hdone).count_eq, List.count_flatten]
  have hadded : noted = asked ++ start.returnedBy source calls := hnoted.trans htaken
  refine ⟨asked, start.returnedBy source calls,
    { added_eq := hadded
      length_asked := hlength
      asked_eq_nil := fun hcase => hnil (hcase.imp_right fun hasks call hcall => ?_)
      length_returned := hreturned
      returned_eq := fun index thread hthread => h.returned_eq hthread
      perm_returned := h.perm_returned
      entries_eq := hentries
      length_eq := ?_
      count_le := fun sample => ?_
      ordered := ?_
      ordered_added := ?_ }⟩
  · obtain ⟨program, hprogram, hoperation⟩ := h.exists_program hcall
    exact hasks program hprogram call.operation hoperation
  · rw [History.length, hentries, History.length_newest, hadded, ← hreturned]
    simp only [List.length_append, List.length_map, History.length]
    omega
  · have hkept := (History.newest_suffix start.history.capacity
      (start.history.entries ++ noted.map Prod.snd)).sublist.count_le sample
    rw [← hentries, hadded, List.map_append, List.count_append, List.count_append,
      h.perm_returned.count_eq] at hkept
    omega
  · rw [hmonitor]
    exact (hsound.after source _).ordered
  · rw [hnoted, Monitor.map_snd_takenBy]
    exact Monitor.pairwise_taken hsound.lastTimestamp_ne_nan source _

/-- Threads that only ask are all answered by one sample. -/
theorem SerialInvariant.exists_sample (h : crowd.SerialInvariant source start programs calls noted)
    (hsteady : source.Steady) (hsound : start.Sound) (hdone : crowd.Done)
    (hempty : start.history.entries = [])
    (hasks : ∀ program ∈ programs, ∀ operation ∈ program, operation.asks = true)
    (hsome : ∃ program ∈ programs, program ≠ []) :
    ∃ index sample moment,
      noted = [(index, sample)] ∧
        crowd.shared.monitor = (start.sample source moment).state ∧
        crowd.shared.monitor.history.entries = [sample] ∧
        ∀ (index : Nat) (program : List Operation) (thread : Thread World),
          programs[index]? = some program → crowd.threads[index]? = some thread →
            thread.answers = program.map fun operation =>
              .ok (operation.reply sample start.thresholds) := by
  have hcalls : ∀ call ∈ calls, call.operation.asks = true := by
    intro call hcall
    obtain ⟨program, hprogram, hoperation⟩ := h.exists_program hcall
    exact hasks program hprogram call.operation hoperation
  have hne : calls ≠ [] := by
    obtain ⟨program, hmem, hprogram⟩ := hsome
    obtain ⟨index, hindex⟩ := List.mem_iff_getElem?.mp hmem
    rintro rfl
    exact hprogram (h.program_eq hsteady hdone hindex)
  obtain ⟨hmonitor, hnoted⟩ := h.of_done hdone
  obtain ⟨index, sample, moment, htaken, hafter, hentries, hanswers⟩ :=
    Monitor.answered_by_one_sample hsteady hsound hempty hcalls hne
  refine ⟨index, sample, moment, hnoted.trans htaken, hmonitor.trans hafter, ?_, ?_⟩
  · rw [hmonitor, hafter, hentries]
  · intro index program thread hprogram hthread
    rw [(h.threads index program thread hprogram hthread).answers, hanswers,
      h.program_eq hsteady hdone hprogram]

/-! ## Any interleaving -/

/-- Take any monitor that a run has left, poisoned or not, any threads with any programs and
any order of their moves, over a source that never panics.  The threads can always go on until
all are done.  When they are, and none of them cleared the history or changed its capacity, the
samples that they took have settled in it: each is there once, those of a thread in the order
in which it took them, unless later ones were too many for the capacity.  And if the threads did
nothing but ask about the newest sample while there was none, then one sample was taken, and
every answer is about that sample. -/
theorem samples_of_any_interleaving (source : Source State World) (hsteady : source.Steady)
    (thresholds : Thresholds) (capacity : Nat) (enabled : Bool) (initial : State)
    (earlier : List (Operation × Moment World)) (poisoned : Bool)
    (programs : List (List Operation)) (schedule : List (Nat × Moment World)) :
    let monitor := (Monitor.start thresholds capacity enabled initial).after source earlier
    let threads : Crowd State World := gather ⟨monitor, poisoned⟩ programs
    let crowd := threads.follow source schedule
    let added := threads.added source schedule
    crowd.threads.length = programs.length ∧
      (∀ moment, ∃ turns : List Nat, (crowd.follow source (turns.map (·, moment))).Done) ∧
      (crowd.Done →
        (∀ program ∈ programs, ∀ operation ∈ program, operation.keepsHistory = true) →
          ∃ asked returned, crowd.SampleAccount monitor programs added asked returned) ∧
      (crowd.Done → monitor.history.entries = [] →
        (∀ program ∈ programs, ∀ operation ∈ program, operation.asks = true) →
        (∃ program ∈ programs, program ≠ []) →
          ∃ index sample moment,
            added = [(index, sample)] ∧
              crowd.shared.monitor = (monitor.sample source moment).state ∧
              crowd.shared.monitor.history.entries = [sample] ∧
              ∀ (index : Nat) (program : List Operation) (thread : Thread World),
                programs[index]? = some program → crowd.threads[index]? = some thread →
                  thread.answers = program.map fun operation =>
                    .ok (operation.reply sample monitor.thresholds)) := by
  intro monitor threads crowd added
  have hsound : monitor.Sound :=
    (Monitor.sound_start thresholds capacity enabled initial).after source earlier
  obtain ⟨calls, hserial⟩ := serial_follow source ⟨monitor, poisoned⟩ programs schedule
  refine ⟨hserial.length, hserial.exists_done, fun hdone hkeeps => ?_,
    fun hdone hempty hasks hsome => ?_⟩
  · exact hserial.exists_sampleAccount hsteady hsound hdone hkeeps
  · exact hserial.exists_sample hsteady hsound hdone hempty hasks hsome

/-- Two threads that take turns: they settle when they sample, and one sample is enough when
they ask. -/
theorem samples_of_two_threads :
    let moment : Moment Readings := ⟨5, ⟨12, ⟨34, 56⟩, 78⟩⟩
    let monitor := Monitor.start Thresholds.standard 2 true ()
    let schedule := (Schedule.inTurn 2 2).map (·, moment)
    let sampling : List (List Operation) := [[.sample, .sample], [.sample, .summary]]
    let samplers : Crowd Unit Readings := gather ⟨monitor, false⟩ sampling
    let askers : Crowd Unit Readings := gather ⟨monitor, true⟩ [[.health], [.available, .health]]
    Source.mirror.Steady ∧
      (∃ asked returned, (samplers.follow Source.mirror schedule).SampleAccount monitor sampling
        (samplers.added Source.mirror schedule) asked returned) ∧
      ∃ index sample, askers.added Source.mirror schedule = [(index, sample)] := by
  intro moment monitor schedule sampling samplers askers
  have hsteady := Source.steady_mirror
  refine ⟨hsteady, ?_, ?_⟩
  · obtain ⟨-, -, haccount, -⟩ := samples_of_any_interleaving Source.mirror hsteady
      Thresholds.standard 2 true () [] false sampling schedule
    exact haccount (by decide +kernel) (by decide)
  · obtain ⟨-, -, -, hanswered⟩ := samples_of_any_interleaving Source.mirror hsteady
      Thresholds.standard 2 true () [] true [[.health], [.available, .health]] schedule
    obtain ⟨index, sample, -, hadded, -⟩ :=
      hanswered (by decide +kernel) rfl (by decide) (by decide)
    exact ⟨index, sample, hadded⟩

end Crowd

end ResourceHealth
