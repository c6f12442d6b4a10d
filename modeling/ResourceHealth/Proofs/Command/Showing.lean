import Mathlib
import ResourceHealth.Proofs.Command.Phases

/-!
# What the commands show

Each figure and each level that a command shows belongs to a sample that it has taken.  What
is shown is told here text by text, and not by the reports that make it.

Main definitions:

- `Sample.ReachesCritical`: a share of the sample is at its critical cut-off or above.

Main results:

- Theorem `Command.run_watch`, `Command.run_summary`, `Command.run_status`: what each command
  comes to after a row of samples.
- Theorem `Command.run_traced`: watching the source makes no difference to a command.
- Theorem `Command.reports_what_was_sampled`: what each command shows, how it ends, and which
  readings it makes.
-/

namespace ResourceHealth

/-- A share of the sample is at its critical cut-off or above. -/
def Sample.ReachesCritical (sample : Sample) (thresholds : Thresholds) : Prop :=
  thresholds.cpu.critical ≤ sample.cpu ∨ thresholds.memory.critical ≤ sample.memory ∨
    thresholds.disk.critical ≤ sample.disk

instance (sample : Sample) (thresholds : Thresholds) :
    Decidable (sample.ReachesCritical thresholds) :=
  inferInstanceAs (Decidable (_ ∨ _ ∨ _))

/-- Work is not taken on exactly if a share is critical. -/
theorem Health.isAvailable_classify_eq_false_iff {sample : Sample} {thresholds : Thresholds} :
    (classify sample thresholds).isAvailable = false ↔ sample.ReachesCritical thresholds := by
  rw [← Bool.not_eq_true, isAvailable_iff]
  simp only [classify, ne_eq, Level.classify_eq_critical_iff, Sample.ReachesCritical,
    Decidable.not_and_iff_or_not, Decidable.not_not]

/-! ## Texts -/

namespace Report

theorem ofLines_append (first second : List String) :
    ofLines (first ++ second) = ofLines first ++ ofLines second := by
  rw [ofLines, List.map_append, String.join_append]
  rfl

/-- Lines shown one at a time. -/
theorem join_map_ofLines (lines : List String) :
    String.join (lines.map fun line => ofLines [line]) = ofLines lines := by
  induction lines with
  | nil => rfl
  | cons line rest ih =>
    rw [List.map_cons, String.join_cons, ih, ← ofLines_append, List.singleton_append]

end Report

/-- An object with members is not shown as an empty one. -/
theorem Json.pretty_object_ne {members : List (String × Json)} (h : members ≠ [])
    (depth : Nat) : (object members).pretty depth ≠ ['\x7b', '\x7d'] := by
  intro hempty
  rcases members with _ | ⟨⟨key, value⟩, _ | ⟨next, rest⟩⟩
  · exact h rfl
  all_goals
    simp [pretty, prettyMembers, newLine] at hempty

namespace Report

/-- The lines of a summary, with the names of the resources filled up. -/
theorem summary_some (found : Summary) :
    summary (some found) =
      ["Latest:        " ++ found.latest.summary,
        "History size:  " ++ toString found.historySize,
        "  cpu      " ++ found.health.cpu.name,
        "  disk     " ++ found.health.disk.name,
        "  memory   " ++ found.health.memory.name,
        "Available:     " ++ if found.health.isAvailable then "yes" else "no"] := by
  have hcpu : "  " ++ padEnd 8 "cpu" ++ " " = "  cpu      " := by decide
  have hdisk : "  " ++ padEnd 8 "disk" ++ " " = "  disk     " := by decide
  have hmemory : "  " ++ padEnd 8 "memory" ++ " " = "  memory   " := by decide
  simp only [summary, Health.byName, List.map_cons, List.map_nil, hcpu, hdisk, hmemory]
  rfl

/-- The JSON for no summary is the empty object. -/
theorem text_summaryJson_none : (summaryJson none).text true = "\x7b\x7d" := by
  rw [summaryJson, Json.text, if_pos rfl, Json.sorted, Json.sortedMembers, Json.inOrder,
    List.mergeSort_nil, Json.pretty]

/-- The JSON of a summary is not the empty object. -/
theorem text_summaryJson_ne (summary : Summary) :
    (summaryJson (some summary)).text true ≠ "\x7b\x7d" := by
  obtain ⟨members, hsorted, hne⟩ :
      ∃ members, summary.toJson.sorted = .object members ∧ members ≠ [] := by
    refine ⟨_, by rw [Summary.toJson, Json.sorted], ?_⟩
    simp [Json.inOrder, Json.sortedMembers, ← List.length_eq_zero_iff]
  intro htext
  have hpretty : summary.toJson.sorted.pretty 0 = ['\x7b', '\x7d'] :=
    String.ofList_injective htext
  rw [hsorted] at hpretty
  exact Json.pretty_object_ne hne 0 hpretty

/-- The text of a summary does not start like the line for no summary. -/
theorem ofLines_summary_ne (found : Summary) :
    ofLines (summary (some found)) ≠ ofLines (summary none) := by
  intro htext
  have hhead := congrArg (fun text => text.toList.head?) htext
  simp [ofLines, summary, String.toList_append] at hhead

end Report

namespace Command

variable {State World : Type} {source : Source State World} {settings : Settings} {state : State}

/-! ## From beginning to end -/

section

variable {moments : Nat → Moment World} {samples : List Sample}

/-- A command none of whose passes is a failure is a row of samples with a last phase. -/
theorem execute_of_series (hsteady : source.Steady) {command : Command}
    (hdone : ∀ number sample health,
      (command.atOnce settings settings.thresholds number sample health).ending = .done)
    (hseries : (settings.monitor state).Series source
      ((List.range command.passes).map moments) samples) :
    let taken := (settings.monitor state).samples source ((List.range command.passes).map moments)
    command.execute source settings state moments =
      { showing :=
          { text := String.join (samples.mapIdx fun index sample =>
                (command.atOnce settings settings.thresholds (1 + index) sample
                  (Health.classify sample settings.thresholds)).text) ++
              (command.finish taken.state).showing.text }
        monitor := taken.state
        events := taken.events } := by
  intro taken
  have hsound : (settings.monitor state).Sound := Monitor.sound_start _ _ _ _
  have hquiet : ∀ number sample health, (command.atOnce settings
      (settings.monitor state).thresholds number sample health).ending = .done := hdone
  have hpassed := passAll_of_series hsteady hquiet 1 hsound hseries
  rw [execute, hpassed, Phase.andThen_of_done rfl]
  simp only [finish, List.append_nil]
  rfl

/-- A status is one pass. -/
theorem execute_status (hsteady : source.Steady) (strict : Bool) {sample : Sample}
    (hseries : (settings.monitor state).Series source ((List.range 1).map moments) [sample]) :
    let taken := (settings.monitor state).samples source ((List.range 1).map moments)
    (status strict).execute source settings state moments =
      { showing := (status strict).atOnce settings settings.thresholds 1 sample
          (Health.classify sample settings.thresholds)
        monitor := taken.state
        events := taken.events } := by
  intro taken
  have hsound : (settings.monitor state).Sound := Monitor.sound_start _ _ _ _
  have htimes : (List.range 1).map moments = [moments 0] := rfl
  obtain ⟨found, hanswer⟩ :=
    Monitor.exists_answer_sample hsteady (moments 0) (settings.monitor state)
  have hsamples := Monitor.samples_cons_of_ok hanswer []
  obtain rfl : found = sample := by
    have hone := hseries.answer
    rw [htimes, hsamples] at hone
    cases hone
    rfl
  have hpass := pass_of_sample hsound hanswer settings (status strict) 1
  rw [execute, passes, htimes, passAll, Phase.andThen_eq_self rfl, Phase.andThen_eq_self rfl]
  rw [hpass]
  simp only [taken, htimes, hsamples, Monitor.samples, List.append_nil]
  rfl

/-- The samples of a command are all that it asks of the source. -/
theorem monitor_execute (hsteady : source.Steady) (command : Command)
    (hseries : (settings.monitor state).Series source
      ((List.range command.passes).map moments) samples) :
    (command.execute source settings state moments).monitor =
      ((settings.monitor state).samples source
        ((List.range command.passes).map moments)).state := by
  cases command with
  | status strict =>
    obtain ⟨sample, rfl⟩ := List.length_eq_one_iff.mp hseries.length
    rw [execute_status hsteady strict hseries]
    rfl
  | watch count interval => rw [execute_of_series hsteady (fun _ _ _ => rfl) hseries]
  | summary count json => rw [execute_of_series hsteady (fun _ _ _ => rfl) hseries]

/-- Watching shows a line for each sample, and one for what is kept if there is a sample. -/
theorem run_watch (hsteady : source.Steady) {count : Nat} (interval : Nat)
    (hseries : (settings.monitor state).Series source ((List.range count).map moments)
      samples) :
    (watch count interval).run source settings state moments =
      { text := Report.ofLines
          ((samples.mapIdx fun index sample =>
              Report.watchLine (index + 1) sample (Health.classify sample settings.thresholds)) ++
            ((summaryOf settings samples).map Report.watchEnd).toList) } := by
  have hlines : (samples.mapIdx fun index sample =>
        ((watch count interval).atOnce settings settings.thresholds (1 + index) sample
          (Health.classify sample settings.thresholds)).text) =
      (samples.mapIdx fun index sample => Report.watchLine (index + 1) sample
        (Health.classify sample settings.thresholds)).map fun line => Report.ofLines [line] := by
    refine List.ext_getElem (by simp) fun index hindex hother => ?_
    simp [atOnce, Nat.add_comm 1]
  rw [run, execute_of_series hsteady (fun _ _ _ => rfl) hseries, hlines,
    Report.join_map_ofLines, Report.ofLines_append]
  simp only [finish, passes, summary?_of_series hseries]
  cases summaryOf settings samples <;> rfl

/-- A summary shows nothing before the last pass. -/
theorem join_atOnce_summary (count : Nat) (json : Bool) (samples : List Sample) :
    String.join (samples.mapIdx fun index sample =>
      ((summary count json).atOnce settings settings.thresholds (1 + index) sample
        (Health.classify sample settings.thresholds)).text) = "" := by
  simp only [atOnce]
  induction samples with
  | nil => rfl
  | cons sample rest ih =>
    rw [List.mapIdx_cons, String.join_cons, ih]
    rfl

/-- The summary is shown as text or as JSON. -/
theorem run_summary (hsteady : source.Steady) {count : Nat} (json : Bool)
    (hseries : (settings.monitor state).Series source ((List.range count).map moments)
      samples) :
    (summary count json).run source settings state moments =
      { text := Report.ofLines
          (if json then [(Report.summaryJson (summaryOf settings samples)).text true]
          else Report.summary (summaryOf settings samples)) } := by
  rw [run, execute_of_series hsteady (fun _ _ _ => rfl) hseries, join_atOnce_summary,
    String.empty_append]
  simp only [finish, passes, summary?_of_series hseries]
  cases json <;> cases summaryOf settings samples <;> rfl

/-- The status shows one sample; if it is strict, a critical share is a failure. -/
theorem run_status (hsteady : source.Steady) (strict : Bool) {sample : Sample}
    (hseries : (settings.monitor state).Series source ((List.range 1).map moments) [sample]) :
    (status strict).run source settings state moments =
      let health := Health.classify sample settings.thresholds
      { text := Report.ofLines
          (Report.status settings.diskPath settings.thresholds sample health)
        ending :=
          if strict ∧ sample.ReachesCritical settings.thresholds then
            .failed ("resources not available: " ++ health.worst.name)
          else .done } := by
  rw [run, execute_status hsteady strict hseries]
  simp only [atOnce, Health.isAvailable_classify_eq_false_iff]

end

/-- Watching the source makes no difference to a command. -/
theorem run_traced (hsteady : source.Steady) (settings : Settings) (state : State)
    (moments : Nat → Moment World) (command : Command) :
    command.run source.traced settings (state, []) moments =
      command.run source settings state moments := by
  let times := (List.range command.passes).map moments
  let watched := settings.monitor (state, ([] : List Resource))
  have hsound : watched.Sound := Monitor.sound_start _ _ _ _
  obtain ⟨samples, hwatched⟩ := Monitor.exists_series hsteady.traced times hsound
  have hsame : (settings.monitor state).samples source times =
      (watched.samples source.traced times).mapState Monitor.untraced :=
    Monitor.samples_untraced source times watched
  have hplain : (settings.monitor state).Series source times samples :=
    { answer := by rw [hsame]; exact hwatched.answer
      length := hwatched.length
      thresholds := by rw [hsame]; exact hwatched.thresholds
      entries := by rw [hsame]; exact hwatched.entries }
  -- what a command shows depends on its samples only, and these are the same
  cases command with
  | status strict =>
    obtain ⟨sample, rfl⟩ := List.length_eq_one_iff.mp hplain.length
    rw [run_status hsteady.traced strict hwatched, run_status hsteady strict hplain]
  | watch count interval =>
    calc (watch count interval).run source.traced settings (state, []) moments
      _ = _ := run_watch hsteady.traced interval hwatched
      _ = (watch count interval).run source settings state moments :=
        (run_watch hsteady interval hplain).symm
  | summary count json =>
    calc (summary count json).run source.traced settings (state, []) moments
      _ = _ := run_summary hsteady.traced json hwatched
      _ = (summary count json).run source settings state moments :=
        (run_summary hsteady json hplain).symm

/-- There is a summary of some samples exactly if there are any. -/
theorem summaryOf_eq_none_iff {samples : List Sample} :
    summaryOf settings samples = none ↔ samples = [] := by
  rw [summaryOf, Option.map_eq_none_iff, List.getLast?_eq_none_iff]

/-- No samples, and only these, are shown as such. -/
theorem text_of_summary_eq_iff (found : Option Summary) :
    (Report.ofLines [(Report.summaryJson found).text true] = "\x7b\x7d\n" ↔ found = none) ∧
      (Report.ofLines (Report.summary found) = "No samples taken.\n" ↔ found = none) := by
  cases found with
  | none =>
    rw [Report.text_summaryJson_none]
    exact ⟨iff_of_true rfl rfl, iff_of_true rfl rfl⟩
  | some found =>
    refine ⟨iff_of_false (fun htext => ?_) nofun,
      iff_of_false (Report.ofLines_summary_ne found) nofun⟩
    have hline : (Report.summaryJson (some found)).text true ++ "\n" = "\x7b\x7d" ++ "\n" := by
      simpa [Report.ofLines] using htext
    exact Report.text_summaryJson_ne found ((String.append_left_inj _).mp hline)

/-! ## What is shown -/

/-- Over a source that never panics, for all settings and moments.  However many samples a
command is asked for, it takes that many.  Watching shows a line for each with its number, its
figures and its levels, and then, if there is one, a line with how many are kept and the worst
level of the last.  The summary shows the figures, the levels and the availability of the last
sample and how many are kept; as JSON and as text it tells that there is none exactly if none is
asked for.  The status shows the figures and the levels of its one sample, and fails exactly if
it is strict and a share of the sample is critical.  The readings of the whole command are those
of one pass over the source for each sample, or none while monitoring is disabled, whether or not
the source is watched. -/
theorem reports_what_was_sampled (source : Source State World) (hsteady : source.Steady)
    (settings : Settings) (state : State) (moments : Nat → Moment World) :
    let times (count : Nat) := (List.range count).map moments
    let kept (count : Nat) := min count (max 1 settings.maxHistory)
    let health (sample : Sample) := Health.classify sample settings.thresholds
    let figures (sample : Sample) : String :=
      "CPU " ++ sample.cpu.fixed 1 ++ "%, Mem " ++ sample.memory.fixed 1 ++ "% (" ++
        sample.availableMb.fixed 0 ++ " MB avail), Disk " ++ sample.disk.fixed 1 ++ "%"
    let padded (width : Nat) (text : String) : String :=
      "".pushn ' ' (width - text.length) ++ text
    let ofLines (lines : List String) : String := String.join (lines.map (· ++ "\n"))
    (Level.healthy.name = "healthy" ∧ Level.warning.name = "warning" ∧
      Level.critical.name = "critical") ∧
    ∃ samples : Nat → List Sample,
      (∀ count,
        ((settings.monitor state).samples source (times count)).answer = .ok (samples count) ∧
          (samples count).length = count) ∧
      (∀ count interval, (watch count interval).run source settings state moments =
        { text := ofLines
            (((samples count).mapIdx fun index sample =>
                "[" ++ padded 4 (toString (index + 1)) ++ "] " ++ figures sample ++
                  "  cpu=" ++ (health sample).cpu.name ++
                  " mem=" ++ (health sample).memory.name ++
                  " disk=" ++ (health sample).disk.name) ++
              ((samples count).getLast?.map fun last =>
                toString (kept count) ++ " samples retained, worst level " ++
                  (health last).worst.name).toList) }) ∧
      (∀ count,
        (summary count true).run source settings state moments =
            { text := ofLines [(Json.object ((samples count).getLast?.elim [] fun last =>
                [("latest", .object [("cpu_percent", .ofBinary64 last.cpu),
                    ("memory_percent", .ofBinary64 last.memory),
                    ("memory_available_mb", .ofBinary64 last.availableMb),
                    ("disk_percent", .ofBinary64 last.disk),
                    ("timestamp", .ofBinary64 last.timestamp)]),
                  ("history_size", .counter (kept count)),
                  ("health_status", .object [("cpu", .string (health last).cpu.name.toList),
                    ("memory", .string (health last).memory.name.toList),
                    ("disk", .string (health last).disk.name.toList)])])).text true] } ∧
          (summary count false).run source settings state moments =
            { text := ofLines ((samples count).getLast?.elim ["No samples taken."] fun last =>
                ["Latest:        " ++ figures last,
                  "History size:  " ++ toString (kept count),
                  "  cpu      " ++ (health last).cpu.name,
                  "  disk     " ++ (health last).disk.name,
                  "  memory   " ++ (health last).memory.name,
                  "Available:     " ++ if (health last).isAvailable then "yes" else "no"]) } ∧
          (((summary count true).run source settings state moments).text = "\x7b\x7d\n" ↔
            count = 0) ∧
          (((summary count false).run source settings state moments).text =
            "No samples taken.\n" ↔ count = 0)) ∧
      (∀ strict, ∃ sample, samples 1 = [sample] ∧
        let usage (share : Binary64) (level : Level) : String :=
          "   Usage:        " ++ padded 5 (share.fixed 1) ++ "%  " ++
            String.ofList (Bar.draw share level) ++ "  " ++ level.name
        let cutoffs (pair : Cutoffs) : String :=
          "   Thresholds:   " ++ pair.warning.fixed 0 ++ "% / " ++ pair.critical.fixed 0 ++ "%"
        (status strict).run source settings state moments =
          { text := ofLines (Report.heading ++ [
              "  CPU",
              usage sample.cpu (health sample).cpu,
              cutoffs settings.thresholds.cpu,
              "",
              "  Memory",
              usage sample.memory (health sample).memory,
              "   Available:    " ++ sample.availableMb.fixed 0 ++ " MB",
              cutoffs settings.thresholds.memory,
              "",
              "  Disk (" ++ settings.diskPath.shown ++ ")",
              usage sample.disk (health sample).disk,
              cutoffs settings.thresholds.disk,
              "",
              "  Assessment",
              "   Worst level:  " ++ (health sample).worst.name,
              if sample.ReachesCritical settings.thresholds then
                "   Status:       RESOURCE CRITICAL, shed load"
              else "   Status:       accepting work",
              "",
              figures sample])
            ending :=
              if strict ∧ sample.ReachesCritical settings.thresholds then
                .failed ("resources not available: " ++ (health sample).worst.name)
              else .done }) ∧
      ∀ command : Command,
        command.run source.traced settings (state, []) moments =
            command.run source settings state moments ∧
          ∃ passes : List (List Resource),
            (command.execute source.traced settings (state, []) moments).monitor.sampler.source.2 =
                passes.flatten ∧
              (∀ readings ∈ passes, Source.IsPass readings) ∧
              passes.length = if settings.enabled then command.passes else 0 := by
  intro times kept health figures padded ofLines
  have hsound : (settings.monitor state).Sound := Monitor.sound_start _ _ _ _
  have hwatched : (settings.monitor (state, ([] : List Resource))).Sound :=
    Monitor.sound_start _ _ _ _
  choose samples hseries using fun count =>
    Monitor.exists_series hsteady (times count) hsound
  have hlength (count : Nat) : (samples count).length = count := by
    rw [(hseries count).length, List.length_map, List.length_range]
  have hnone (count : Nat) : summaryOf settings (samples count) = none ↔ count = 0 := by
    rw [summaryOf_eq_none_iff, ← List.length_eq_zero_iff, hlength]
  refine ⟨⟨rfl, rfl, rfl⟩, samples, fun count => ⟨(hseries count).answer, hlength count⟩,
    fun count interval => ?_, fun count => ?_, fun strict => ?_, fun command => ?_⟩
  · rw [run_watch hsteady interval (hseries count), summaryOf, hlength]
    cases (samples count).getLast? <;> rfl
  · have hiff := text_of_summary_eq_iff (summaryOf settings (samples count))
    rw [hnone] at hiff
    rw [run_summary hsteady true (hseries count), run_summary hsteady false (hseries count)]
    refine ⟨?_, ?_, hiff.1, hiff.2⟩
    · rw [summaryOf, hlength]
      cases (samples count).getLast? <;> rfl
    · rw [summaryOf, hlength]
      cases (samples count).getLast? with
      | none => rfl
      | some last =>
        simp only [Option.map_some, Report.summary_some]
        rfl
  · obtain ⟨sample, hsample⟩ := List.length_eq_one_iff.mp (hlength 1)
    refine ⟨sample, hsample, ?_⟩
    have hstatus : (if (health sample).isAvailable then "   Status:       accepting work"
        else "   Status:       RESOURCE CRITICAL, shed load") =
        if sample.ReachesCritical settings.thresholds then
          "   Status:       RESOURCE CRITICAL, shed load"
        else "   Status:       accepting work" := by
      simp only [← Health.isAvailable_classify_eq_false_iff]
      cases (Health.classify sample settings.thresholds).isAvailable <;> rfl
    rw [run_status hsteady strict (hsample ▸ hseries 1)]
    simp only [Report.status, Report.assessment]
    rw [hstatus]
    rfl
  · obtain ⟨others, hothers⟩ :=
      Monitor.exists_series hsteady.traced (times command.passes) hwatched
    obtain ⟨passes, hlog, hpasses, hcount⟩ := Monitor.log_samples hsteady (times command.passes)
      (settings.monitor (state, ([] : List Resource)))
    refine ⟨run_traced hsteady settings state moments command, passes, ?_, hpasses, ?_⟩
    · rw [monitor_execute hsteady.traced command hothers, hlog]
      rfl
    · rw [hcount, List.length_map, List.length_range]
      rfl

/-- With a processor that is nearly used up a strict status fails, a watch of two samples shows
both and tells that one is kept, as the history may keep no more, and a summary of two samples is
not empty. -/
theorem reports_of_busy_processor :
    let settings : Settings := { maxHistory := 0 }
    let moments (_ : Nat) : Moment Readings := ⟨7, ⟨95, ⟨20, 5⟩, 30⟩⟩
    Source.mirror.Steady ∧
      ((status true).run Source.mirror settings () moments).ending =
        .failed "resources not available: critical" ∧
      ((watch 2 0).run Source.mirror settings () moments).text =
        "[   1] CPU 95.0%, Mem 20.0% (5 MB avail), Disk 30.0%" ++
          "  cpu=critical mem=healthy disk=healthy\n" ++
        "[   2] CPU 95.0%, Mem 20.0% (5 MB avail), Disk 30.0%" ++
          "  cpu=critical mem=healthy disk=healthy\n" ++
        "1 samples retained, worst level critical\n" ∧
      ((summary 2 false).run Source.mirror settings () moments).text ≠ "No samples taken.\n" := by
  intro settings moments
  obtain ⟨-, samples, hsamples, hwatch, hsummary, hstatus, -⟩ :=
    reports_what_was_sampled Source.mirror Source.steady_mirror settings () moments
  have hanswer (count : Nat) : ((settings.monitor ()).samples Source.mirror
      ((List.range count).map moments)).answer = .ok (samples count) := (hsamples count).1
  refine ⟨Source.steady_mirror, ?_, ?_, ?_⟩
  · obtain ⟨sample, hsample, hrun⟩ := hstatus true
    have htaken : ((settings.monitor ()).samples Source.mirror
        ((List.range 1).map moments)).answer = .ok [⟨95, 20, 5, 30, 7⟩] := by decide +kernel
    rw [hanswer, hsample] at htaken
    cases htaken
    rw [hrun]
    decide +kernel
  · have htaken : ((settings.monitor ()).samples Source.mirror
        ((List.range 2).map moments)).answer =
          .ok [⟨95, 20, 5, 30, 7⟩, ⟨95, 20, 5, 30, 7⟩] := by decide +kernel
    rw [hanswer] at htaken
    rw [hwatch, Except.ok.inj htaken]
    decide +kernel
  · intro htext
    have hcount := (hsummary 2).2.2.2.mp htext
    omega

end Command

end ResourceHealth
