import Mathlib
import ResourceHealth.Proofs.Monitor.Passes

/-!
# Health and load

The more of the host is in use and the lower the thresholds are, the worse is its health: from
the readings of a pass over cleaning and levels up to whether work may be taken on, nothing
turns the order round.  Only the critical thresholds decide whether work is taken on.

Main definitions:

- `Readings.SharesLe`, `Thresholds.Le`, `Health.LevelsLe`: the orders of what is read, what it
  is judged by and what it comes to.
- `Monitor.SamplesReadings`, `Monitor.SamplesWithoutReadings`: an operation that takes a sample
  with readings, or one without.
- `Monitor.AnswersHealth`: how a monitor answers questions about health.

Main results:

- Theorem `Level.classify_le_classify`: levels follow the value and the cut-offs.
- Theorem `Health.isAvailable_classify_iff`: what decides whether work is taken on.
- Theorem `Monitor.answersHealth_of_taken`: a sample that was just taken is the one that is judged.
- Theorem `Monitor.health_follows_load`: the health of two monitors after a pass of each.
-/

namespace ResourceHealth

/-! ## Levels -/

/-- Both cut-offs are at most those of another pair.  In either pair the warning cut-off may be
above the critical one. -/
structure Cutoffs.Le (low high : Cutoffs) : Prop where
  warning : low.warning ≤ high.warning
  critical : low.critical ≤ high.critical

namespace Level

variable {value other : Binary64} {cutoffs others : Cutoffs} {a b c d : Level}

/-- The order of the levels is transitive. -/
theorem le_trans (hab : a ≤ b) (hbc : b ≤ c) : a ≤ c :=
  Nat.le_trans hab hbc

theorem healthy_le (level : Level) : healthy ≤ level :=
  Nat.zero_le _

/-- Only critical is at least critical. -/
theorem critical_le_iff : critical ≤ a ↔ a = critical := by
  cases a <;> decide

/-- The worse of two levels follows both. -/
theorem worse_le_worse (hac : a ≤ c) (hbd : b ≤ d) : a.worse b ≤ c.worse d :=
  worse_le_iff.mpr ⟨le_trans hac (le_worse_left c d), le_trans hbd (le_worse_right c d)⟩

/-- A value is past one of its cut-offs exactly when it reaches one. -/
theorem warning_le_classify_iff :
    warning ≤ classify value cutoffs ↔ cutoffs.critical ≤ value ∨ cutoffs.warning ≤ value := by
  unfold classify
  by_cases hcritical : cutoffs.critical ≤ value
  · simpa [hcritical] using (by decide : warning ≤ critical)
  by_cases hwarning : cutoffs.warning ≤ value
  · simpa [hcritical, hwarning] using (by decide : warning ≤ warning)
  · simpa [hcritical, hwarning] using (by decide : ¬ warning ≤ healthy)

/-- A greater value and lower cut-offs give a level that is at least as bad. -/
theorem classify_le_classify (hvalue : value ≤ other) (hcutoffs : others.Le cutoffs) :
    classify value cutoffs ≤ classify other others := by
  have hreaches {cutoff lower : Binary64} (hcutoffs : lower ≤ cutoff) (h : cutoff ≤ value) :
      lower ≤ other :=
    Binary64.le_trans hcutoffs (Binary64.le_trans h hvalue)
  by_cases hcritical : cutoffs.critical ≤ value
  · have hother : classify other others = critical :=
      classify_eq_critical_iff.mpr (hreaches hcutoffs.critical hcritical)
    rw [classify_eq_critical_iff.mpr hcritical, hother]
    exact Nat.le_refl _
  by_cases hwarning : cutoffs.warning ≤ value
  · have hlevel : classify value cutoffs = warning := by simp [classify, hcritical, hwarning]
    rw [hlevel, warning_le_classify_iff]
    exact Or.inr (hreaches hcutoffs.warning hwarning)
  · have hlevel : classify value cutoffs = healthy := by simp [classify, hcritical, hwarning]
    rw [hlevel]
    exact healthy_le _

example : classify 5 ⟨10, 1⟩ = critical ∧ classify 5 ⟨10, 7⟩ = healthy := by decide +kernel

end Level

/-! ## Health -/

/-- All cut-offs are at most those of other thresholds. -/
structure Thresholds.Le (low high : Thresholds) : Prop where
  cpu : low.cpu.Le high.cpu
  memory : low.memory.Le high.memory
  disk : low.disk.Le high.disk

/-- The shares of a sample are at most those of another one. -/
structure Sample.SharesLe (light heavy : Sample) : Prop where
  cpu : light.cpu ≤ heavy.cpu
  memory : light.memory ≤ heavy.memory
  disk : light.disk ≤ heavy.disk

/-- The level of no resource is worse. -/
structure Health.LevelsLe (good bad : Health) : Prop where
  cpu : good.cpu ≤ bad.cpu
  memory : good.memory ≤ bad.memory
  disk : good.disk ≤ bad.disk

namespace Health

variable {good bad : Health}

/-- Levels that are no worse one by one have a worst level that is no worse. -/
theorem LevelsLe.worst_le (h : good.LevelsLe bad) : good.worst ≤ bad.worst :=
  Level.worse_le_worse (Level.worse_le_worse h.cpu h.memory) h.disk

/-- Who takes on work with a worse health does so with a better one. -/
theorem LevelsLe.isAvailable (h : good.LevelsLe bad) (hbad : bad.isAvailable = true) :
    good.isAvailable = true := by
  simp only [Health.isAvailable, decide_eq_true_eq] at hbad ⊢
  intro hcritical
  have hworst := h.worst_le
  rw [hcritical, Level.critical_le_iff] at hworst
  exact hbad hworst

/-- A sample with lower shares, against higher thresholds, is classified no worse. -/
theorem levelsLe_classify {light heavy : Sample} {low high : Thresholds}
    (hsample : light.SharesLe heavy) (hthresholds : low.Le high) :
    (classify light high).LevelsLe (classify heavy low) where
  cpu := Level.classify_le_classify hsample.cpu hthresholds.cpu
  memory := Level.classify_le_classify hsample.memory hthresholds.memory
  disk := Level.classify_le_classify hsample.disk hthresholds.disk

/-- Work is taken on unless a share reaches its critical threshold, whatever the warning
thresholds are. -/
theorem isAvailable_classify_iff {sample : Sample} {thresholds : Thresholds} :
    (classify sample thresholds).isAvailable = true ↔
      ¬ thresholds.cpu.critical ≤ sample.cpu ∧ ¬ thresholds.memory.critical ≤ sample.memory ∧
        ¬ thresholds.disk.critical ≤ sample.disk := by
  simp only [isAvailable_iff, classify, ne_eq, Level.classify_eq_critical_iff]

end Health

/-! ## Readings -/

/-- The three shares are finite. -/
structure Readings.HaveFiniteShares (readings : Readings) : Prop where
  cpu : readings.cpu.isFinite = true
  memory : readings.memory.percent.isFinite = true
  disk : readings.disk.isFinite = true

/-- The shares that were read are at most those of other readings. -/
structure Readings.SharesLe (light heavy : Readings) : Prop where
  cpu : light.cpu ≤ heavy.cpu
  memory : light.memory.percent ≤ heavy.memory.percent
  disk : light.disk ≤ heavy.disk

/-- Cleaning keeps the order of finite shares. -/
theorem Sample.percent_le_percent {x y : Binary64} (hx : x.isFinite = true)
    (hy : y.isFinite = true) (h : x ≤ y) : percent x ≤ percent y := by
  rw [percent, percent, if_pos hx, if_pos hy]
  exact Binary64.clamp_le_clamp Binary64.zero_le_hundred h

/-- Lower readings give a sample with lower shares, whenever each is stamped. -/
theorem Readings.SharesLe.sample {light heavy : Readings} (h : light.SharesLe heavy)
    (hlight : light.HaveFiniteShares) (hheavy : heavy.HaveFiniteShares)
    (timestamp later : Binary64) :
    (Sample.ofReadings light timestamp).SharesLe (Sample.ofReadings heavy later) where
  cpu := Sample.percent_le_percent hlight.cpu hheavy.cpu h.cpu
  memory := Sample.percent_le_percent hlight.memory hheavy.memory h.memory
  disk := Sample.percent_le_percent hlight.disk hheavy.disk h.disk

/-! ## Monitors -/

namespace Monitor

variable {State World : Type} {source : Source State World} {monitor : Monitor State}
  {operation : Operation} {moment : Moment World}

/-- There is room for a sample, and the operation takes one by a pass whose readings all
succeed, with finite shares. -/
structure SamplesReadings (source : Source State World) (operation : Operation)
    (moment : Moment World) (readings : Readings) (monitor : Monitor State) : Prop where
  one_le_capacity : 1 ≤ monitor.history.capacity
  reads : monitor.reads operation = true
  pass_eq : (source.pass moment.world monitor.sampler.source).1 = .ok readings
  finite : readings.HaveFiniteShares

/-- There is room for a sample, and the operation takes one while monitoring is disabled or
by a pass that fails with an error. -/
structure SamplesWithoutReadings (source : Source State World) (operation : Operation)
    (moment : Moment World) (monitor : Monitor State) : Prop where
  one_le_capacity : 1 ≤ monitor.history.capacity
  takes : monitor.takes operation = true
  fails : monitor.enabled = false ∨
    ∃ cause, (source.pass moment.world monitor.sampler.source).1 = .error (.error cause)

/-- Questions about health are answered by the given one and change nothing. -/
structure AnswersHealth (source : Source State World) (health : Health) (monitor : Monitor State) :
    Prop where
  health_eq : ∀ moment, monitor.perform source .health moment =
    { answer := .ok (.health health), state := monitor }
  available_eq : ∀ moment, monitor.perform source .available moment =
    { answer := .ok (.available health.isAvailable), state := monitor }

/-- The monitor after an operation and after its thresholds have been set. -/
def afterThresholds (source : Source State World) (operation : Operation)
    (moment later : Moment World) (thresholds : Thresholds) (monitor : Monitor State) :
    Monitor State :=
  monitor.after source [(operation, moment), (.setThresholds thresholds, later)]

/-- A sample that was just taken is the one that is judged, by the thresholds in force when the
question is asked. -/
theorem answersHealth_of_taken (hcapacity : 1 ≤ monitor.history.capacity) {sample : Sample}
    (htaken : monitor.taken? source operation moment = some sample) (later : Moment World)
    (thresholds : Thresholds) :
    (monitor.afterThresholds source operation moment later thresholds).AnswersHealth source
      (Health.classify sample thresholds) := by
  obtain ⟨htakes, hanswer⟩ := taken?_eq_some_iff.mp htaken
  have hlatest :
      (monitor.perform source operation moment).state.history.latest? = some sample := by
    rw [state_perform_of_takes htakes, sample_of_ok hanswer]
    exact History.latest?_push hcapacity sample
  have hafter :
      (monitor.afterThresholds source operation moment later thresholds).history.latest? =
        some sample := hlatest
  constructor
  · intro now
    exact perform_of_latest (Or.inl rfl) hafter
  · intro now
    exact perform_of_latest (Or.inr rfl) hafter

/-- A step that samples readings takes the sample made of them. -/
theorem SamplesReadings.taken?_eq {readings : Readings}
    (h : monitor.SamplesReadings source operation moment readings) :
    monitor.taken? source operation moment =
      some (Sample.ofReadings readings (monitor.sampler.nextTimestamp moment.clock)) := by
  obtain ⟨htakes, henabled⟩ := Bool.and_eq_true_iff.mp h.reads
  rw [taken?_eq_some_iff, Sampler.answer_sample, h.pass_eq, henabled]
  exact ⟨htakes, rfl⟩

/-- A step that samples without readings takes a sample of zeros. -/
theorem SamplesWithoutReadings.taken?_eq
    (h : monitor.SamplesWithoutReadings source operation moment) :
    monitor.taken? source operation moment =
      some (Sample.zeroed (monitor.sampler.nextTimestamp moment.clock)) := by
  rw [taken?_eq_some_iff, Sampler.answer_sample]
  refine ⟨h.takes, ?_⟩
  rcases h.fails with hdisabled | ⟨cause, hcause⟩
  · rw [hdisabled]
    rfl
  · rw [hcause]
    cases monitor.enabled <;> rfl

/-- Two monitors, each after a pass with finite readings, the second with at least the shares
of the first and with thresholds that are at most those of the first: no resource of the first
is in a worse state, nor is the worst of them, and the first takes on work if the second does.
Whatever was measured, work is taken on unless a share reaches its critical threshold, and so
after a sample without readings unless one of these thresholds is at most zero. -/
theorem health_follows_load {Other Else : Type} (source : Source State World)
    (other : Source Other Else) :
    (∀ (monitor : Monitor State) (second : Monitor Other) operation operation' moment later
        moment' later' readings readings' (low high : Thresholds),
      monitor.SamplesReadings source operation moment readings →
      second.SamplesReadings other operation' moment' readings' →
      readings.SharesLe readings' → low.Le high →
      ∃ good bad,
        (monitor.afterThresholds source operation moment later high).AnswersHealth source good ∧
          (second.afterThresholds other operation' moment' later' low).AnswersHealth other bad ∧
          good.cpu ≤ bad.cpu ∧ good.memory ≤ bad.memory ∧ good.disk ≤ bad.disk ∧
          good.worst ≤ bad.worst ∧ (bad.isAvailable = true → good.isAvailable = true)) ∧
      (∀ (sample : Sample) (thresholds : Thresholds),
        (Health.classify sample thresholds).isAvailable = true ↔
          ¬ thresholds.cpu.critical ≤ sample.cpu ∧
            ¬ thresholds.memory.critical ≤ sample.memory ∧
            ¬ thresholds.disk.critical ≤ sample.disk) ∧
      ∀ (monitor : Monitor State) operation moment later (thresholds : Thresholds),
        monitor.SamplesWithoutReadings source operation moment →
        ∃ health,
          (monitor.afterThresholds source operation moment later thresholds).AnswersHealth source
            health ∧
            (health.isAvailable = true ↔
              ¬ thresholds.cpu.critical ≤ 0 ∧ ¬ thresholds.memory.critical ≤ 0 ∧
                ¬ thresholds.disk.critical ≤ 0) := by
  refine ⟨?_, fun sample thresholds => Health.isAvailable_classify_iff, ?_⟩
  · intro monitor second operation operation' moment later moment' later' readings readings'
      low high hfirst hsecond hreadings hthresholds
    have hshares := hreadings.sample hfirst.finite hsecond.finite
      (monitor.sampler.nextTimestamp moment.clock) (second.sampler.nextTimestamp moment'.clock)
    have hlevels := Health.levelsLe_classify hshares hthresholds
    exact ⟨_, _, answersHealth_of_taken hfirst.one_le_capacity hfirst.taken?_eq later high,
      answersHealth_of_taken hsecond.one_le_capacity hsecond.taken?_eq later' low,
      hlevels.cpu, hlevels.memory, hlevels.disk, hlevels.worst_le, hlevels.isAvailable⟩
  · intro monitor operation moment later thresholds hwithout
    exact ⟨_, answersHealth_of_taken hwithout.one_le_capacity hwithout.taken?_eq later thresholds,
      Health.isAvailable_classify_iff⟩

/-- A monitor that finds hardly anything in use, with a warning threshold above the critical
one, and one that finds more than there is; and a monitor that is switched off. -/
theorem health_of_two_loads :
    let light : Moment Readings := ⟨7, ⟨-5, ⟨60, 100⟩, 79⟩⟩
    let heavy : Moment Readings := ⟨3, ⟨150, ⟨60, 100⟩, 80⟩⟩
    let high : Thresholds := { cpu := ⟨90, 80⟩ }
    let low : Thresholds := { cpu := ⟨85, 70⟩ }
    let idle : Monitor Unit := start .standard 0 false ()
    (∃ good bad,
      ((start .standard 0 true ()).afterThresholds Source.mirror .sample light light
          high).AnswersHealth
          Source.mirror good ∧
        ((start .standard 1 true ()).afterThresholds Source.mirror .health heavy light
            low).AnswersHealth
          Source.mirror bad ∧
        good.worst ≤ bad.worst) ∧
      ∃ health,
        (idle.afterThresholds Source.mirror .available heavy light low).AnswersHealth
            Source.mirror health ∧
        health.isAvailable = true := by
  intro light heavy high low idle
  obtain ⟨hfollows, -, hwithout⟩ := health_follows_load Source.mirror Source.mirror
  have hlight :
      (start .standard 0 true ()).SamplesReadings Source.mirror .sample light light.world :=
    ⟨by decide, rfl, rfl, by decide +kernel, by decide +kernel, by decide +kernel⟩
  have hheavy :
      (start .standard 1 true ()).SamplesReadings Source.mirror .health heavy heavy.world :=
    ⟨by decide, rfl, rfl, by decide +kernel, by decide +kernel, by decide +kernel⟩
  have hreadings : light.world.SharesLe heavy.world :=
    ⟨by decide +kernel, by decide +kernel, by decide +kernel⟩
  have hthresholds : low.Le high :=
    ⟨⟨by decide +kernel, by decide +kernel⟩, ⟨by decide +kernel, by decide +kernel⟩,
      by decide +kernel, by decide +kernel⟩
  have hidle : idle.SamplesWithoutReadings Source.mirror .available heavy :=
    ⟨by decide, rfl, Or.inl rfl⟩
  obtain ⟨good, bad, hgood, hbad, -, -, -, hworst, -⟩ :=
    hfollows _ _ _ _ _ light _ light _ _ _ _ hlight hheavy hreadings hthresholds
  obtain ⟨health, hhealth, havailable⟩ := hwithout _ _ _ light low hidle
  exact ⟨⟨good, bad, hgood, hbad, hworst⟩, health, hhealth,
    havailable.mpr ⟨by decide +kernel, by decide +kernel, by decide +kernel⟩⟩

end Monitor

end ResourceHealth
