import Mathlib
import ResourceHealth.Proofs.Binary64.Monotone
import ResourceHealth.Proofs.Sampler.Result
import ResourceHealth.Proofs.Source.Meter
import ResourceHealth.Proofs.Source.Overflow

/-!
# The readings of a host are in range

Cleaning a sample never changes a reading of the host.  Shares of the processor and of the
file system are clamped where they are computed, which leaves to show that they are numbers;
the share of the memory is not, but no more is used than there is, and rounded quotients and
products keep order.

Main definitions:

- `Source.afterReadings`: the state of a source after readings in any order.
- `Jiffies.InRange`, `Memory.InRange`: figures that can be read.
- `HostMeter.Sound`: the share that the processor meter shows is in range.

Main results:

- Theorem `ProcessorMeter.isShare_busyPercent`, `Memory.isShare_percent`,
  `Volume.isShare_percent`: the shares are in range.
- Theorem `Memory.availableMb_le_totalMb`: no more is available than there is.
- Theorem `Source.host_readings_in_range`: the readings of a host after any others.
-/

namespace ResourceHealth

/-! ## Cleaning what is in range -/

/-- A share is a percentage that cleaning leaves as it is. -/
theorem Sample.percent_eq_self {reading : Binary64} (h : reading.IsShare) :
    percent reading = reading := by
  have hlow : ¬ reading < 0 := Binary64.not_lt_of_le h.nonneg
  have hhigh : ¬ 100 < reading := Binary64.not_lt_of_le h.le_hundred
  rw [percent, if_pos h.finite]
  exact Binary64.clamp_eq_self hlow hhigh

/-- Cleaning keeps an amount that has no minus sign. -/
theorem Sample.amount_eq_self {reading : Binary64} (h : reading.IsMagnitude) :
    amount reading = reading := by
  rw [amount, if_pos h.isFinite]
  exact h.max_zero

namespace Binary64

/-- A magnitude is an amount. -/
theorem IsMagnitude.isAmount {x : Binary64} (h : x.IsMagnitude) : x.IsAmount :=
  ⟨h.isFinite, h.nonneg⟩

/-- Whatever is no NaN is a share once it is clamped, infinities included. -/
theorem isShare_clamp {x : Binary64} (hx : x ≠ nan) : (clamp 0 100 x).IsShare := by
  have hlow : 0 ≤ clamp 0 100 x := le_clamp zero_le_hundred hx
  have hhigh : clamp 0 100 x ≤ 100 := clamp_le zero_le_hundred hx
  exact ⟨isFinite_of_le_of_le isFinite_zero isFinite_hundred hlow hhigh, hlow, hhigh⟩

/-- A quotient of counters, with a divisor other than zero. -/
theorem isMagnitude_quotient {part whole : Nat} (hpart : part < Counter.limit)
    (hwhole : whole < Counter.limit) (hpos : 0 < whole) :
    (ofNat part / ofNat whole).IsMagnitude :=
  (isMagnitude_ofNat hpart).div (isMagnitude_ofNat hwhole) (one_le_ofNat hpos)

end Binary64

/-! ## The processor -/

/-- Ticks that can be read: the idle ones are part of all, which are a counter. -/
structure Jiffies.InRange (now : Jiffies) : Prop where
  idle_le_total : now.idle ≤ now.total
  total_lt : now.total < Counter.limit

/-- Ticks that are read from a text are in range. -/
theorem Jiffies.inRange_of_parse {path : Path} {text : List Char} {now : Jiffies}
    (h : parse path text = .ok now) : now.InRange := by
  unfold parse at h
  split at h
  · cases h
  · split at h
    · cases h
    · rename_i counts _
      split at h
      · cases h
      · rw [ofCounters_eq] at h
        split at h
        · rename_i hsum
          cases h
          exact ⟨idle_le_sum counts, hsum⟩
        · cases h

namespace ProcessorMeter

theorem inRange_of_ticks {path : Path} {host : Host} {now : Jiffies}
    (h : ticks path host = .ok now) : now.InRange := by
  unfold ticks at h
  split at h
  · cases h
  · exact Jiffies.inRange_of_parse h

/-- The share of ticks that were not idle is in range, also if more were idle than there were
in all, as when the counters have been reset. -/
theorem isShare_busyPercent {idleTicks totalTicks : Nat} (hidle : idleTicks < Counter.limit)
    (htotal : totalTicks < Counter.limit) (hpos : 0 < totalTicks) :
    (busyPercent idleTicks totalTicks).IsShare := by
  have hquotient := Binary64.isMagnitude_quotient hidle htotal hpos
  have hrest : 1 - Binary64.ofNat idleTicks / Binary64.ofNat totalTicks ≠ .nan :=
    Binary64.sub_ne_nan Binary64.IsMagnitude.one.isFinite
      (Binary64.ne_nan_of_isFinite hquotient.isFinite)
  exact Binary64.isShare_clamp
    (Binary64.mul_ne_nan hrest Binary64.isFinite_hundred (by decide +kernel))

example : busyPercent 7 5 = 0 := by decide +kernel

/-- The share that a meter shows stays in range. -/
theorem isShare_update {meter : ProcessorMeter} {now : Jiffies}
    (hmeter : meter.lastPercent.IsShare) (hnow : now.InRange) :
    (meter.update now).lastPercent.IsShare := by
  have hidle := hnow.idle_le_total
  have htotal := hnow.total_lt
  simp only [update]
  split
  · rename_i hpos
    exact isShare_busyPercent (by omega) (by omega) hpos
  · exact hmeter

/-- The meter's percentage stays a share under an update with ticks in range. -/
theorem isShare_updateWith {meter : ProcessorMeter} {outcome : Except Fault Jiffies}
    (hmeter : meter.lastPercent.IsShare) (hinRange : ∀ now, outcome = .ok now → now.InRange) :
    (meter.updateWith outcome).2.lastPercent.IsShare := by
  cases outcome with
  | error fault => exact hmeter
  | ok now => exact isShare_update hmeter (hinRange now rfl)

/-- The meter's percentage stays a share under updates with ticks in range. -/
theorem isShare_updateAll {meter : ProcessorMeter} {outcomes : List (Except Fault Jiffies)}
    (hmeter : meter.lastPercent.IsShare)
    (hinRange : ∀ now, .ok now ∈ outcomes → now.InRange) :
    (meter.updateAll outcomes).lastPercent.IsShare := by
  induction outcomes generalizing meter with
  | nil => exact hmeter
  | cons outcome rest ih =>
    refine ih (isShare_updateWith hmeter fun now hnow => ?_) fun now hmem =>
      hinRange now (List.mem_cons_of_mem outcome hmem)
    exact hinRange now (hnow ▸ List.mem_cons_self)

/-- A reading is the share that the meter then shows. -/
theorem lastPercent_updateWith {meter : ProcessorMeter} {outcome : Except Fault Jiffies}
    {percent : Binary64} (h : (meter.updateWith outcome).1 = .ok percent) :
    (meter.updateWith outcome).2.lastPercent = percent := by
  cases outcome with
  | error fault => cases h
  | ok now => exact Except.ok.inj h

theorem isShare_read {meter : ProcessorMeter} (hmeter : meter.lastPercent.IsShare)
    (host : Host) : (meter.read host).2.lastPercent.IsShare := by
  rw [read_eq_updateWith]
  exact isShare_updateWith hmeter fun now => inRange_of_ticks

end ProcessorMeter

/-! ## The memory -/

namespace Memory

/-- Memory that can be read: neither more is used nor more available than there is, which is
a counter. -/
structure InRange (memory : Memory) : Prop where
  used_le : memory.used ≤ memory.total
  available_le : memory.available ≤ memory.total
  total_lt : memory.total < Counter.limit

/-- Memory made up of kilobytes is in range. -/
theorem inRange_of_kilobytes {total available : Nat} {memory : Memory}
    (h : ofKilobytes total available = .ok memory) : memory.InRange := by
  rw [ofKilobytes_eq] at h
  split at h
  · rename_i hcounters
    cases h
    exact ⟨Nat.sub_le _ _, Nat.min_le_right _ _, hcounters.1⟩
  · cases h

theorem inRange_of_read {path : Path} {host : Host} {memory : Memory}
    (h : read path host = .ok memory) : memory.InRange := by
  unfold read at h
  split at h
  · cases h
  · unfold parse at h
    split at h
    · cases h
    · cases h
    · cases h
    · rename_i total available _
      cases hmemory : ofKilobytes total available with
      | error cause => rw [hmemory] at h; cases h
      | ok balanced =>
        rw [hmemory] at h
        cases h
        exact inRange_of_kilobytes hmemory

variable {memory : Memory}

/-- The share in use is at most one, since no more is used than there is. -/
theorem utilisation_bounds (h : memory.InRange) :
    memory.utilisation.IsMagnitude ∧ memory.utilisation ≤ 1 := by
  have htotal := h.total_lt
  have hused := h.used_le
  unfold utilisation
  split
  · exact ⟨Binary64.isMagnitude_ofNat (by decide), by decide +kernel⟩
  · rename_i hne
    have hpos : 0 < memory.total := Nat.pos_of_ne_zero hne
    refine ⟨Binary64.isMagnitude_quotient (by omega) htotal hpos, ?_⟩
    exact (Binary64.isMagnitude_ofNat (by omega)).div_le_one (Binary64.isMagnitude_ofNat htotal)
      (Binary64.ofNat_le_ofNat hused) (Binary64.one_le_ofNat hpos)

/-- The share in use is in range although nothing clamps it. -/
theorem isShare_percent (h : memory.InRange) : memory.reading.percent.IsShare := by
  obtain ⟨hmagnitude, hone⟩ := utilisation_bounds h
  have hpercent := hmagnitude.mul Binary64.isMagnitude_hundred hone
  exact ⟨hpercent.isFinite, hpercent.nonneg,
    hmagnitude.mul_le_right Binary64.isMagnitude_hundred hone⟩

/-- A counter of bytes is a magnitude in megabytes. -/
theorem isMagnitude_megabytes {bytes : Nat} (h : bytes < Counter.limit) :
    (Binary64.ofNat bytes / Binary64.ofNat bytesPerMegabyte).IsMagnitude :=
  Binary64.isMagnitude_quotient h (by decide) (by decide)

/-- The available memory is a magnitude in megabytes. -/
theorem isMagnitude_availableMb (h : memory.InRange) : memory.availableMb.IsMagnitude :=
  isMagnitude_megabytes (Nat.lt_of_le_of_lt h.available_le h.total_lt)

/-- No more megabytes are available than there are. -/
theorem availableMb_le_totalMb (h : memory.InRange) : memory.availableMb ≤ memory.totalMb := by
  have htotal := h.total_lt
  have havailable := h.available_le
  exact (Binary64.isMagnitude_ofNat (by omega)).div_le_div_right
    (Binary64.isMagnitude_ofNat htotal) (Binary64.isMagnitude_ofNat (by decide))
    (Binary64.ofNat_le_ofNat havailable) (Binary64.one_le_ofNat (by decide))

end Memory

/-! ## The file system -/

/-- The share in use is in range for all counts of blocks, also if products or their sum stay
at the greatest counter. -/
theorem Volume.isShare_percent (counts : BlockCounts) : (ofBlocks counts).percent.IsShare := by
  have hused : (ofBlocks counts).used < Counter.limit := Counter.multiplyCapped_lt _ _
  have hwhole := Counter.addCapped_lt (ofBlocks counts).used (ofBlocks counts).available
  unfold percent
  simp only
  split
  · exact Binary64.isShare_zero
  · rename_i hne
    have hquotient := Binary64.isMagnitude_quotient hused hwhole (Nat.pos_of_ne_zero hne)
    exact Binary64.isShare_clamp
      (Binary64.mul_ne_nan (Binary64.ne_nan_of_isFinite hquotient.isFinite)
        Binary64.isFinite_hundred (by decide +kernel))

/-- The percentage of a volume that is read is a share. -/
theorem Volume.isShare_of_read {path : Path} {host : Host} {volume : Volume}
    (h : read path host = .ok volume) : volume.percent.IsShare := by
  unfold read at h
  split at h
  · cases h
  · split at h
    · cases h
    · cases h
      exact isShare_percent _

/-! ## The host -/

namespace Source

variable {State World : Type}

/-- The state of a source after one reading. -/
def afterReading (source : Source State World) (resource : Resource) (world : World)
    (state : State) : State :=
  match resource with
  | .cpu => (source.cpu world state).2
  | .memory => (source.memory world state).2
  | .disk => (source.disk world state).2

/-- The state of a source after readings in any order, each in surroundings of its own. -/
def afterReadings (source : Source State World) (readings : List (Resource × World))
    (state : State) : State :=
  readings.foldl (fun current reading => source.afterReading reading.1 reading.2 current) state

end Source

/-- The share that the processor meter shows is in range. -/
def HostMeter.Sound (meter : HostMeter) : Prop :=
  meter.processor.lastPercent.IsShare

namespace HostMeter

theorem sound_start (diskPath : Path) : (start diskPath).Sound :=
  Binary64.isShare_zero

/-- The meter of a host stays sound under a reading of any resource. -/
theorem Sound.afterReading {meter : HostMeter} (h : meter.Sound) (resource : Resource)
    (host : Host) : (Source.host.afterReading resource host meter).Sound := by
  cases resource with
  | cpu => exact ProcessorMeter.isShare_read h host
  | memory => exact h
  | disk => exact h

theorem Sound.afterReadings {meter : HostMeter} (h : meter.Sound)
    (readings : List (Resource × Host)) :
    (Source.host.afterReadings readings meter).Sound := by
  induction readings generalizing meter with
  | nil => exact h
  | cons reading rest ih => exact ih (h.afterReading reading.1 reading.2)

end HostMeter

namespace Source

variable {host : Host} {meter : HostMeter}

/-- The processor reading of a host is a share. -/
theorem isShare_host_cpu (h : meter.Sound) {percent : Binary64}
    (hread : (Source.host.cpu host meter).1 = .ok percent) : percent.IsShare := by
  have hshare : (meter.processor.read host).2.lastPercent.IsShare :=
    ProcessorMeter.isShare_read h host
  change (meter.processor.read host).1 = .ok percent at hread
  rw [ProcessorMeter.read_eq_updateWith] at hread hshare
  rwa [← ProcessorMeter.lastPercent_updateWith hread]

/-- A reading of the memory is made of balanced figures. -/
theorem inRange_of_host_memory {reading : MemoryReading}
    (hread : (Source.host.memory host meter).1 = .ok reading) :
    ∃ memory, Memory.read Memory.standardPath host = .ok memory ∧ memory.InRange ∧
      reading = memory.reading := by
  change (Memory.read Memory.standardPath host).map Memory.reading = .ok reading at hread
  cases hmemory : Memory.read Memory.standardPath host with
  | error fault => rw [hmemory] at hread; cases hread
  | ok memory =>
    rw [hmemory] at hread
    cases hread
    exact ⟨memory, rfl, Memory.inRange_of_read hmemory, rfl⟩

theorem isShare_host_disk {percent : Binary64}
    (hread : (Source.host.disk host meter).1 = .ok percent) : percent.IsShare := by
  change ((Volume.read meter.diskPath host).map Volume.percent).mapError Fault.error =
    .ok percent at hread
  cases hvolume : Volume.read meter.diskPath host with
  | error fault => rw [hvolume] at hread; cases hread
  | ok volume =>
    rw [hvolume] at hread
    cases hread
    exact Volume.isShare_of_read hvolume

/-- The readings of a pass over a host are those that its meter gives before the pass: the
processor is read first, and the others do not ask the meter. -/
theorem host_pass_eq_ok {readings : Readings}
    (h : (Source.host.pass host meter).1 = .ok readings) :
    (Source.host.cpu host meter).1 = .ok readings.cpu ∧
      (Source.host.memory host meter).1 = .ok readings.memory ∧
      (Source.host.disk host meter).1 = .ok readings.disk := by
  simp only [pass, Source.host] at h ⊢
  rcases hcpu : meter.processor.read host with ⟨fault | cpu, next⟩
  · simp [hcpu] at h
  rcases hmemory : (Memory.read Memory.standardPath host).map Memory.reading with fault | memory
  · simp [hcpu, hmemory] at h
  rcases hdisk : ((Volume.read meter.diskPath host).map Volume.percent).mapError Fault.error
    with fault | disk
  · simp [hcpu, hmemory, hdisk] at h
  · simp only [hcpu, hmemory, hdisk, Except.ok.injEq] at h
    subst h
    exact ⟨rfl, rfl, rfl⟩

/-- Cleaning changes nothing of a pass over a host. -/
theorem ofReadings_host (hsound : meter.Sound) {readings : Readings}
    (h : (Source.host.pass host meter).1 = .ok readings) (timestamp : Binary64) :
    Sample.ofReadings readings timestamp =
      ⟨readings.cpu, readings.memory.percent, readings.memory.availableMb, readings.disk,
        timestamp⟩ := by
  obtain ⟨hcpu, hmemory, hdisk⟩ := host_pass_eq_ok h
  obtain ⟨memory, -, hinRange, hreading⟩ := inRange_of_host_memory hmemory
  have hpercent : readings.memory.percent.IsShare := by
    rw [hreading]
    exact Memory.isShare_percent hinRange
  have hamount : readings.memory.availableMb.IsMagnitude := by
    rw [hreading]
    exact Memory.isMagnitude_availableMb hinRange
  simp only [Sample.ofReadings, Sample.percent_eq_self (isShare_host_cpu hsound hcpu),
    Sample.percent_eq_self hpercent, Sample.amount_eq_self hamount,
    Sample.percent_eq_self (isShare_host_disk hdisk)]

/-- After readings of any resources of any hosts in any order, failing ones and panics
included: what a reading of the host gives is finite, shares are between zero and a hundred,
and no less than zero and no more megabytes are available than the memory has.  So cleaning
changes none of the figures, one by one or in the sample of a whole pass. -/
theorem host_readings_in_range (diskPath : Path) (earlier : List (Resource × Host))
    (host : Host) :
    let meter := Source.host.afterReadings earlier (HostMeter.start diskPath)
    (∀ percent, (Source.host.cpu host meter).1 = .ok percent →
        percent.IsShare ∧ Sample.percent percent = percent) ∧
      (∀ reading, (Source.host.memory host meter).1 = .ok reading →
        reading.percent.IsShare ∧ Sample.percent reading.percent = reading.percent ∧
          reading.availableMb.IsAmount ∧
          Sample.amount reading.availableMb = reading.availableMb ∧
          ∃ memory, Memory.read Memory.standardPath host = .ok memory ∧
            reading = memory.reading ∧ memory.totalMb.IsAmount ∧
            reading.availableMb ≤ memory.totalMb) ∧
      (∀ percent, (Source.host.disk host meter).1 = .ok percent →
        percent.IsShare ∧ Sample.percent percent = percent) ∧
      ∀ readings timestamp, (Source.host.pass host meter).1 = .ok readings →
        Sample.ofReadings readings timestamp =
          ⟨readings.cpu, readings.memory.percent, readings.memory.availableMb, readings.disk,
            timestamp⟩ := by
  intro meter
  have hsound : meter.Sound := (HostMeter.sound_start diskPath).afterReadings earlier
  refine ⟨fun percent hread => ?_, fun reading hread => ?_, fun percent hread => ?_,
    fun readings timestamp hpass => ofReadings_host hsound hpass timestamp⟩
  · have hshare := isShare_host_cpu hsound hread
    exact ⟨hshare, Sample.percent_eq_self hshare⟩
  · obtain ⟨memory, hmemory, hinRange, rfl⟩ := inRange_of_host_memory hread
    have hshare := Memory.isShare_percent hinRange
    have hamount := Memory.isMagnitude_availableMb hinRange
    exact ⟨hshare, Sample.percent_eq_self hshare, hamount.isAmount,
      Sample.amount_eq_self hamount, memory, hmemory, rfl,
      (Memory.isMagnitude_megabytes hinRange.total_lt).isAmount,
      Memory.availableMb_le_totalMb hinRange⟩
  · have hshare := isShare_host_disk hread
    exact ⟨hshare, Sample.percent_eq_self hshare⟩

end Source

end ResourceHealth
