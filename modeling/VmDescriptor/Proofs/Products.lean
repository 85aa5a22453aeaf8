import Mathlib.Algebra.Group.Nat.Defs
import Mathlib.Order.Bounds.Basic
import VmDescriptor.BuildConfig
import VmDescriptor.Disk

/-!
The products of a build, and when they do not fit their width.

The numbers of vCPUs have to fit 32 bits. A machine grows by whole sockets; the product for the
most sockets stays within the limit on vCPUs, so it is never the one that does not fit. The
limits of a disk profile have to fit 64 bits in bytes per second.
-/

namespace VmDescriptor

lemma product?_eq_some_iff {bound a b n : Nat} :
    product? bound a b = some n ↔ a * b < bound ∧ a * b = n := by
  unfold product?
  split <;> simp [*]

lemma product?_eq_none_iff {bound a b : Nat} : product? bound a b = none ↔ bound ≤ a * b := by
  unfold product?
  split <;> simp <;> omega

lemma next?_eq_some_iff {n m : UInt32} : next? n = some m ↔ m.toNat = n.toNat + 1 := by
  have hlt : m.toNat < UInt32.size := m.toNat_lt
  unfold next?
  split
  next h =>
    have hadd : (n + 1).toNat = n.toNat + 1 := by
      rw [UInt32.toNat_add]
      exact Nat.mod_eq_of_lt h
    rw [Option.some.injEq, ← UInt32.toNat_inj, hadd, eq_comm]
  next h => simpa using by omega

/-! ### Processors -/

namespace VirtualMachine

variable (vm : VirtualMachine)

/-- The number of vCPUs on one socket. -/
def cpusPerSocket : Nat :=
  vm.coresPerSocket.toNat * vm.threadsPerCore.toNat

/-- The number of vCPUs. -/
def cpus : Nat :=
  vm.sockets.toNat * vm.coresPerSocket.toNat * vm.threadsPerCore.toNat

/-- The number of vCPUs, or that of all cores, does not fit 32 bits. -/
def CpusOverflow : Prop :=
  2 ^ 32 ≤ vm.sockets.toNat * vm.coresPerSocket.toNat ∨ 2 ^ 32 ≤ vm.cpus

instance : Decidable vm.CpusOverflow :=
  inferInstanceAs (Decidable (_ ∨ _))

variable {vm}

lemma cpus_eq : vm.cpus = vm.sockets.toNat * vm.cpusPerSocket := by
  rw [cpus, cpusPerSocket, Nat.mul_assoc]

lemma cpuCount?_eq_none_iff : vm.cpuCount? = none ↔ vm.CpusOverflow := by
  unfold cpuCount? CpusOverflow cpus
  cases h : product? UInt32.size vm.sockets.toNat vm.coresPerSocket.toNat with
  | none => simpa using .inl (product?_eq_none_iff.mp h)
  | some cores =>
    obtain ⟨hlt, rfl⟩ := product?_eq_some_iff.mp h
    have hcores : ¬ 2 ^ 32 ≤ vm.sockets.toNat * vm.coresPerSocket.toNat := Nat.not_le.mpr hlt
    rw [or_iff_right hcores]
    exact product?_eq_none_iff

lemma eq_of_cpuCount? {n : Nat} (h : vm.cpuCount? = some n) : n = vm.cpus := by
  obtain ⟨cores, hcores, h⟩ := Option.bind_eq_some_iff.mp h
  obtain ⟨-, rfl⟩ := product?_eq_some_iff.mp hcores
  exact (product?_eq_some_iff.mp h).2.symm

end VirtualMachine

namespace BuildConfig

open VirtualMachine

variable (config : BuildConfig) (vm : VirtualMachine)

/-- The number of sockets that the machine may grow to. -/
def mostSockets : Nat :=
  if vm.cpusPerSocket = 0 then 0
  else if config.hotPlugCpu then
    min config.settings.maxSockets.toNat (config.settings.maxCpus.toNat / vm.cpusPerSocket)
  else vm.sockets.toNat

variable {config vm}

/-- With sockets to plug in, the machine grows as far as both limits allow. -/
lemma le_mostSockets_iff (hplug : config.hotPlugCpu) (hcpus : 0 < vm.cpusPerSocket) {n : Nat} :
    n ≤ config.mostSockets vm ↔
      n ≤ config.settings.maxSockets.toNat ∧
        n * vm.cpusPerSocket ≤ config.settings.maxCpus.toNat := by
  rw [mostSockets, if_neg (Nat.ne_of_gt hcpus), if_pos hplug, Nat.le_min,
    Nat.le_div_iff_mul_le hcpus]

lemma maxCpuCount?_eq_none_iff :
    config.maxCpuCount? vm = none ↔
      if config.hotPlugCpu then
        2 ^ 32 ≤ vm.cpusPerSocket ∨ vm.cpusPerSocket = 0 ∧ vm.CpusOverflow
      else vm.CpusOverflow := by
  unfold maxCpuCount?
  split
  next hplug =>
    unfold VirtualMachine.maxCpuCount?
    cases h : product? UInt32.size vm.coresPerSocket.toNat vm.threadsPerCore.toNat with
    | none => simpa using .inl (product?_eq_none_iff.mp h)
    | some perSocket =>
      obtain ⟨hlt, rfl⟩ := product?_eq_some_iff.mp h
      have hfits : ¬ 2 ^ 32 ≤ vm.cpusPerSocket := Nat.not_le.mpr hlt
      simp only [Option.bind_eq_bind, Option.bind_some, hfits, false_or]
      change (if vm.cpusPerSocket = 0 then vm.cpuCount? else _) = none ↔ _
      split
      next hzero => simp [hzero, cpuCount?_eq_none_iff]
      next hpos =>
        -- Whole sockets within the limit on vCPUs have no more vCPUs than that.
        have hle : config.mostSockets vm * vm.cpusPerSocket ≤ config.settings.maxCpus.toNat :=
          ((le_mostSockets_iff hplug (Nat.pos_of_ne_zero hpos)).mp (Nat.le_refl _)).2
        rw [mostSockets, if_neg hpos, if_pos hplug, Nat.mul_comm] at hle
        have hmax := config.settings.maxCpus.toNat_lt
        simp only [hpos, false_and, iff_false]
        rw [product?_eq_none_iff, Nat.not_le]
        exact Nat.lt_of_le_of_lt hle hmax
  next => exact cpuCount?_eq_none_iff

/-- Whether the vCPUs fit does not depend on the limits. -/
lemma maxCpuCount?_eq_none_congr {config' : BuildConfig}
    (hplug : config.hotPlugCpu = config'.hotPlugCpu) :
    config.maxCpuCount? vm = none ↔ config'.maxCpuCount? vm = none := by
  rw [maxCpuCount?_eq_none_iff, maxCpuCount?_eq_none_iff, hplug]

/-- Without sockets to plug in, a machine has the vCPUs that it may grow to. -/
lemma cpus_eq_mostSockets (hplug : config.hotPlugCpu = false) :
    vm.cpus = config.mostSockets vm * vm.cpusPerSocket := by
  rw [cpus_eq, mostSockets, hplug, if_neg Bool.false_ne_true]
  split
  next hzero => rw [hzero, Nat.mul_zero, Nat.mul_zero]
  next => rfl

lemma eq_of_maxCpuCount? {n : Nat} (h : config.maxCpuCount? vm = some n) :
    n = config.mostSockets vm * vm.cpusPerSocket := by
  unfold maxCpuCount? at h
  split at h
  next hplug =>
    obtain ⟨perSocket, hperSocket, h⟩ := Option.bind_eq_some_iff.mp h
    obtain ⟨-, rfl⟩ := product?_eq_some_iff.mp hperSocket
    change (if vm.cpusPerSocket = 0 then vm.cpuCount? else _) = some n at h
    split at h
    next hzero => rw [eq_of_cpuCount? h, cpus_eq, hzero, Nat.mul_zero, Nat.mul_zero]
    next hpos =>
      rw [mostSockets, if_neg hpos, if_pos hplug, Nat.mul_comm]
      exact (product?_eq_some_iff.mp h).2.symm
  next hplug =>
    exact (eq_of_cpuCount? h).trans (cpus_eq_mostSockets (Bool.not_eq_true _ ▸ hplug))

/-- The numbers of vCPUs do not fit 32 bits just when one of three products does not. -/
theorem cpuCounts_eq_none_iff :
    (vm.cpuCount? = none ∨ config.maxCpuCount? vm = none) ↔
      vm.CpusOverflow ∨ config.hotPlugCpu ∧ 2 ^ 32 ≤ vm.cpusPerSocket := by
  rw [cpuCount?_eq_none_iff, maxCpuCount?_eq_none_iff]
  cases config.hotPlugCpu with
  | false => simp
  | true =>
    simp only [if_true, true_and]
    constructor
    · rintro (h | h | ⟨-, h⟩)
      · exact .inl h
      · exact .inr h
      · exact .inl h
    · rintro (h | h)
      · exact .inl h
      · exact .inr (.inl h)

variable (config vm) in
/-- The numbers of vCPUs on whole sockets within the limits on both. -/
def reachableCpus : Set Nat :=
  {n | ∃ sockets, sockets ≤ config.settings.maxSockets.toNat ∧
    sockets * vm.cpusPerSocket ≤ config.settings.maxCpus.toNat ∧ n = sockets * vm.cpusPerSocket}

/-- With sockets to plug in, a machine may grow to the most vCPUs within both limits. -/
theorem isGreatest_mostSockets (hplug : config.hotPlugCpu) (hcpus : 0 < vm.cpusPerSocket) :
    IsGreatest (config.reachableCpus vm) (config.mostSockets vm * vm.cpusPerSocket) := by
  obtain ⟨hsockets, hlimit⟩ := (le_mostSockets_iff hplug hcpus).mp (Nat.le_refl _)
  refine ⟨⟨config.mostSockets vm, hsockets, hlimit, rfl⟩, ?_⟩
  rintro n ⟨sockets, hsockets, hlimit, rfl⟩
  exact Nat.mul_le_mul_right _ ((le_mostSockets_iff hplug hcpus).mpr ⟨hsockets, hlimit⟩)

/-- With greater limits a machine may grow at least as far. -/
theorem mostSockets_mono {config' : BuildConfig} (hplug : config.hotPlugCpu)
    (hplug' : config'.hotPlugCpu)
    (hsockets : config.settings.maxSockets ≤ config'.settings.maxSockets)
    (hlimit : config.settings.maxCpus ≤ config'.settings.maxCpus) :
    config.mostSockets vm * vm.cpusPerSocket ≤ config'.mostSockets vm * vm.cpusPerSocket := by
  rcases Nat.eq_zero_or_pos vm.cpusPerSocket with hzero | hpos
  · simp [hzero]
  · obtain ⟨hsockets', hlimit'⟩ := (le_mostSockets_iff hplug hpos).mp (Nat.le_refl _)
    exact Nat.mul_le_mul_right _ ((le_mostSockets_iff hplug' hpos).mpr
      ⟨hsockets'.trans (UInt32.le_iff_toNat_le.mp hsockets),
        hlimit'.trans (UInt32.le_iff_toNat_le.mp hlimit)⟩)

/-- A machine may grow to the vCPUs that it has if they are within the limits that hold for it. -/
theorem cpus_le_iff :
    vm.cpus ≤ config.mostSockets vm * vm.cpusPerSocket ↔
      (config.hotPlugCpu → vm.cpusPerSocket = 0 ∨
        vm.sockets ≤ config.settings.maxSockets ∧
          vm.cpus ≤ config.settings.maxCpus.toNat) := by
  cases hplug : config.hotPlugCpu with
  | false => simp [cpus_eq_mostSockets hplug]
  | true =>
    rw [forall_prop_of_true rfl, cpus_eq]
    rcases Nat.eq_zero_or_pos vm.cpusPerSocket with hzero | hpos
    · simp [hzero]
    · rw [Nat.mul_le_mul_right_iff hpos, or_iff_right (Nat.ne_of_gt hpos),
        le_mostSockets_iff hplug hpos, UInt32.le_iff_toNat_le]

/-- Dividing the most vCPUs by cores and by threads gives back the most sockets. -/
lemma mostSockets_eq :
    config.mostSockets vm * vm.cpusPerSocket / max vm.coresPerSocket.toNat 1 /
      max vm.threadsPerCore.toNat 1 = config.mostSockets vm := by
  by_cases hzero : vm.cpusPerSocket = 0
  · simp [mostSockets, hzero]
  · obtain ⟨hcores, hthreads⟩ := Nat.mul_ne_zero_iff.mp hzero
    have hcores' : max vm.coresPerSocket.toNat 1 = vm.coresPerSocket.toNat := by omega
    have hthreads' : max vm.threadsPerCore.toNat 1 = vm.threadsPerCore.toNat := by omega
    rw [hcores', hthreads', Nat.div_div_eq_div_mul]
    exact Nat.mul_div_cancel _ (Nat.pos_of_ne_zero hzero)

end BuildConfig

/-! ### Throughput -/

namespace StorageQos

/-- A throughput in bytes per second. -/
def bytes (mib : UInt64) : Nat :=
  mib.toNat * (1024 * 1024)

/-- The limits that are set, by name, however great they are. -/
def limits (q : StorageQos) : List (String × Nat) :=
  limit "total_bytes_sec" (q.throughput.map bytes) ++
    limit "read_bytes_sec" (q.readThroughput.map bytes) ++
    limit "write_bytes_sec" (q.writeThroughput.map bytes) ++
    limit "total_iops_sec" (q.iops.map (·.toNat)) ++
    limit "read_iops_sec" (q.readIops.map (·.toNat)) ++
    limit "write_iops_sec" (q.writeIops.map (·.toNat))

end StorageQos

end VmDescriptor
