import NumaFabric.Kernel.Launch
import NumaFabric.Kernel.ModuleDirectory

namespace NumaFabric

def dryRun {φ : Type} : Executor UInt64 φ := fun _ _ _ n => (.ok (), n + 1)

structure ExecutedKernel where
  function : DeviceFunction
  launch : KernelLaunch
  params : List UInt8

/-- Keeps executed kernels, latest first. -/
def recordingExecutor : Executor (List ExecutedKernel) DeviceFunction :=
  fun function launch params seen =>
    if launch.name = "explode" then (.error (.execution launch.name "injected"), seen)
    else if launch.name = "panic" then (.error (.breakdown "executor panic"), seen)
    else (.ok (), ⟨function, launch, params⟩ :: seen)

end NumaFabric
