import PushBench.Script

/-!
# Samplers step by step

The steps of the sampling loop in any order, with time that passes outside of them.
-/

namespace PushBench

/-- One step with a sampler. -/
inductive SamplerStep where
  | warmUp
  | takeSample
  /-- Time passes outside of the body. -/
  | wait (nanoseconds : Nat)
  deriving DecidableEq, Repr

namespace Sampler

variable {α : Type} [Scalar α]

/-- Takes one step with a scripted body. -/
def step (script : Script) (sampler : Sampler α) (world : Script.World) :
    SamplerStep → Except CaseError Unit × Sampler α × Script.World
  | .warmUp => sampler.warmUp script.subject world
  | .takeSample => sampler.takeSample script.subject world
  | .wait nanoseconds => (.ok (), sampler, { world with clock := world.clock + nanoseconds })

end Sampler

end PushBench
