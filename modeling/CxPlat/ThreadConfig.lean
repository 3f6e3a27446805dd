import Mathlib.Data.BitVec

/-
  The configuration of a new thread, which `cxplat.h` and
  the headers of all platforms share.

  Key definitions include:
    * `ThreadConfig`
    * `ThreadConfig.has`
-/

------------------------------------------------------------
-- Thread Configurations
------------------------------------------------------------

namespace CxPlat

/- `CXPLAT_THREAD_FLAGS`. -/
def threadFlagSetIdealProc : BitVec 16 := 0x0001

def threadFlagSetAffinitize : BitVec 16 := 0x0002

def threadFlagHighPriority : BitVec 16 := 0x0004

/-
  `CXPLAT_THREAD_CONFIG`.  The callback and its context are
  addresses, and the name may be NULL.
-/
structure ThreadConfig where
  flags : BitVec 16
  idealProcessor : BitVec 16
  name : Option String
  callback : Nat
  context : Nat
deriving DecidableEq, Repr

/- `Config->Flags & flag`. -/
def ThreadConfig.has
    (config : ThreadConfig)
    (flag : BitVec 16) : Bool :=
  config.flags &&& flag != 0

end CxPlat
