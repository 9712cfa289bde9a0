import Preflight.Balance

/-!
The limits that go with a call that changes state: how much weight it may consume, in reference
time and proof size, and how much balance may be held for storage.
-/

namespace Preflight

/-- The weight that a call may consume. -/
@[ext] structure GasLimit where
  refTime : UInt64
  proofSize : UInt64
  deriving DecidableEq, Repr

namespace GasLimit

def defaultRefTime : UInt64 := (900000000 - 1) * 10

def defaultProofSize : UInt64 := 1000000

-- a gas limit in which each missing part has its default
def build (refTime proofSize : Option UInt64) : GasLimit where
  refTime := refTime.getD defaultRefTime
  proofSize := proofSize.getD defaultProofSize

end GasLimit

/-- The limits of one call. -/
@[ext] structure CallOptions where
  storageDepositLimit : Balance := Balance.oneUnit
  gasLimit : GasLimit := GasLimit.build none none
  deriving DecidableEq, Repr

namespace CallOptions

-- one whole token for storage, and the default gas limit
def standard : CallOptions := {}

instance : Inhabited CallOptions := ⟨standard⟩

def withGasLimit (o : CallOptions) (limit : GasLimit) : CallOptions :=
  { o with gasLimit := limit }

def withStorageDepositLimit (o : CallOptions) (limit : Balance) : CallOptions :=
  { o with storageDepositLimit := limit }

end CallOptions

end Preflight
