import RuntimeHost.Abi.Status

namespace RuntimeHost.Abi

structure HmclSlice where
  data : Option (List UInt8)
  len : UInt64

structure HmclOwnedBuffer where
  data : UInt64
  len : UInt64
  capacity : UInt64
  deriving DecidableEq

namespace HmclOwnedBuffer

def empty : HmclOwnedBuffer := ⟨0, 0, 0⟩

def hasValidLayout (buffer : HmclOwnedBuffer) : Bool :=
  if buffer.capacity = 0 then buffer.data = 0 && buffer.len = 0
  else buffer.data ≠ 0 && buffer.len ≤ buffer.capacity

def satisfiesAllocationRequest (buffer : HmclOwnedBuffer) (requestedCapacity : UInt64) : Bool :=
  buffer.hasValidLayout && buffer.len = 0 && requestedCapacity ≤ buffer.capacity

end HmclOwnedBuffer

end RuntimeHost.Abi
