import Mathlib

namespace RuntimeHost.Abi

structure HmclStatus where
  raw : Int32
  deriving DecidableEq

namespace HmclStatus

def ok : HmclStatus := ⟨0⟩
def invalidArgument : HmclStatus := ⟨1⟩
def unsupportedAbi : HmclStatus := ⟨2⟩
def bufferTooSmall : HmclStatus := ⟨3⟩
def hostError : HmclStatus := ⟨4⟩
def pluginError : HmclStatus := ⟨5⟩

def isOk (status : HmclStatus) : Bool := status.raw == ok.raw

@[simp] theorem pluginError_ne_ok : pluginError ≠ ok := by decide

end HmclStatus

end RuntimeHost.Abi
