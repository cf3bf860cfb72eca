import Mathlib

namespace RuntimeHost.Foundation

def isAsciiLowercase (byte : UInt8) : Bool := 0x61 ≤ byte && byte ≤ 0x7a

def isAsciiDigit (byte : UInt8) : Bool := 0x30 ≤ byte && byte ≤ 0x39

/-- Byte loop over a separated name; `separator` says that the byte before was a separator. -/
def scanName (isSeparator : UInt8 → Bool) (separator : Bool) : List UInt8 → Bool
  | [] => !separator
  | byte :: rest =>
    if isSeparator byte then
      if separator then false else scanName isSeparator true rest
    else if isAsciiLowercase byte || isAsciiDigit byte then scanName isSeparator false rest
    else false

/-- A name starts with a lower-case letter and goes on with `scanName`. -/
def isSeparatedName (isSeparator : UInt8 → Bool) : List UInt8 → Bool
  | [] => false
  | first :: rest => isAsciiLowercase first && scanName isSeparator false rest

end RuntimeHost.Foundation
