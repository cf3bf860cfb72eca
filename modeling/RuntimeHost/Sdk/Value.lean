import RuntimeHost.Foundation.BigEndian
import RuntimeHost.Foundation.Names
import RuntimeHost.Sdk.Error

namespace RuntimeHost.Sdk

open Foundation

def maxDepth : Nat := 31
def maxStringBytes : Nat := 1024 * 1024
def maxByteBytes : Nat := 16 * 1024 * 1024
def maxContainerEntries : Nat := 1024
def maxTotalContentBytes : Nat := 16 * 1024 * 1024
def maxTotalValues : Nat := 65536

def i64Max : UInt64 := 0x7fffffffffffffff

def isValidTypeName (value : String) : Bool :=
  if value.isEmpty || (utf8 value).length > 128 then false
  else isSeparatedName (fun byte => byte == 0x2e || byte == 0x2d) (utf8 value)

/-- An untyped host-managed object reference, as the decoder or a plugin presents it. -/
structure HandleValue where
  objectId : UInt64
  generation : UInt64
  typeName : String
  deriving DecidableEq

def HandleValue.new (objectId generation : UInt64) (typeName : String) : Except Error HandleValue :=
  if objectId = 0 ∨ generation = 0 ∨ objectId > i64Max ∨ generation > i64Max ∨
      ¬isValidTypeName typeName ∨ (utf8 typeName).length > 128 then
    .error invalidArgument
  else .ok { objectId, generation, typeName }

theorem HandleValue.eq_of_new {objectId generation : UInt64} {typeName : String} {h : HandleValue}
    (made : HandleValue.new objectId generation typeName = .ok h) :
    h = { objectId, generation, typeName } := by
  unfold HandleValue.new at made
  split at made <;> cases made
  rfl

theorem HandleValue.typeName_le_of_new {objectId generation : UInt64} {typeName : String}
    {h : HandleValue} (made : HandleValue.new objectId generation typeName = .ok h) :
    (utf8 typeName).length ≤ 128 := by
  unfold HandleValue.new at made
  split at made
  · cases made
  · rename_i accepted
    omega

structure Float64 where
  bits : UInt64
  deriving DecidableEq

def Float64.isFinite (x : Float64) : Bool := (x.bits >>> 52) &&& 0x7ff != 0x7ff

inductive Value where
  | null
  | bool (value : Bool)
  | integer (value : Int64)
  | float (value : Float64)
  | string (value : String)
  | bytes (value : List UInt8)
  | array (values : List Value)
  | map (entries : List (String × Value))
  | handle (handle : HandleValue)
  | error (error : Error)

def tagNull : UInt8 := 0
def tagBool : UInt8 := 1
def tagInteger : UInt8 := 2
def tagFloat : UInt8 := 3
def tagString : UInt8 := 4
def tagBytes : UInt8 := 5
def tagArray : UInt8 := 6
def tagMap : UInt8 := 7
def tagHandle : UInt8 := 8
def tagError : UInt8 := 9

def tag : Value → UInt8
  | .null => tagNull
  | .bool _ => tagBool
  | .integer _ => tagInteger
  | .float _ => tagFloat
  | .string _ => tagString
  | .bytes _ => tagBytes
  | .array _ => tagArray
  | .map _ => tagMap
  | .handle _ => tagHandle
  | .error _ => tagError

end RuntimeHost.Sdk
