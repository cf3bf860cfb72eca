import RuntimeHost.Foundation.Result
import RuntimeHost.Sdk.Value

namespace RuntimeHost.Sdk

open Foundation

structure Decoder where
  input : List UInt8
  offset : Nat := 0
  contentBytes : Nat := 0
  values : Nat := 0

abbrev Decode := StateT Decoder (Except Error)

namespace Decoder

def byte : Decode UInt8 := do
  let d ← get
  match d.input[d.offset]? with
  | none => throw invalidResult
  | some b =>
    set { d with offset := d.offset + 1 }
    return b

def expect (expected : UInt8) : Decode Unit := do
  let b ← byte
  if b = expected then return () else throw invalidResult

-- An overflowing `checked_add` lies beyond the slice, so the range check alone decides.
def take (length : Nat) : Decode (List UInt8) := do
  let d ← get
  if d.offset + length ≤ d.input.length then
    set { d with offset := d.offset + length }
    return (d.input.drop d.offset).take length
  else throw invalidResult

def length : Decode Nat := do
  let bytes ← take 4
  return ofBigEndian bytes

def word : Decode UInt64 := do
  let bytes ← take 8
  return ofBe64 bytes

def addContent (length individualLimit : Nat) : Decode Unit := do
  if length > individualLimit then throw invalidResult
  else
    let d ← get
    if d.contentBytes + length > maxTotalContentBytes then throw invalidResult
    else set { d with contentBytes := d.contentBytes + length }

def stringLength (limit : Nat) : Decode Nat := do
  expect 0xdb
  let n ← length
  if n > limit then throw invalidResult else return n

def readString (length : Nat) : Decode String := do
  let bytes ← take length
  okOr invalidResult (ofUtf8 bytes)

def string (limit : Nat) : Decode String := do
  let n ← stringLength limit
  addContent n limit
  readString n

def metadataString (limit : Nat) : Decode String := do
  let n ← stringLength limit
  readString n

def containerLength : Decode Nat := do
  expect 0xdd
  let n ← length
  if n > maxContainerEntries then throw invalidResult else return n

def uint64 : Decode UInt64 := do
  expect 0xcf
  word

def elements {α : Type} (item : Decode α) : Nat → Decode (List α)
  | 0 => return []
  | n + 1 => do
    let x ← item
    let xs ← elements item n
    return x :: xs

def entries (item : Decode Value) : Nat → List String → Decode (List (String × Value))
  | 0, _ => return []
  | n + 1, keys => do
    expect 0x92
    let key ← string maxStringBytes
    if key ∈ keys then throw invalidResult
    else
      let v ← item
      let es ← entries item n (key :: keys)
      return (key, v) :: es

/-- The arms of `match tag`; `item` reads one value a level deeper. -/
def payload (item : Decode Value) (tag : UInt8) : Decode Value :=
  if tag = tagNull then do
    expect 0xc0
    return .null
  else if tag = tagBool then do
    let b ← byte
    if b = 0xc2 then return .bool false
    else if b = 0xc3 then return .bool true
    else throw invalidResult
  else if tag = tagInteger then do
    expect 0xd3
    let w ← word
    return .integer w.toInt64
  else if tag = tagFloat then do
    expect 0xcb
    let w ← word
    if (Float64.mk w).isFinite then return .float ⟨w⟩ else throw invalidResult
  else if tag = tagString then do
    let s ← string maxStringBytes
    return .string s
  else if tag = tagBytes then do
    expect 0xc6
    let n ← length
    addContent n maxByteBytes
    let bs ← take n
    return .bytes bs
  else if tag = tagArray then do
    let n ← containerLength
    let vs ← elements item n
    return .array vs
  else if tag = tagMap then do
    let n ← containerLength
    let es ← entries item n []
    return .map es
  else if tag = tagHandle then do
    expect 0x93
    let objectId ← uint64
    let generation ← uint64
    let typeName ← metadataString 128
    let h ← orError invalidResult (HandleValue.new objectId generation typeName)
    return .handle h
  else if tag = tagError then do
    let encoded ← metadataString 128
    let code ← okOr invalidResult (BridgeErrorKind.fromWire encoded)
    return .error ⟨code⟩
  else throw invalidResult

def countValue : Decode Unit := do
  let d ← get
  if d.values ≥ maxTotalValues then throw invalidResult
  else set { d with values := d.values + 1 }

/-- `Decoder::value` at depth `MAX_DEPTH + 1 - levels`: no level is left once the depth is over the
    limit. -/
def value : (levels : Nat) → Decode Value
  | 0 => throw invalidResult
  | levels + 1 => do
    countValue
    expect 0x92
    let t ← byte
    payload (value levels) t

end Decoder

def Value.fromWire (input : List UInt8) : Except Error Value := do
  let (v, d) ← (Decoder.value (maxDepth + 1)).run { input }
  if d.offset = d.input.length then return v else throw invalidResult

end RuntimeHost.Sdk
