import RuntimeHost.Sdk.Value

namespace RuntimeHost.Sdk

open Foundation

structure Encoder where
  output : List UInt8 := []
  contentBytes : Nat := 0
  values : Nat := 0

abbrev Encode := StateT Encoder (Except Error)

namespace Encoder

def extend (bytes : List UInt8) : Encode Unit :=
  modify fun e => { e with output := e.output ++ bytes }

def writeLength (length : Nat) : Encode Unit :=
  if length < 2 ^ 32 then extend (be32 length) else throw invalidArgument

-- `checked_add` cannot be told apart from the limit check: both give `invalid_argument`.
def addContent (length individualLimit : Nat) : Encode Unit := do
  if length > individualLimit then throw invalidArgument
  else
    let e ← get
    if e.contentBytes + length > maxTotalContentBytes then throw invalidArgument
    else set { e with contentBytes := e.contentBytes + length }

def writeString (value : String) : Encode Unit := do
  extend [0xdb]
  writeLength (utf8 value).length
  extend (utf8 value)

def string (value : String) (limit : Nat) : Encode Unit := do
  addContent (utf8 value).length limit
  writeString value

def metadataString (value : String) (limit : Nat) : Encode Unit :=
  if (utf8 value).length > limit then throw invalidArgument else writeString value

def containerLength (length : Nat) : Encode Unit :=
  if length > maxContainerEntries then throw invalidArgument
  else do
    extend [0xdd]
    writeLength length

def uint64 (value : UInt64) : Encode Unit := do
  extend [0xcf]
  extend (be64 value)

def enter (tag : UInt8) (depth : Nat) : Encode Unit := do
  let e ← get
  if depth > maxDepth ∨ e.values ≥ maxTotalValues then throw invalidArgument
  else
    set { e with values := e.values + 1 }
    extend [0x92, tag]

mutual

def value (v : Value) (depth : Nat) : Encode Unit := do
  enter (tag v) depth
  match v with
  | .null => extend [0xc0]
  | .bool b => extend [if b then 0xc3 else 0xc2]
  | .integer i => do
    extend [0xd3]
    extend (be64 i.toUInt64)
  | .float x =>
    if x.isFinite then do
      extend [0xcb]
      extend (be64 x.bits)
    else throw invalidArgument
  | .string s => string s maxStringBytes
  | .bytes bs => do
    addContent bs.length maxByteBytes
    extend [0xc6]
    writeLength bs.length
    extend bs
  | .array vs => do
    containerLength vs.length
    elements vs (depth + 1)
  | .map es => do
    containerLength es.length
    entries es (depth + 1) []
  | .handle h => do
    let _ ← HandleValue.new h.objectId h.generation h.typeName
    extend [0x93]
    uint64 h.objectId
    uint64 h.generation
    metadataString h.typeName 128
  | .error e => metadataString e.code.wireCode 128

def elements (vs : List Value) (depth : Nat) : Encode Unit :=
  match vs with
  | [] => pure ()
  | v :: vs => do
    value v depth
    elements vs depth

/-- `for (key, value) in entries`, with the keys already inserted in the set. -/
def entries (es : List (String × Value)) (depth : Nat) (keys : List String) : Encode Unit :=
  match es with
  | [] => pure ()
  | (key, v) :: es =>
    if key ∈ keys then throw invalidArgument
    else do
      extend [0x92]
      string key maxStringBytes
      value v depth
      entries es depth (key :: keys)

end

end Encoder

def Value.toWire (v : Value) : Except Error (List UInt8) := do
  let (_, e) ← (Encoder.value v 0).run {}
  return e.output

end RuntimeHost.Sdk
