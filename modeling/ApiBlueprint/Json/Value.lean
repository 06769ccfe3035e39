import ApiBlueprint.Number.Binary64

/-! JSON values. Numbers keep the three forms their readers tell apart: unsigned and negative
integers of 64 bits, and floating-point numbers for everything else. -/
namespace ApiBlueprint.Json

inductive Number where
  | natural (n : UInt64)
  | negative (n : Int64)
  | real (x : Number.Binary64)
  deriving DecidableEq, Repr

/-- Objects list their members in the byte order of the keys, each key once, when they come
from a text or from `Value.record`. -/
inductive Value where
  | null
  | bool (b : Bool)
  | number (n : Number)
  | string (s : String)
  | array (items : List Value)
  | object (members : List (String × Value))
  deriving Repr, Inhabited

abbrev Members := List (String × Value)

namespace Members

def get? (key : String) : Members → Option Value
  | [] => none
  | (k, v) :: rest => if k = key then some v else get? key rest

def contains (key : String) (members : Members) : Bool := (members.get? key).isSome

/-- Put a member at its place in key order. A key already there takes the new value. -/
def insert (key : String) (value : Value) : Members → Members
  | [] => [(key, value)]
  | (k, v) :: rest =>
    if key = k then (key, value) :: rest
    else if key < k then (key, value) :: (k, v) :: rest
    else (k, v) :: insert key value rest

end Members

namespace Value

/-- An object with the given members in key order. -/
def record (members : List (String × Value)) : Value :=
  .object (members.foldl (fun ms m => Members.insert m.1 m.2 ms) [])

def get? (key : String) : Value → Option Value
  | .object members => Members.get? key members
  | _ => none

def ofNat64 (n : UInt64) : Value := .number (.natural n)

def ofNat32 (n : UInt32) : Value := .ofNat64 n.toUInt64

def ofInt64 (n : Int64) : Value :=
  .number (if n < 0 then .negative n else .natural n.toUInt64)

def ofInt32 (n : Int32) : Value := .ofInt64 n.toInt64

def string? : Value → Option String
  | .string s => some s
  | _ => none

def nat64? : Value → Option UInt64
  | .number (.natural n) => some n
  | _ => none

def int64? : Value → Option Int64
  | .number (.natural n) => if n.toNat < 0x8000000000000000 then some n.toInt64 else none
  | .number (.negative n) => some n
  | _ => none

/-- Keep only the members that are there. -/
def sparse (members : List (String × Option Value)) : Value :=
  record (members.filterMap fun m => m.2.map fun v => (m.1, v))

end Value
end ApiBlueprint.Json
