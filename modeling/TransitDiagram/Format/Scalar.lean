import TransitDiagram.Clock
import TransitDiagram.Json.Schema
import TransitDiagram.Node

/-!
# Schemas of keys and whole numbers

Whole numbers are read where they fit their type. Keys of nodes are unions.
-/

namespace TransitDiagram

namespace Schema

def natural : Schema Nat :=
  .through .whole Int.toNat? Int.ofNat

/-- Whole numbers of 64 bits with a sign. -/
def int64 : Schema Int64 :=
  .through .whole
    (fun n =>
      if -9223372036854775808 ≤ n ∧ n < 9223372036854775808 then some (Int64.ofInt n) else none)
    Int64.toInt

/-- Whole numbers of 32 bits with a sign. -/
def int32 : Schema Int32 :=
  .through .whole
    (fun n => if -2147483648 ≤ n ∧ n < 2147483648 then some (Int32.ofInt n) else none)
    Int32.toInt

/-- Whole numbers of 32 bits without a sign. -/
def uint32 : Schema UInt32 :=
  .through .whole
    (fun n => if 0 ≤ n ∧ n < 4294967296 then some (UInt32.ofNat n.toNat) else none)
    (fun n => Int.ofNat n.toNat)

end Schema

def EntityKey.schema : Schema EntityKey :=
  .through .text (fun s => some ⟨s⟩) EntityKey.text

def Sentinel.schema : Schema Sentinel :=
  .word Sentinel.all Sentinel.name

def Side.schema : Schema Side :=
  .word Side.all Side.name

/-- The key of a node says whether it is real. -/
def NodeKey.schema : Schema NodeKey :=
  .union <|
    .cons "real" NodeKey.entity? (.required "id" id EntityKey.schema .nil)
      (fun (entity, ()) => .real entity) <|
    .cons "sentinel" NodeKey.sentinel? (.required "tag" id Sentinel.schema .nil)
      (fun (kind, ()) => .sentinel kind) .nil

/-- A clock time is its hour and its minute. -/
def ClockTime.schema : Schema ClockTime :=
  .record (.required "hour" ClockTime.hour .uint32 <|
    .required "minute" ClockTime.minute .uint32 .nil)
    fun (hour, minute, ()) => ⟨hour, minute⟩

end TransitDiagram
