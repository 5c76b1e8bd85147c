import SquareSums.Query

/-! A stream as the schedule of what its reads deliver. Interrupted reads are repeated; any other
failure ends the reading and discards what came before it. -/

namespace SquareSums

inductive Delivery where
  | chunk (bytes : ByteArray)
  | interrupted
  | failure (reason : String)

/-- Bytes that are delivered all at once. -/
instance : Coe ByteArray (List Delivery) := ⟨fun bytes => [.chunk bytes]⟩

namespace Delivery

def gather (read : ByteArray) : List Delivery → Except String ByteArray
  | [] => .ok read
  | .chunk bytes :: later => gather (read ++ bytes) later
  | .interrupted :: later => gather read later
  | .failure reason :: _ => .error reason

def readAll (deliveries : List Delivery) : Except String ByteArray := gather ByteArray.empty deliveries

end Delivery

/-- A failed read is reported before any complaint about the encoding. -/
def Query.ofStream (deliveries : List Delivery) : Except Fault Query :=
  match Delivery.readAll deliveries with
  | .error reason => .error (.unreadable reason)
  | .ok bytes => ofBytes bytes

end SquareSums
