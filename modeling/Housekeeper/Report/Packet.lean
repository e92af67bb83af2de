import Housekeeper.Dataset.Wire

/-!
# Housekeeping packets

A full packet is a header (object id, set id, validity of the set) and the wire format of the set.
The header can be read without knowing how the set is made up, and so can the validity mask, once
the number of variables is known.
-/

namespace Housekeeper

/-- Bytes of object id, set id and validity flag. -/
def packetHeaderSize : Nat := 9

/-- The most variables whose validity bits are handed out at once. -/
def maxMaskBits : Nat := 256

/-- A data set under the id that it is reported by. -/
structure HkPacket where
  sid : Sid
  set : Dataset

namespace HkPacket

def flagByte (flag : Bool) : UInt8 := if flag then 1 else 0

def headerPieces (sid : Sid) (valid : Bool) (order : ByteOrder) : List Bytes :=
  [order.encode 4 sid.object.toNat, order.encode 4 sid.set.toNat, [flagByte valid]]

def wireSize (packet : HkPacket) : Nat := packetHeaderSize + packet.set.wireSize

def serialize (packet : HkPacket) (writer : Writer) (order : ByteOrder) :
    Except PoolError Unit × Writer :=
  if writer.remaining < packet.wireSize then (.error .bufferTooShort, writer)
  else
    match writer.writeAll (headerPieces packet.sid packet.set.valid order) with
    | (.ok (), next) => packet.set.serialize next order
    | (.error e, next) => (.error e, next)

def toBytes (packet : HkPacket) (order : ByteOrder) : Except PoolError Bytes :=
  Writer.collect packet.wireSize fun writer => packet.serialize writer order

/-- Both halves of an id. -/
def readSid (reader : Reader) (order : ByteOrder) : Except PoolError Sid × Reader :=
  match reader.readWord order with
  | (.error e, next) => (.error e, next)
  | (.ok object, next) =>
    match next.readWord order with
    | (.error e, last) => (.error e, last)
    | (.ok set, last) => (.ok ⟨object, set⟩, last)

/-- What was read before a failure stays. -/
def deserialize (packet : HkPacket) (reader : Reader) (order : ByteOrder) :
    Except PoolError Unit × HkPacket × Reader :=
  match readSid reader order with
  | (.error e, next) => (.error e, packet, next)
  | (.ok sid, next) =>
    match next.readFlag with
    | (.error e, next) => (.error e, ⟨sid, packet.set⟩, next)
    | (.ok valid, next) =>
      let (result, set, last) := (packet.set.withValidity valid).deserialize next order
      (result, ⟨sid, set⟩, last)

end HkPacket

structure PacketHeader where
  sid : Sid
  valid : Bool
deriving DecidableEq

namespace PacketHeader

/-- The header of a packet, and what follows it. -/
def parse (bytes : Bytes) (order : ByteOrder) : Except PoolError (PacketHeader × Bytes) :=
  match HkPacket.readSid (Reader.ofBytes bytes) order with
  | (.error e, _) => .error e
  | (.ok sid, next) =>
    match next.readFlag with
    | (.error e, _) => .error e
    | (.ok valid, last) => .ok (⟨sid, valid⟩, last.rest)

end PacketHeader

/-- The validity bits of `count` variables. -/
def decodeMask (mask : Bytes) (count : Nat) : Except PoolError (List Bool) :=
  if maxMaskBits < count then .error .bufferTooShort
  else if mask.length < maskLength count then .error .streamTooShort
  else .ok ((List.range count).map (maskBit mask))

end Housekeeper
