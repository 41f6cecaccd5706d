import Cvbd.WireCore

/-!
The `send_*` functions of the two client classes: each fills the one request
buffer of the client and yields the request the server will find in it. The
blocking `message_queue::send` itself is a step of the system the client runs in.
-/

namespace Cvbd

structure SharedMemClient where
  volumeName : Name
  volume : UInt64
  id : UInt64
  requestMsg : Bytes

namespace SharedMemClient

/-- Fill the request buffer under the next id and hand the message over. -/
def post (client : SharedMemClient) (build : Bytes → UInt64 → Message) : Request × SharedMemClient :=
  let id := client.id + 1
  let message := build client.requestMsg id
  (Wire.viewRequest message.bytes, { client with id, requestMsg := message.bytes })

def sendOpen (client : SharedMemClient) : Request × SharedMemClient :=
  client.post fun old id =>
    Wire.openMessage old id client.volume 0 client.volumeName client.volumeName

def sendClose (client : SharedMemClient) : Request × SharedMemClient :=
  client.post fun old id => Wire.headerMessage old .reqClose id client.volume 0

def sendGetsize (client : SharedMemClient) : Request × SharedMemClient :=
  client.post fun old id => Wire.headerMessage old .reqGetsize id client.volume 0

/-- Aborts when the data does not fit into one message. -/
def sendWrite (client : SharedMemClient) (message : Bytes) (sizeInBytes : UInt64) (offset : Int64) :
    Option (Request × SharedMemClient) :=
  if sizeInBytes.toNat ≤ maxDataSize then
    some (client.post fun old id =>
      Wire.writeMessage old id client.volume 0 offset sizeInBytes message)
  else none

def sendRead (client : SharedMemClient) (sizeInBytes : UInt64) (offset : Int64) :
    Option (Request × SharedMemClient) :=
  if sizeInBytes.toNat ≤ maxDataSize then
    some (client.post fun old id => Wire.readMessage old id client.volume 0 offset sizeInBytes)
  else none

/-- The part of `send_read` after the reply has been received: its two asserts and the number of
bytes copied out. -/
def acceptRead (sizeInBytes : UInt64) : Reply → Option Bytes
  | .read reply =>
      if reply.header.type = .reqRead ∧ sizeInBytes = reply.sizeInBytes then some reply.data
      else none
  | .openVolume _ | .getsize _ | .fsync _ => none

/-! Requests of the asynchronous client carry the address of a control block. -/

def sendReadv (client : SharedMemClient) (offset : Int64) (size acb : UInt64) :
    Option (Request × SharedMemClient) :=
  if size.toNat ≤ maxDataSize then
    some (client.post fun old id => Wire.readMessage old id client.volume acb offset size)
  else none

def sendWritev (client : SharedMemClient) (offset : Int64) (size acb : UInt64) (gathered : Bytes) :
    Option (Request × SharedMemClient) :=
  if size.toNat ≤ maxDataSize then
    some (client.post fun old id => Wire.writeMessage old id client.volume acb offset size gathered)
  else none

def sendFsync (client : SharedMemClient) (acb : UInt64) : Request × SharedMemClient :=
  client.post fun old id => Wire.headerMessage old .reqFsync id client.volume acb

end SharedMemClient

end Cvbd
