import ServiceOS.Foundation.ByteString
import ServiceOS.Foundation.Checked
import ServiceOS.Foundation.Fallible

/-! # Vocabulary of the SSH transport

The reasons, errors, roles and states of `error.rs` and `transport.rs`, and the
cryptography the transport is built on. -/

namespace ServiceOS.Ssh

open ByteString

inductive DisconnectReason
  | hostNotPermitted
  | protocolError
  | keyExchangeFailed
  | macError
  | compressionError
  | serviceNotAvailable
  | protocolVersionNotSupported
  | hostKeyNotVerifiable
  | byApplication
deriving DecidableEq

def DisconnectReason.code : DisconnectReason → Nat
  | .hostNotPermitted => 1
  | .protocolError => 2
  | .keyExchangeFailed => 3
  | .macError => 5
  | .compressionError => 6
  | .serviceNotAvailable => 7
  | .protocolVersionNotSupported => 8
  | .hostKeyNotVerifiable => 9
  | .byApplication => 11

inductive Fail
  | localDisconnect (reason : DisconnectReason) (description : String)
  | peerDisconnect (reasonCode : Nat)
  | outOfCapacity
  | notReady
  | closed
deriving DecidableEq

inductive Role
  | server
  | client
deriving DecidableEq

inductive State
  | versionExchange
  | kexInit
  | kexReply
  | newKeys
  | established
  | closed
deriving DecidableEq

/-- The functions of `serviceos_crypto` the transport calls. What is proved holds
for any functions of these types. -/
class Crypto where
  block (key : Bytes 32) (counter : Nat) (nonce : Bytes 12) : Bytes 64
  /-- The tag of a message, in however many pieces it is absorbed. -/
  poly1305 (key : Bytes 32) (message : Octets) : Bytes 16
  sha256 (message : Octets) : Bytes 32
  x25519 (secret peerPublic : Bytes 32) : Bytes 32
  x25519Public (seed : Bytes 32) : Bytes 32
  publicKey (seed : Bytes 32) : Bytes 32
  sign (seed : Bytes 32) (message : Octets) : Bytes 64
  verify (publicKey : Bytes 32) (message : Octets) (signature : Bytes 64) : Bool

namespace Crypto

variable [Crypto]

/-- The keystream byte at a position, counted from the block `counter` on. -/
def keystream (key : Bytes 32) (counter : Nat) (nonce : Bytes 12) (position : Nat) : UInt8 :=
  (block key ((counter + position / 64) % 2 ^ 32) nonce).val.getD (position % 64) 0

def chacha20 (key : Bytes 32) (counter : Nat) (nonce : Bytes 12) (data : Octets) : Octets :=
  mask (keystream key counter nonce) 0 data

@[simp] theorem length_chacha20 (key : Bytes 32) (counter : Nat) (nonce : Bytes 12)
    (data : Octets) : (chacha20 key counter nonce data).length = data.length :=
  length_mask _ _ _

@[simp] theorem chacha20_chacha20 (key : Bytes 32) (counter : Nat) (nonce : Bytes 12)
    (data : Octets) : chacha20 key counter nonce (chacha20 key counter nonce data) = data :=
  mask_mask _ _ _

end Crypto
end ServiceOS.Ssh
