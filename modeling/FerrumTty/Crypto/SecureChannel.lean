import FerrumTty.Library.BigEndian

/-!
# Authenticated datagram envelopes

The channel of `ferrumtty-crypto`: one outbound nonce sequence coupled with an
authenticated inbound opener. The AES-128-OCB3 cipher is a library outside this
repository, so it is a parameter; what the channel relies on is `LawfulAead`.
-/

namespace FerrumTty.Crypto

set_option autoImplicit false

abbrev Bytes := List UInt8

def SESSION_KEY_BYTES : Nat := 16
def PACKET_PREFIX_BYTES : Nat := 8
def OCB_NONCE_BYTES : Nat := 12
def OCB_TAG_BYTES : Nat := 16
def DIRECTION_BIT : UInt64 := (1 : UInt64) <<< 63
def MAX_COUNTER : UInt64 := DIRECTION_BIT - 1
def MINIMUM_PACKET_BYTES : Nat := PACKET_PREFIX_BYTES + OCB_TAG_BYTES

structure SessionKey where
  bytes : Bytes
  length_eq : bytes.length = SESSION_KEY_BYTES
  deriving DecidableEq

/-- The cipher the channel is instantiated with. A key is expanded on each use,
so a cipher value is its key; arguments are the key, the nonce and the data. -/
structure Aead where
  encrypt : SessionKey → Bytes → Bytes → Option Bytes
  decrypt : SessionKey → Bytes → Bytes → Option Bytes

structure LawfulAead (aead : Aead) : Prop where
  decrypt_encrypt : ∀ key nonce plaintext ciphertext,
    aead.encrypt key nonce plaintext = some ciphertext →
      aead.decrypt key nonce ciphertext = some plaintext
  ciphertext_length : ∀ key nonce plaintext ciphertext,
    aead.encrypt key nonce plaintext = some ciphertext →
      ciphertext.length = plaintext.length + OCB_TAG_BYTES

def zeroKey : SessionKey where
  bytes := List.replicate SESSION_KEY_BYTES 0
  length_eq := List.length_replicate

def tagOf (key : SessionKey) (nonce : Bytes) : Bytes :=
  key.bytes.zipWith (· ^^^ ·) (nonce ++ List.replicate (OCB_TAG_BYTES - OCB_NONCE_BYTES) 0)

/-- A cipher without secrecy that keeps the shape of OCB: it takes twelve-byte nonces
only and appends a sixteen-byte tag that depends on the key and the nonce. -/
def taggingAead : Aead where
  encrypt key nonce plaintext :=
    if nonce.length = OCB_NONCE_BYTES then some (plaintext ++ tagOf key nonce) else none
  decrypt key nonce ciphertext :=
    let split := ciphertext.length - OCB_TAG_BYTES
    if nonce.length = OCB_NONCE_BYTES ∧ ciphertext.drop split = tagOf key nonce then
      some (ciphertext.take split)
    else none

theorem tag_length (key : SessionKey) {nonce : Bytes} (width : nonce.length = OCB_NONCE_BYTES) :
    (tagOf key nonce).length = OCB_TAG_BYTES := by
  rw [tagOf, List.length_zipWith, List.length_append, List.length_replicate, key.length_eq, width]
  rfl

theorem tagging_encrypts (key : SessionKey) {nonce : Bytes} (width : nonce.length = OCB_NONCE_BYTES)
    (plaintext : Bytes) :
    taggingAead.encrypt key nonce plaintext = some (plaintext ++ tagOf key nonce) := by
  simp [taggingAead, width]

theorem lawful_tagging_aead : LawfulAead taggingAead where
  decrypt_encrypt key nonce plaintext ciphertext encrypted := by
    simp only [taggingAead, Option.ite_none_right_eq_some, Option.some.injEq] at encrypted
    obtain ⟨width, rfl⟩ := encrypted
    have split : (plaintext ++ tagOf key nonce).length - OCB_TAG_BYTES = plaintext.length := by
      rw [List.length_append, tag_length key width, Nat.add_sub_cancel]
    simp only [taggingAead, split]
    rw [if_pos ⟨width, List.drop_left⟩, List.take_left]
  ciphertext_length key nonce plaintext ciphertext encrypted := by
    simp only [taggingAead, Option.ite_none_right_eq_some, Option.some.injEq] at encrypted
    obtain ⟨width, rfl⟩ := encrypted
    rw [List.length_append, tag_length key width]

inductive PeerRole where
  | client
  | server
  deriving DecidableEq, Repr

def PeerRole.opposite : PeerRole → PeerRole
  | .client => .server
  | .server => .client

inductive PacketDirection where
  | clientToServer
  | serverToClient
  deriving DecidableEq, Repr

namespace PacketDirection

def forOutbound : PeerRole → PacketDirection
  | .client => .clientToServer
  | .server => .serverToClient

def forInbound : PeerRole → PacketDirection
  | .client => .serverToClient
  | .server => .clientToServer

def encode : PacketDirection → UInt64 → UInt64
  | .clientToServer, counter => counter
  | .serverToClient, counter => counter ||| DIRECTION_BIT

def decode (value : UInt64) : PacketDirection × UInt64 :=
  (if value &&& DIRECTION_BIT = 0 then .clientToServer else .serverToClient, value &&& MAX_COUNTER)

theorem for_inbound_opposite (role : PeerRole) : forInbound role.opposite = forOutbound role := by
  cases role <;> rfl

theorem for_inbound_ne_outbound (role : PeerRole) : forInbound role ≠ forOutbound role := by
  cases role <;> decide

end PacketDirection

inductive SealError where
  | counterExhausted
  | encryptionFailed
  deriving DecidableEq, Repr

inductive OpenError where
  | packetTooShort
  | authenticationFailed
  | unexpectedDirection
  deriving DecidableEq, Repr

structure AuthenticatedPacket where
  counter : UInt64
  plaintext : Bytes
  deriving DecidableEq, Repr

def makeNonce (packetPrefix : Bytes) : Bytes :=
  List.replicate (OCB_NONCE_BYTES - PACKET_PREFIX_BYTES) 0 ++ packetPrefix

def checkedAdd (left right : UInt64) : Option UInt64 :=
  if left.toNat + right.toNat < 2 ^ 64 then some (left + right) else none

structure SecureChannel where
  outboundCipher : SessionKey
  inboundCipher : SessionKey
  outboundDirection : PacketDirection
  inboundDirection : PacketDirection
  nextCounter : Option UInt64
  deriving DecidableEq

namespace SecureChannel

def new (role : PeerRole) (key : SessionKey) : SecureChannel where
  outboundCipher := key
  inboundCipher := key
  outboundDirection := .forOutbound role
  inboundDirection := .forInbound role
  nextCounter := some 0

/-- The eight prefix bytes that `seal_next` puts before the ciphertext. -/
def packetPrefix (channel : SecureChannel) (counter : UInt64) : Bytes :=
  BigEndian.encode PACKET_PREFIX_BYTES (channel.outboundDirection.encode counter).toNat

/-- The counter after a successful seal: `checked_add(1)` kept below the direction bit. -/
def counterAfter (counter : UInt64) : Option UInt64 :=
  (checkedAdd counter 1).filter fun next => next ≤ MAX_COUNTER

def sealNext (aead : Aead) (channel : SecureChannel) (plaintext : Bytes) :
    Except SealError Bytes × SecureChannel :=
  match channel.nextCounter with
  | none => (.error .counterExhausted, channel)
  | some counter =>
      let sealPrefix := channel.packetPrefix counter
      match aead.encrypt channel.outboundCipher (makeNonce sealPrefix) plaintext with
      | none => (.error .encryptionFailed, channel)
      | some ciphertext =>
          (.ok (sealPrefix ++ ciphertext), { channel with nextCounter := counterAfter counter })

/-- `open` of the source, under a name that is no keyword here. -/
def openPacket (aead : Aead) (channel : SecureChannel) (packet : Bytes) :
    Except OpenError AuthenticatedPacket :=
  if packet.length < MINIMUM_PACKET_BYTES then .error .packetTooShort
  else
    let packetPrefix := packet.take PACKET_PREFIX_BYTES
    let (direction, counter) := PacketDirection.decode (UInt64.ofNat (BigEndian.decode packetPrefix))
    match aead.decrypt channel.inboundCipher (makeNonce packetPrefix)
        (packet.drop PACKET_PREFIX_BYTES) with
    | none => .error .authenticationFailed
    | some plaintext =>
        if direction ≠ channel.inboundDirection then .error .unexpectedDirection
        else .ok { counter, plaintext }

end SecureChannel

end FerrumTty.Crypto
