import FerrumTty.Crypto.SecureChannel
import FerrumTty.Library.BTreeMap
import FerrumTty.Library.Chunks

/-!
# Authenticated plaintext fragments

The fragment half of `ferrumtty-wire`: the fixed 14-byte prefix, the split of a
compressed message at the 1214-byte boundary, and the bounded accumulator for one
state identifier.
-/

namespace FerrumTty.Wire

set_option autoImplicit false

open Crypto

def FRAGMENT_HEADER_BYTES : Nat := 14
def FINAL_FRAGMENT_BIT : UInt16 := (1 : UInt16) <<< 15
def FRAGMENT_INDEX_MASK : UInt16 := FINAL_FRAGMENT_BIT - 1
def MAX_FRAGMENT_BODY_BYTES : Nat := 1214
def MAX_RECEIVED_FRAGMENT_BODY_BYTES : Nat := 1300

structure FragmentHeader where
  sentTimestamp : UInt16
  echoedTimestamp : UInt16
  stateId : UInt64
  index : UInt16
  isFinal : Bool
  deriving DecidableEq, Repr

structure Fragment where
  header : FragmentHeader
  body : Bytes
  deriving DecidableEq, Repr

inductive FragmentError where
  | headerTooShort
  | bodyTooLarge
  | tooManyFragments
  | mismatchedState
  | indexAfterFinal
  | conflictingFinalIndex
  | conflictingDuplicate
  | messageTooLarge
  | missingFragment
  deriving DecidableEq, Repr

def readWord16 (bytes : Bytes) : UInt16 := UInt16.ofNat (BigEndian.decode bytes)

def readWord64 (bytes : Bytes) : UInt64 := UInt64.ofNat (BigEndian.decode bytes)

def writeWord16 (value : UInt16) : Bytes := BigEndian.encode 2 value.toNat

def writeWord64 (value : UInt64) : Bytes := BigEndian.encode 8 value.toNat

namespace Fragment

def parse (plaintext : Bytes) : Except FragmentError Fragment :=
  if plaintext.length < FRAGMENT_HEADER_BYTES then .error .headerTooShort
  else
    let fragmentWord := readWord16 ((plaintext.drop 12).take 2)
    let header : FragmentHeader :=
      { sentTimestamp := readWord16 (plaintext.take 2)
        echoedTimestamp := readWord16 ((plaintext.drop 2).take 2)
        stateId := readWord64 ((plaintext.drop 4).take 8)
        index := fragmentWord &&& FRAGMENT_INDEX_MASK
        isFinal := fragmentWord &&& FINAL_FRAGMENT_BIT ≠ 0 }
    let body := plaintext.drop FRAGMENT_HEADER_BYTES
    if body.length > MAX_RECEIVED_FRAGMENT_BODY_BYTES then .error .bodyTooLarge
    else .ok { header, body }

def fragmentWord (header : FragmentHeader) : UInt16 :=
  (header.index &&& FRAGMENT_INDEX_MASK) ||| if header.isFinal then FINAL_FRAGMENT_BIT else 0

def encode (fragment : Fragment) : Bytes :=
  writeWord16 fragment.header.sentTimestamp ++ writeWord16 fragment.header.echoedTimestamp ++
    writeWord64 fragment.header.stateId ++ writeWord16 (fragmentWord fragment.header) ++
    fragment.body

/-- `message.len().max(1).div_ceil(MAX_FRAGMENT_BODY_BYTES)` -/
def chunkCount (message : Bytes) : Nat :=
  Chunks.count MAX_FRAGMENT_BODY_BYTES (max message.length 1)

def piece (message : Bytes) (sentTimestamp echoedTimestamp : UInt16) (stateId : UInt64)
    (index : Nat) (body : Bytes) : Except FragmentError Fragment :=
  if index < 2 ^ 16 then
    .ok
      { header :=
          { sentTimestamp, echoedTimestamp, stateId
            index := UInt16.ofNat index
            isFinal := index + 1 = chunkCount message }
        body }
  else .error .tooManyFragments

def split (message : Bytes) (sentTimestamp echoedTimestamp : UInt16) (stateId : UInt64) :
    Except FragmentError (List Fragment) :=
  if chunkCount message > FRAGMENT_INDEX_MASK.toNat + 1 then .error .tooManyFragments
  else if message.isEmpty then
    .ok
      [{ header := { sentTimestamp, echoedTimestamp, stateId, index := 0, isFinal := true }
         body := [] }]
  else
    ((Chunks.chunks MAX_FRAGMENT_BODY_BYTES message).zipIdx).mapM fun (body, index) =>
      piece message sentTimestamp echoedTimestamp stateId index body

end Fragment

structure FragmentAccumulator where
  stateId : UInt64
  maximumMessageBytes : Nat
  fragments : BTreeMap UInt16 Bytes
  finalIndex : Option UInt16
  totalBytes : Nat

namespace FragmentAccumulator

def new (stateId : UInt64) (maximumMessageBytes : Nat) : FragmentAccumulator where
  stateId := stateId
  maximumMessageBytes := maximumMessageBytes
  fragments := ∅
  finalIndex := none
  totalBytes := 0

def collectBodies (accumulator : FragmentAccumulator) (count : Nat) : Option (List Bytes) :=
  (List.range count).mapM fun index => accumulator.fragments.lookup (UInt16.ofNat index)

def tryComplete (accumulator : FragmentAccumulator) : Except FragmentError (Option Bytes) :=
  match accumulator.finalIndex with
  | none => .ok none
  | some finalIndex =>
      if accumulator.fragments.len ≠ finalIndex.toNat + 1 then .ok none
      else
        match accumulator.collectBodies (finalIndex.toNat + 1) with
        | none => .error .missingFragment
        | some bodies => .ok (some bodies.flatten)

/-- The part of `push` after the index checks. A message over the bound leaves the
grown `total_bytes` behind, as the source does. -/
def store (accumulator : FragmentAccumulator) (index : UInt16) (body : Bytes) :
    Except FragmentError (Option Bytes) × FragmentAccumulator :=
  match accumulator.fragments.lookup index with
  | some existing =>
      if existing = body then (accumulator.tryComplete, accumulator)
      else (.error .conflictingDuplicate, accumulator)
  | none =>
      let counted := { accumulator with totalBytes := accumulator.totalBytes + body.length }
      if counted.totalBytes > counted.maximumMessageBytes then (.error .messageTooLarge, counted)
      else
        let stored := { counted with fragments := counted.fragments.insert index body }
        (stored.tryComplete, stored)

def push (accumulator : FragmentAccumulator) (fragment : Fragment) :
    Except FragmentError (Option Bytes) × FragmentAccumulator :=
  let index := fragment.header.index
  if fragment.header.stateId ≠ accumulator.stateId then (.error .mismatchedState, accumulator)
  else if accumulator.finalIndex.any (fun finalIndex => index > finalIndex) then
    (.error .indexAfterFinal, accumulator)
  else if fragment.header.isFinal then
    if accumulator.finalIndex.any (fun finalIndex => finalIndex ≠ index) then
      (.error .conflictingFinalIndex, accumulator)
    else if accumulator.fragments.keys.any (fun stored => stored > index) then
      (.error .indexAfterFinal, accumulator)
    else { accumulator with finalIndex := some index }.store index fragment.body
  else accumulator.store index fragment.body

end FragmentAccumulator

end FerrumTty.Wire
