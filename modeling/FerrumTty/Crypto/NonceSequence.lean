import FerrumTty.Crypto.SecureChannel
import FerrumTty.Library.Runs
import Mathlib.Data.Nat.Bitwise
import Mathlib.Data.List.Nodup

/-!
# Nonce uniqueness and pairing of the two channels

The direction bit keeps the two senders' numbers apart and the counter keeps one
sender's apart, so the seals of any interleaving use distinct nonces. The counter
of a channel is a function of the number of its successful seals alone.
-/

namespace FerrumTty.Crypto

set_option autoImplicit false

open Runs

theorem direction_bit_to_nat : DIRECTION_BIT.toNat = 2 ^ 63 := by decide

theorem max_counter_to_nat : MAX_COUNTER.toNat = 2 ^ 63 - 1 := by decide

theorem le_max_counter_iff (counter : UInt64) : counter ≤ MAX_COUNTER ↔ counter.toNat < 2 ^ 63 := by
  rw [UInt64.le_iff_toNat_le, max_counter_to_nat]
  omega

theorem and_max_counter_to_nat (value : UInt64) :
    (value &&& MAX_COUNTER).toNat = value.toNat % 2 ^ 63 := by
  rw [UInt64.toNat_and, max_counter_to_nat, Nat.and_two_pow_sub_one_eq_mod]

theorem and_direction_bit_eq_zero_iff (value : UInt64) :
    value &&& DIRECTION_BIT = 0 ↔ value.toNat < 2 ^ 63 := by
  have bound : value.toNat < 2 ^ 64 := value.toNat_lt
  rw [← UInt64.toNat_inj, UInt64.toNat_and, direction_bit_to_nat, Nat.and_two_pow,
    Nat.testBit_eq_decide_div_mod_eq]
  by_cases bit : value.toNat / 2 ^ 63 % 2 = 1
  · simp only [bit, decide_true, Bool.toNat_true, UInt64.toNat_zero]
    omega
  · simp only [bit, decide_false, Bool.toNat_false, UInt64.toNat_zero]
    omega

namespace PacketDirection

theorem encode_to_nat (direction : PacketDirection) (counter : UInt64)
    (bounded : counter ≤ MAX_COUNTER) :
    (direction.encode counter).toNat =
      counter.toNat + if direction = .clientToServer then 0 else 2 ^ 63 := by
  have low := (le_max_counter_iff counter).mp bounded
  cases direction with
  | clientToServer => simp [encode]
  | serverToClient =>
      have joined := Nat.two_pow_add_eq_or_of_lt low 1
      rw [Nat.mul_one] at joined
      rw [encode, UInt64.toNat_or, direction_bit_to_nat, Nat.or_comm, ← joined, Nat.add_comm]
      simp

theorem decode_encode (direction : PacketDirection) (counter : UInt64)
    (bounded : counter ≤ MAX_COUNTER) :
    decode (direction.encode counter) = (direction, counter) := by
  have low := (le_max_counter_iff counter).mp bounded
  have number := encode_to_nat direction counter bounded
  have counterPart : direction.encode counter &&& MAX_COUNTER = counter := by
    apply UInt64.toNat.inj
    rw [and_max_counter_to_nat, number]
    split_ifs <;> omega
  have bit := and_direction_bit_eq_zero_iff (direction.encode counter)
  rw [number] at bit
  rw [decode, counterPart]
  cases direction with
  | clientToServer => rw [if_pos (bit.mpr (by simpa using low))]
  | serverToClient => rw [if_neg (fun zero => by simpa using bit.mp zero)]

end PacketDirection

theorem counter_after_eq (counter : UInt64) (bounded : counter ≤ MAX_COUNTER) :
    SecureChannel.counterAfter counter =
      if counter.toNat + 1 < 2 ^ 63 then some (UInt64.ofNat (counter.toNat + 1)) else none := by
  have low := (le_max_counter_iff counter).mp bounded
  have next : (counter + 1).toNat = counter.toNat + 1 := by
    rw [UInt64.toNat_add]
    exact Nat.mod_eq_of_lt (by simp; omega)
  have sameNext : counter + 1 = UInt64.ofNat (counter.toNat + 1) := by
    rw [← next, UInt64.ofNat_toNat]
  have noOverflow : counter.toNat + (1 : UInt64).toNat < 2 ^ 64 := by simp; omega
  rw [SecureChannel.counterAfter, checkedAdd, if_pos noOverflow, sameNext, Option.filter_some]
  simp only [le_max_counter_iff, ← sameNext, next, decide_eq_true_eq]

/-- The counter value after `count` successful seals: `count` itself, up to exhaustion. -/
def counterAt (count : Nat) : Option UInt64 :=
  if count < 2 ^ 63 then some (UInt64.ofNat count) else none

theorem counter_at_some {count : Nat} {counter : UInt64} (present : counterAt count = some counter) :
    counter.toNat = count ∧ counter ≤ MAX_COUNTER := by
  unfold counterAt at present
  split_ifs at present with low
  · have same : UInt64.ofNat count = counter := by simpa using present
    have number : counter.toNat = count := by
      rw [← same, UInt64.toNat_ofNat']
      exact Nat.mod_eq_of_lt (by omega)
    exact ⟨number, (le_max_counter_iff counter).mpr (by omega)⟩

theorem counter_at_after {count : Nat} {counter : UInt64}
    (present : counterAt count = some counter) :
    SecureChannel.counterAfter counter = counterAt (count + 1) := by
  obtain ⟨number, bounded⟩ := counter_at_some present
  rw [counter_after_eq counter bounded, number, counterAt]

/-- The channel of `role` under `key` once it has sealed `count` packets. -/
def channelAfter (role : PeerRole) (key : SessionKey) (count : Nat) : SecureChannel :=
  { SecureChannel.new role key with nextCounter := counterAt count }

theorem channel_after_zero (role : PeerRole) (key : SessionKey) :
    channelAfter role key 0 = SecureChannel.new role key := rfl

/-- What one call of `seal_next` can do: it fails and changes nothing, or it uses the
counter and moves to the next. -/
theorem seal_next_cases (aead : Aead) (role : PeerRole) (key : SessionKey) (count : Nat)
    (plaintext : Bytes) :
    (∃ error, (channelAfter role key count).sealNext aead plaintext =
        (.error error, channelAfter role key count) ∧
        (counterAt count = none → error = .counterExhausted)) ∨
      ∃ counter ciphertext, counterAt count = some counter ∧
        aead.encrypt key (makeNonce ((channelAfter role key count).packetPrefix counter)) plaintext =
          some ciphertext ∧
        (channelAfter role key count).sealNext aead plaintext =
          (.ok ((channelAfter role key count).packetPrefix counter ++ ciphertext),
            channelAfter role key (count + 1)) := by
  unfold SecureChannel.sealNext
  cases present : (channelAfter role key count).nextCounter with
  | none => exact Or.inl ⟨.counterExhausted, rfl, fun _ => rfl⟩
  | some counter =>
      have atCount : counterAt count = some counter := present
      cases encrypted : aead.encrypt (channelAfter role key count).outboundCipher
          (makeNonce ((channelAfter role key count).packetPrefix counter)) plaintext with
      | none =>
          refine Or.inl ⟨.encryptionFailed, by simp only [encrypted], fun missing => ?_⟩
          rw [atCount] at missing
          cases missing
      | some ciphertext =>
          refine Or.inr ⟨counter, ciphertext, atCount, encrypted, ?_⟩
          simp only [encrypted, counter_at_after atCount]
          rfl

/-- The counter and the nonce that a packet carries in its prefix. -/
def wireCounter (packet : Bytes) : UInt64 :=
  (PacketDirection.decode (UInt64.ofNat (BigEndian.decode (packet.take PACKET_PREFIX_BYTES)))).2

def wireNonce (packet : Bytes) : Bytes :=
  makeNonce (packet.take PACKET_PREFIX_BYTES)

theorem packet_prefix_take (channel : SecureChannel) (counter : UInt64) (ciphertext : Bytes) :
    (channel.packetPrefix counter ++ ciphertext).take PACKET_PREFIX_BYTES =
      channel.packetPrefix counter := by
  exact List.take_left' (BigEndian.encode_length _ _)

theorem packet_prefix_drop (channel : SecureChannel) (counter : UInt64) (ciphertext : Bytes) :
    (channel.packetPrefix counter ++ ciphertext).drop PACKET_PREFIX_BYTES = ciphertext := by
  exact List.drop_left' (BigEndian.encode_length _ _)

theorem packet_prefix_decode (channel : SecureChannel) (counter : UInt64)
    (bounded : counter ≤ MAX_COUNTER) :
    PacketDirection.decode (UInt64.ofNat (BigEndian.decode (channel.packetPrefix counter))) =
      (channel.outboundDirection, counter) := by
  have fits : (channel.outboundDirection.encode counter).toNat < 256 ^ PACKET_PREFIX_BYTES := by
    have bound := (channel.outboundDirection.encode counter).toNat_lt
    have width : 256 ^ PACKET_PREFIX_BYTES = 2 ^ 64 := by decide
    omega
  rw [SecureChannel.packetPrefix, BigEndian.decode_encode_of_lt fits, UInt64.ofNat_toNat,
    PacketDirection.decode_encode _ _ bounded]

/-- A sealed packet opens wherever the inbound cipher is the sealing one, unless the
direction differs; the reader's own counter plays no part. -/
theorem open_sealed (aead : Aead) (lawful : LawfulAead aead) (writer reader : SecureChannel)
    (counter : UInt64) (bounded : counter ≤ MAX_COUNTER) (plaintext ciphertext : Bytes)
    (sameKey : reader.inboundCipher = writer.outboundCipher)
    (encrypted : aead.encrypt writer.outboundCipher (makeNonce (writer.packetPrefix counter))
      plaintext = some ciphertext) :
    reader.openPacket aead (writer.packetPrefix counter ++ ciphertext) =
      if writer.outboundDirection ≠ reader.inboundDirection then .error .unexpectedDirection
      else .ok { counter, plaintext } := by
  have longEnough : ¬ (writer.packetPrefix counter ++ ciphertext).length < MINIMUM_PACKET_BYTES := by
    have tagged := lawful.ciphertext_length _ _ _ _ encrypted
    have prefixLength : (writer.packetPrefix counter).length = PACKET_PREFIX_BYTES :=
      BigEndian.encode_length _ _
    rw [List.length_append, prefixLength, tagged, MINIMUM_PACKET_BYTES]
    omega
  have decrypted := lawful.decrypt_encrypt _ _ _ _ encrypted
  rw [SecureChannel.openPacket, if_neg longEnough]
  simp only [packet_prefix_take, packet_prefix_drop, packet_prefix_decode _ _ bounded, sameKey,
    decrypted]

/-- One client and one server channel built from the same key. -/
structure ChannelPair where
  client : SecureChannel
  server : SecureChannel

namespace ChannelPair

def new (key : SessionKey) : ChannelPair where
  client := .new .client key
  server := .new .server key

def channel (pair : ChannelPair) : PeerRole → SecureChannel
  | .client => pair.client
  | .server => pair.server

def withChannel (pair : ChannelPair) : PeerRole → SecureChannel → ChannelPair
  | .client, channel => { pair with client := channel }
  | .server, channel => { pair with server := channel }

@[simp] theorem channel_with_channel (pair : ChannelPair) (role : PeerRole)
    (channel : SecureChannel) : (pair.withChannel role channel).channel role = channel := by
  cases role <;> rfl

theorem channel_with_other (pair : ChannelPair) {role other : PeerRole} (different : other ≠ role)
    (channel : SecureChannel) : (pair.withChannel role channel).channel other = pair.channel other := by
  cases role <;> cases other <;> first | rfl | exact absurd rfl different

@[simp] theorem with_channel_self (pair : ChannelPair) (role : PeerRole) :
    pair.withChannel role (pair.channel role) = pair := by
  cases role <;> rfl

/-- One call of `seal_next` on the channel of one of the two roles. -/
def sealCall (aead : Aead) (pair : ChannelPair) (call : PeerRole × Bytes) :
    Except SealError Bytes × ChannelPair :=
  let (result, channel) := (pair.channel call.1).sealNext aead call.2
  (result, pair.withChannel call.1 channel)

end ChannelPair

abbrev SealStep := Step ChannelPair (PeerRole × Bytes) (Except SealError Bytes)

def SealStep.packet? (event : SealStep) : Option Bytes := event.output.toOption

def sealedPackets (events : List SealStep) : List Bytes := events.filterMap SealStep.packet?

def packetsOf (role : PeerRole) (events : List SealStep) : List Bytes :=
  sealedPackets (events.filter fun event => event.input.1 = role)

section Run

variable (aead : Aead) (key : SessionKey)

def sealRun (calls : List (PeerRole × Bytes)) : List SealStep :=
  trace (ChannelPair.sealCall aead) (.new key) calls

def pairAfter (calls : List (PeerRole × Bytes)) : ChannelPair :=
  final (ChannelPair.sealCall aead) (.new key) calls

/-- The number a packet of `role` with the given counter carries in its prefix. -/
def prefixOf (role : PeerRole) (count : Nat) : Bytes :=
  BigEndian.encode PACKET_PREFIX_BYTES
    ((PacketDirection.forOutbound role).encode (UInt64.ofNat count)).toNat

theorem prefix_of_eq {role : PeerRole} {count : Nat} {counter : UInt64}
    (present : counterAt count = some counter) :
    (channelAfter role key count).packetPrefix counter = prefixOf role count := by
  obtain ⟨number, _⟩ := counter_at_some present
  rw [prefixOf, ← number, UInt64.ofNat_toNat]
  rfl

/-- Where a run stands: how many packets each role has sealed, and under which prefixes. -/
structure SealedSoFar (calls : List (PeerRole × Bytes)) (role : PeerRole) : Prop where
  channel : (pairAfter aead key calls).channel role =
    channelAfter role key (packetsOf role (sealRun aead key calls)).length
  prefixes : (packetsOf role (sealRun aead key calls)).map (·.take PACKET_PREFIX_BYTES) =
    (List.range (packetsOf role (sealRun aead key calls)).length).map (prefixOf role)
  bounded : (packetsOf role (sealRun aead key calls)).length ≤ 2 ^ 63

theorem packets_of_concat (calls : List (PeerRole × Bytes)) (call : PeerRole × Bytes)
    (role : PeerRole) :
    packetsOf role (sealRun aead key (calls ++ [call])) =
      packetsOf role (sealRun aead key calls) ++
        if call.1 = role then
          (stepAt (ChannelPair.sealCall aead) (pairAfter aead key calls) call).output.toOption.toList
        else [] := by
  simp only [packetsOf, sealedPackets, sealRun, trace_concat, List.filter_append,
    List.filterMap_append]
  congr 1
  by_cases same : call.1 = role
  · rw [if_pos same]
    cases result : (stepAt (ChannelPair.sealCall aead) (pairAfter aead key calls) call).output <;>
      simp_all [stepAt, pairAfter, SealStep.packet?, Except.toOption]
  · simp [same, stepAt]

theorem sealed_so_far (calls : List (PeerRole × Bytes)) (role : PeerRole) :
    SealedSoFar aead key calls role := by
  induction calls using List.reverseRecOn generalizing role with
  | nil => exact ⟨by cases role <;> rfl, rfl, by simp [sealRun, packetsOf, sealedPackets]⟩
  | append_singleton calls call induction =>
      have grown := packets_of_concat aead key calls call role
      have after : pairAfter aead key (calls ++ [call]) =
          ((pairAfter aead key calls).sealCall aead call).2 := final_concat _ _ _ _
      have here := induction role
      by_cases same : call.1 = role
      · subst role
        rw [if_pos rfl] at grown
        have step : (stepAt (ChannelPair.sealCall aead) (pairAfter aead key calls) call).output =
            (((pairAfter aead key calls).channel call.1).sealNext aead call.2).1 := rfl
        have channelStep : (pairAfter aead key (calls ++ [call])).channel call.1 =
            (((pairAfter aead key calls).channel call.1).sealNext aead call.2).2 := by
          rw [after]
          exact ChannelPair.channel_with_channel _ _ _
        rw [step, here.channel] at grown
        rw [here.channel] at channelStep
        rcases seal_next_cases aead call.1 key (packetsOf call.1 (sealRun aead key calls)).length
          call.2 with ⟨error, failed, _⟩ | ⟨counter, ciphertext, present, encrypted, sealed⟩
        · rw [failed] at grown channelStep
          simp only [Except.toOption, Option.toList_none, List.append_nil] at grown
          exact ⟨by rw [grown]; exact channelStep, by rw [grown]; exact here.prefixes,
            by rw [grown]; exact here.bounded⟩
        · rw [sealed] at grown channelStep
          simp only [Except.toOption, Option.toList_some] at grown
          have low : (packetsOf call.1 (sealRun aead key calls)).length < 2 ^ 63 := by
            obtain ⟨number, small⟩ := counter_at_some present
            have := (le_max_counter_iff counter).mp small
            omega
          refine ⟨?_, ?_, ?_⟩
          · rw [grown, List.length_append, List.length_singleton]
            exact channelStep
          · rw [grown, List.map_append, List.length_append, List.length_singleton, List.range_succ,
              List.map_append, here.prefixes, List.map_singleton, packet_prefix_take,
              prefix_of_eq key present, List.map_singleton]
          · rw [grown, List.length_append, List.length_singleton]
            omega
      · rw [if_neg same, List.append_nil] at grown
        have untouched : (pairAfter aead key (calls ++ [call])).channel role =
            (pairAfter aead key calls).channel role := by
          rw [after]
          exact ChannelPair.channel_with_other _ (Ne.symm same) _
        exact ⟨by rw [grown, untouched]; exact here.channel, by rw [grown]; exact here.prefixes,
          by rw [grown]; exact here.bounded⟩

theorem prefix_of_injective {left right : PeerRole} {leftCount rightCount : Nat}
    (leftBound : leftCount < 2 ^ 63) (rightBound : rightCount < 2 ^ 63)
    (same : prefixOf left leftCount = prefixOf right rightCount) :
    left = right ∧ leftCount = rightCount := by
  have width : 256 ^ PACKET_PREFIX_BYTES = 2 ^ 64 := by decide
  have numbers := BigEndian.encode_injective
    (by rw [width]; exact UInt64.toNat_lt _) (by rw [width]; exact UInt64.toNat_lt _) same
  have leftNumber : (UInt64.ofNat leftCount).toNat = leftCount := by
    rw [UInt64.toNat_ofNat']
    exact Nat.mod_eq_of_lt (by omega)
  have rightNumber : (UInt64.ofNat rightCount).toNat = rightCount := by
    rw [UInt64.toNat_ofNat']
    exact Nat.mod_eq_of_lt (by omega)
  rw [PacketDirection.encode_to_nat _ _ ((le_max_counter_iff _).mpr (by omega)),
    PacketDirection.encode_to_nat _ _ ((le_max_counter_iff _).mpr (by omega)),
    leftNumber, rightNumber] at numbers
  cases left <;> cases right <;> simp [PacketDirection.forOutbound] at numbers ⊢ <;> omega

theorem make_nonce_injective {left right : Bytes} (same : makeNonce left = makeNonce right) :
    left = right := List.append_cancel_left same

theorem nonces_of_role (calls : List (PeerRole × Bytes)) (role : PeerRole) :
    (packetsOf role (sealRun aead key calls)).map wireNonce =
      (List.range (packetsOf role (sealRun aead key calls)).length).map
        fun count => makeNonce (prefixOf role count) := by
  have prefixes := congrArg (List.map makeNonce) (sealed_so_far aead key calls role).prefixes
  rwa [List.map_map, List.map_map] at prefixes

theorem nonces_of_role_nodup (calls : List (PeerRole × Bytes)) (role : PeerRole) :
    ((packetsOf role (sealRun aead key calls)).map wireNonce).Nodup := by
  have bounded := (sealed_so_far aead key calls role).bounded
  rw [nonces_of_role]
  apply List.Nodup.map_on _ List.nodup_range
  intro left leftMember right rightMember same
  rw [List.mem_range] at leftMember rightMember
  exact (prefix_of_injective (by omega) (by omega) (make_nonce_injective same)).2

theorem sealed_packets_perm (events : List SealStep) :
    (packetsOf .client events ++ packetsOf .server events).Perm (sealedPackets events) := by
  have split := List.filter_append_perm (fun event : SealStep => decide (event.input.1 = .client)) events
  have others : (fun event : SealStep => !decide (event.input.1 = .client)) =
      fun event => decide (event.input.1 = .server) := by
    funext event
    cases event.input.1 <;> rfl
  rw [others] at split
  simpa only [packetsOf, sealedPackets, List.filterMap_append] using split.filterMap SealStep.packet?

theorem sealed_nonces_nodup (calls : List (PeerRole × Bytes)) :
    ((sealedPackets (sealRun aead key calls)).map wireNonce).Nodup := by
  have shuffled := (sealed_packets_perm (sealRun aead key calls)).map wireNonce
  rw [← shuffled.nodup_iff, List.map_append, List.nodup_append]
  refine ⟨nonces_of_role_nodup aead key calls _, nonces_of_role_nodup aead key calls _, ?_⟩
  intro client clientMember server serverMember same
  rw [nonces_of_role, List.mem_map] at clientMember serverMember
  obtain ⟨clientCount, clientRange, rfl⟩ := clientMember
  obtain ⟨serverCount, serverRange, rfl⟩ := serverMember
  rw [List.mem_range] at clientRange serverRange
  have clientBound := (sealed_so_far aead key calls .client).bounded
  have serverBound := (sealed_so_far aead key calls .server).bounded
  have roles := (prefix_of_injective (by omega) (by omega) (make_nonce_injective same)).1
  cases roles

theorem wire_counter_starting (key : SessionKey) {role : PeerRole} {count : Nat} {packet : Bytes}
    (bound : count < 2 ^ 63) (starts : packet.take PACKET_PREFIX_BYTES = prefixOf role count) :
    (wireCounter packet).toNat = count := by
  have number : (UInt64.ofNat count).toNat = count := by
    rw [UInt64.toNat_ofNat']
    exact Nat.mod_eq_of_lt (by omega)
  have bounded : UInt64.ofNat count ≤ MAX_COUNTER := (le_max_counter_iff _).mpr (by omega)
  have decoded := packet_prefix_decode (channelAfter role key 0) _ bounded
  rw [wireCounter, starts]
  exact (congrArg (fun pair => pair.2.toNat) decoded).trans number

theorem counters_of_role (calls : List (PeerRole × Bytes)) (role : PeerRole) :
    (packetsOf role (sealRun aead key calls)).map (fun packet => (wireCounter packet).toNat) =
      List.range (packetsOf role (sealRun aead key calls)).length := by
  have soFar := sealed_so_far aead key calls role
  apply List.ext_getElem (by simp)
  intro index left right
  rw [List.length_map] at left
  have starts : (packetsOf role (sealRun aead key calls))[index].take PACKET_PREFIX_BYTES =
      prefixOf role index := by
    have same := congrArg (·[index]?) soFar.prefixes
    simpa [left] using same
  have bound : index < 2 ^ 63 := by
    have := soFar.bounded
    omega
  simp only [List.getElem_map, List.getElem_range]
  exact wire_counter_starting key bound starts

/-- What one successful seal of a run put on the wire. -/
theorem sealed_step (calls : List (PeerRole × Bytes)) (event : SealStep)
    (member : event ∈ sealRun aead key calls) (packet : Bytes) (sealed : event.output = .ok packet) :
    ∃ count counter ciphertext, counterAt count = some counter ∧
      packet = (channelAfter event.input.1 key count).packetPrefix counter ++ ciphertext ∧
      aead.encrypt key (wireNonce packet) event.input.2 = some ciphertext ∧
      event.after.channel event.input.1 = channelAfter event.input.1 key (count + 1) := by
  obtain ⟨earlier, call, later, _, same⟩ := (mem_trace_iff _ _ _ _).mp member
  have soFar := sealed_so_far aead key earlier call.1
  rw [same] at sealed ⊢
  have step : ((pairAfter aead key earlier).channel call.1).sealNext aead call.2 =
      (.ok packet, (stepAt (ChannelPair.sealCall aead) (pairAfter aead key earlier) call).after.channel
        call.1) := by
    refine Prod.ext sealed ?_
    exact (ChannelPair.channel_with_channel _ _ _).symm
  rw [soFar.channel] at step
  rcases seal_next_cases aead call.1 key (packetsOf call.1 (sealRun aead key earlier)).length call.2
    with ⟨error, failed, _⟩ | ⟨counter, ciphertext, present, encrypted, succeeded⟩
  · rw [failed] at step
    cases step
  · rw [succeeded, Prod.mk.injEq, Except.ok.injEq] at step
    refine ⟨_, counter, ciphertext, present, step.1.symm, ?_, step.2.symm⟩
    rw [← step.1, wireNonce, packet_prefix_take]
    exact encrypted

theorem seal_step_failed (calls : List (PeerRole × Bytes)) (event : SealStep)
    (member : event ∈ sealRun aead key calls) (error : SealError)
    (failed : event.output = .error error) : event.after = event.before := by
  obtain ⟨earlier, call, later, _, same⟩ := (mem_trace_iff _ _ _ _).mp member
  have soFar := sealed_so_far aead key earlier call.1
  have step : event.after = (pairAfter aead key earlier).withChannel call.1
      (((pairAfter aead key earlier).channel call.1).sealNext aead call.2).2 := by
    rw [same]
    rfl
  have result : (((pairAfter aead key earlier).channel call.1).sealNext aead call.2).1 =
      .error error := by
    rw [← failed, same]
    rfl
  have before : event.before = pairAfter aead key earlier := by
    rw [same]
    rfl
  rcases seal_next_cases aead call.1 key (packetsOf call.1 (sealRun aead key earlier)).length call.2
    with ⟨other, unchanged, _⟩ | ⟨counter, ciphertext, _, _, succeeded⟩
  · rw [step, before, soFar.channel, unchanged, ← soFar.channel, ChannelPair.with_channel_self]
  · rw [soFar.channel, succeeded] at result
    cases result

/-- After the last counter every later seal of that role fails. -/
theorem sealed_after_last (earlier later : List (PeerRole × Bytes)) (call : PeerRole × Bytes)
    (packet : Bytes)
    (used : (((pairAfter aead key earlier).sealCall aead call).1) = .ok packet)
    (last : wireCounter packet = MAX_COUNTER) (plaintext : Bytes) :
    ((pairAfter aead key (earlier ++ call :: later)).sealCall aead (call.1, plaintext)).1 =
      .error .counterExhausted := by
  have concatenated : earlier ++ call :: later = (earlier ++ [call]) ++ later := by simp
  have member : stepAt (ChannelPair.sealCall aead) (pairAfter aead key earlier) call ∈
      sealRun aead key (earlier ++ call :: later) :=
    (mem_trace_iff _ _ _ _).mpr ⟨earlier, call, later, rfl, rfl⟩
  have counted : packet ∈ packetsOf call.1 (sealRun aead key (earlier ++ call :: later)) := by
    apply List.mem_filterMap.mpr
    refine ⟨_, List.mem_filter.mpr ⟨member, by simp [stepAt]⟩, ?_⟩
    simp [SealStep.packet?, stepAt, used, Except.toOption]
  have soFar := sealed_so_far aead key (earlier ++ call :: later) call.1
  have listed := List.mem_map_of_mem (f := fun packet => (wireCounter packet).toNat) counted
  rw [counters_of_role, List.mem_range, last, max_counter_to_nat] at listed
  have exhausted : counterAt
      (packetsOf call.1 (sealRun aead key (earlier ++ call :: later))).length = none := by
    rw [counterAt, if_neg (by omega)]
  have result : ((pairAfter aead key (earlier ++ call :: later)).sealCall aead
      (call.1, plaintext)).1 =
      (((pairAfter aead key (earlier ++ call :: later)).channel call.1).sealNext aead plaintext).1 :=
    rfl
  rw [result, soFar.channel, SecureChannel.sealNext]
  simp only [channelAfter, exhausted]

/-- No nonce is used twice and the two channels of a key pair up, in every interleaving
of seals by the two roles. -/
theorem interleaved_seals_pair_up (lawful : LawfulAead aead) (calls : List (PeerRole × Bytes)) :
    ((sealedPackets (sealRun aead key calls)).map wireNonce).Nodup ∧
    (∀ nonce ∈ (sealedPackets (sealRun aead key calls)).map wireNonce,
      nonce.length = OCB_NONCE_BYTES) ∧
    (∀ role, (packetsOf role (sealRun aead key calls)).map (fun packet => (wireCounter packet).toNat) =
      List.range (packetsOf role (sealRun aead key calls)).length) ∧
    (∀ event ∈ sealRun aead key calls, ∀ packet, event.output = .ok packet →
      aead.encrypt key (wireNonce packet) event.input.2 = some (packet.drop PACKET_PREFIX_BYTES) ∧
      ((pairAfter aead key calls).channel event.input.1.opposite).openPacket aead packet =
        .ok { counter := wireCounter packet, plaintext := event.input.2 } ∧
      ((pairAfter aead key calls).channel event.input.1).openPacket aead packet =
        .error .unexpectedDirection) ∧
    (∀ event ∈ sealRun aead key calls, ∀ error, event.output = .error error →
      event.after = event.before) ∧
    (∀ earlier call later packet, calls = earlier ++ call :: later →
      ((pairAfter aead key earlier).sealCall aead call).1 = .ok packet →
      wireCounter packet = MAX_COUNTER → ∀ plaintext,
        ((pairAfter aead key calls).sealCall aead (call.1, plaintext)).1 =
          .error .counterExhausted) := by
  refine ⟨sealed_nonces_nodup aead key calls, ?_, counters_of_role aead key calls, ?_,
    seal_step_failed aead key calls, ?_⟩
  · intro nonce member
    obtain ⟨packet, listed, rfl⟩ := List.mem_map.mp member
    obtain ⟨event, inRun, output⟩ := List.mem_filterMap.mp listed
    cases sealed : event.output with
    | error error => simp [SealStep.packet?, sealed, Except.toOption] at output
    | ok sealedPacket =>
        have same : sealedPacket = packet := by
          simpa [SealStep.packet?, sealed, Except.toOption] using output
        obtain ⟨count, counter, ciphertext, _, shape, _, _⟩ :=
          sealed_step aead key calls event inRun sealedPacket sealed
        rw [wireNonce, ← same, shape, packet_prefix_take, makeNonce, List.length_append,
          List.length_replicate, SecureChannel.packetPrefix, BigEndian.encode_length]
        rfl
  · intro event member packet sealed
    obtain ⟨count, counter, ciphertext, present, shape, encrypted, _⟩ :=
      sealed_step aead key calls event member packet sealed
    obtain ⟨_, bounded⟩ := counter_at_some present
    have carried : wireCounter packet = counter := by
      rw [wireCounter, shape, packet_prefix_take, packet_prefix_decode _ _ bounded]
    have body : packet.drop PACKET_PREFIX_BYTES = ciphertext := by
      rw [shape, packet_prefix_drop]
    have underPrefix : aead.encrypt key
        (makeNonce ((channelAfter event.input.1 key count).packetPrefix counter)) event.input.2 =
        some ciphertext := by
      rwa [wireNonce, shape, packet_prefix_take] at encrypted
    have opens (reader : SecureChannel) (sameKey : reader.inboundCipher = key) :=
      open_sealed aead lawful (channelAfter event.input.1 key count) reader counter bounded
        event.input.2 ciphertext sameKey underPrefix
    refine ⟨by rw [body, encrypted], ?_, ?_⟩
    · rw [(sealed_so_far aead key calls event.input.1.opposite).channel, shape,
        opens _ rfl, if_neg, ← shape, carried]
      exact not_not.mpr (PacketDirection.for_inbound_opposite _).symm
    · rw [(sealed_so_far aead key calls event.input.1).channel, shape, opens _ rfl, if_pos]
      exact (PacketDirection.for_inbound_ne_outbound _).symm
  · intro earlier call later packet split used last plaintext
    rw [split]
    exact sealed_after_last aead key earlier later call packet used last plaintext

end Run

theorem interleaved_seals_pair_up_tagging :
    ((sealedPackets (sealRun taggingAead zeroKey
        [(.client, [1]), (.server, []), (.client, [2, 3])])).map wireNonce).Nodup ∧
      (sealedPackets (sealRun taggingAead zeroKey
        [(.client, [1]), (.server, []), (.client, [2, 3])])).length = 3 :=
  ⟨(interleaved_seals_pair_up taggingAead zeroKey lawful_tagging_aead
    [(.client, [1]), (.server, []), (.client, [2, 3])]).1, by decide⟩

end FerrumTty.Crypto
