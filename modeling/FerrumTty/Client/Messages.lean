import FerrumTty.Runtime.SessionRuntime

/-!
# Messages of the client

The texts that `ferrumtty-client` ends its receive loop with, in both its languages, and the
`Display` and `Debug` texts of the errors behind them.
-/

namespace FerrumTty.Client

set_option autoImplicit false

open Crypto Wire State Session FerrumTty.Runtime

inductive Text where
  | inputQueueFull
  | protocolFailed
  | receiveFailed
  | sendFailed
  | terminalWriteFailed
  deriving DecidableEq, Repr

def textEn : Text → String
  | .inputQueueFull => "local input queue limit reached"
  | .protocolFailed => "protocol operation failed"
  | .receiveFailed => "UDP receive failed"
  | .sendFailed => "UDP send failed"
  | .terminalWriteFailed => "could not write terminal output"

def textZh : Text → String
  | .inputQueueFull => "本地输入队列已达到上限"
  | .protocolFailed => "协议操作失败"
  | .receiveFailed => "UDP 接收失败"
  | .sendFailed => "UDP 发送失败"
  | .terminalWriteFailed => "无法写入终端输出"

/-- The language is the value of `LANG`, empty where the environment has none. -/
def text (language : String) (message : Text) : String :=
  if ['z', 'h'].isPrefixOf language.toList then textZh message else textEn message

/-- `format!("{}: {error}", text(message))`. -/
def withCause (language : String) (message : Text) (cause : String) : String :=
  text language message ++ ": " ++ cause

section Debug

def debugState : StateError → String
  | .invalidViewport => "InvalidViewport"
  | .historyLimitExceeded => "HistoryLimitExceeded"
  | .divergedHistory => "DivergedHistory"
  | .echoAckRegression => "EchoAckRegression"

def debugSeal : SealError → String
  | .counterExhausted => "CounterExhausted"
  | .encryptionFailed => "EncryptionFailed"

def debugOpen : OpenError → String
  | .packetTooShort => "PacketTooShort"
  | .authenticationFailed => "AuthenticationFailed"
  | .unexpectedDirection => "UnexpectedDirection"

def debugFragment : FragmentError → String
  | .headerTooShort => "HeaderTooShort"
  | .bodyTooLarge => "BodyTooLarge"
  | .tooManyFragments => "TooManyFragments"
  | .mismatchedState => "MismatchedState"
  | .indexAfterFinal => "IndexAfterFinal"
  | .conflictingFinalIndex => "ConflictingFinalIndex"
  | .conflictingDuplicate => "ConflictingDuplicate"
  | .messageTooLarge => "MessageTooLarge"
  | .missingFragment => "MissingFragment"

def debugMessage : MessageError → String
  | .compressionFailed => "CompressionFailed"
  | .decompressionFailed => "DecompressionFailed"
  | .decompressedMessageTooLarge => "DecompressedMessageTooLarge"
  | .malformedProtobuf => "MalformedProtobuf"
  | .unsupportedProtocolVersion => "UnsupportedProtocolVersion"
  | .unsupportedWireType => "UnsupportedWireType"

/-- A derived `Debug` writes a variant with one field as a call. -/
def debugVariant (variant field : String) : String := variant ++ "(" ++ field ++ ")"

def debugSession : SessionError → String
  | .stateExhausted => "StateExhausted"
  | .shutdownAlreadySent => "ShutdownAlreadySent"
  | .shutdownNotAcknowledged => "ShutdownNotAcknowledged"
  | .stateHistoryUnavailable => "StateHistoryUnavailable"
  | .updateAwaitingAcknowledgement => "UpdateAwaitingAcknowledgement"
  | .noPendingUpdate => "NoPendingUpdate"
  | .replayDetected => "ReplayDetected"
  | .tooManyActiveAssemblies => "TooManyActiveAssemblies"
  | .tooManyRemoteStates => "TooManyRemoteStates"
  | .invalidStateTransition => "InvalidStateTransition"
  | .state error => debugVariant "State" (debugState error)
  | .sealing error => debugVariant "Seal" (debugSeal error)
  | .opening error => debugVariant "Open" (debugOpen error)
  | .fragment error => debugVariant "Fragment" (debugFragment error)
  | .message error => debugVariant "Message" (debugMessage error)

end Debug

def displayRuntimeError : RuntimeError → String
  | .inputQueueFull => "terminal input queue is full"
  | .capabilityNotNegotiated => "session-control capability was not negotiated"
  | .sessionPaused => "session is paused"
  | .sessionCancelled => "session is cancelled"
  | .shutdownInProgress => "session shutdown is in progress"
  | .session error => "session protocol failed: " ++ debugSession error
  | .message error => "session message failed: " ++ debugMessage error

def formatRuntimeError (language : String) : RuntimeError → String
  | .inputQueueFull => text language .inputQueueFull
  | other => withCause language .protocolFailed (displayRuntimeError other)

/-- A failed receive and a failed protocol operation never read alike. -/
theorem receive_failed_ne_runtime_error (language cause : String) (error : RuntimeError) :
    withCause language .receiveFailed cause ≠ formatRuntimeError language error := by
  intro same
  have heads := congrArg (fun message : String => message.toList.head?) same
  cases error <;>
    (simp only [formatRuntimeError, withCause, text] at heads
     split_ifs at heads <;> simp [textEn, textZh] at heads)

end FerrumTty.Client
