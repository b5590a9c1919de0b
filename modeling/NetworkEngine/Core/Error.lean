/-!
# Error — engine error codes and errors

`network_core::error`: the stable error codes and the error values built from them.  Native
errors are normalised by the backends before they reach an engine-level contract, so a code and
a text are all that is left of them here.
-/

namespace NetworkEngine

inductive EngineErrorCode where
  | ok
  | unknown
  | invalidArgument
  | nullPointer
  | bufferTooSmall
  | integerOverflow
  | invalidHandle
  | handleReleased
  | handleTypeMismatch
  | notInitialized
  | alreadyInitialized
  | shutdownInProgress
  | alreadyShutdown
  | invalidStateTransition
  | shutdown
  | backendUnavailable
  | backendNotFound
  | backendAlreadyRegistered
  | backendAlreadyRunning
  | backendNotRunning
  | backendStartFailed
  | backendStopFailed
  | backendInitializationFailed
  | backendShutdownFailed
  | backendDegraded
  | backendInitFailed
  | capabilityUnavailable
  | capabilityNotSupported
  | capabilityLost
  | queueEmpty
  | queueFull
  | bufferExhausted
  | backpressure
  | packetMalformed
  | packetTooShort
  | packetUnsupported
  | packetReleased
  | parseError
  | actionNotSupported
  | actionFailed
  | passFailed
  | dropFailed
  | modifyFailed
  | reinjectionFailed
  | routeNotFound
  | routeFailure
  | neighborUnresolved
  | neighborFailure
  | natStateMissing
  | forwardingFailed
  | gatewayNotReady
  | gatewayConfigurationInvalid
  | configurationInvalid
  | configurationUnsupported
  | resourceExhausted
  | operationTimeout
  | concurrentOperation
  | internalError
  deriving DecidableEq, Repr

/-- `EngineErrorCode::message`. -/
def EngineErrorCode.message : EngineErrorCode → String
  | ok => "OK"
  | unknown => "Unknown error"
  | invalidArgument => "Invalid argument"
  | nullPointer => "Null pointer"
  | bufferTooSmall => "Buffer too small"
  | integerOverflow => "Integer overflow"
  | invalidHandle => "Invalid handle"
  | handleReleased => "Handle has been released"
  | handleTypeMismatch => "Handle type mismatch"
  | notInitialized => "Engine is not initialized"
  | alreadyInitialized => "Engine is already initialized"
  | shutdownInProgress => "Engine shutdown is in progress"
  | alreadyShutdown => "Engine is already shut down"
  | invalidStateTransition => "Invalid state transition"
  | shutdown => "Engine is shut down"
  | backendUnavailable => "Backend is unavailable"
  | backendNotFound => "Backend not found"
  | backendAlreadyRegistered => "Backend already registered"
  | backendAlreadyRunning => "Backend is already running"
  | backendNotRunning => "Backend is not running"
  | backendStartFailed => "Backend start failed"
  | backendStopFailed => "Backend stop failed"
  | backendInitializationFailed => "Backend initialization failed"
  | backendShutdownFailed => "Backend shutdown failed"
  | backendDegraded => "Backend is degraded"
  | backendInitFailed => "Backend init failed"
  | capabilityUnavailable => "Capability is unavailable"
  | capabilityNotSupported => "Capability is not supported"
  | capabilityLost => "Capability has been lost"
  | queueEmpty => "Queue is empty"
  | queueFull => "Queue is full"
  | bufferExhausted => "Buffer resources exhausted"
  | backpressure => "Backpressure is active"
  | packetMalformed => "Malformed packet"
  | packetTooShort => "Packet is too short"
  | packetUnsupported => "Packet type is unsupported"
  | packetReleased => "Packet has already been released"
  | parseError => "Packet parse error"
  | actionNotSupported => "Packet action is not supported"
  | actionFailed => "Packet action failed"
  | passFailed => "Packet pass failed"
  | dropFailed => "Packet drop failed"
  | modifyFailed => "Packet modification failed"
  | reinjectionFailed => "Packet reinjection failed"
  | routeNotFound => "Route not found"
  | routeFailure => "Route lookup failed"
  | neighborUnresolved => "Neighbor could not be resolved"
  | neighborFailure => "Neighbor operation failed"
  | natStateMissing => "NAT state is missing"
  | forwardingFailed => "Packet forwarding failed"
  | gatewayNotReady => "Gateway is not ready"
  | gatewayConfigurationInvalid => "Gateway configuration is invalid"
  | configurationInvalid => "Configuration is invalid"
  | configurationUnsupported => "Configuration is unsupported"
  | resourceExhausted => "Engine resource exhausted"
  | operationTimeout => "Operation timed out"
  | concurrentOperation => "Operation conflicts with another operation"
  | internalError => "Internal engine error"

inductive EngineError where
  | code (code : EngineErrorCode)
  | backend (code : EngineErrorCode) (backend : String) (nativeCode : Option Int)
  | native (code : EngineErrorCode) (nativeCode : Int)
  | message (code : EngineErrorCode) (message : String)
  deriving DecidableEq, Repr

abbrev EngineResult (α : Type) := Except EngineError α

namespace EngineError

/-- `EngineError::code`. -/
def errorCode : EngineError → EngineErrorCode
  | .code c => c
  | .backend c _ _ => c
  | .native c _ => c
  | .message c _ => c

/-- `EngineError::message`. -/
def text : EngineError → String
  | .code c => c.message
  | .backend c name none => name ++ ": " ++ c.message
  | .backend c name (some n) =>
    name ++ ": " ++ c.message ++ " (native error " ++ toString n ++ ")"
  | .native c n => c.message ++ " (native error " ++ toString n ++ ")"
  | .message _ m => m

def withMessage (code : EngineErrorCode) (message : String) : EngineError :=
  .message code message

def invalidArgument : EngineError := .code .invalidArgument
def integerOverflow : EngineError := .code .integerOverflow
def invalidHandle : EngineError := .code .invalidHandle
def notInitialized : EngineError := .code .notInitialized
def alreadyInitialized : EngineError := .code .alreadyInitialized
def shutdownInProgress : EngineError := .code .shutdownInProgress
def alreadyShutdown : EngineError := .code .alreadyShutdown
def invalidStateTransition : EngineError := .code .invalidStateTransition
def queueFull : EngineError := .code .queueFull
def bufferExhausted : EngineError := .code .bufferExhausted
def backendInitFailed : EngineError := .code .backendInitFailed
def configurationInvalid : EngineError := .code .configurationInvalid
def packetMalformed : EngineError := .code .packetMalformed
def packetTooShort : EngineError := .code .packetTooShort
def packetUnsupported : EngineError := .code .packetUnsupported
def resourceExhausted : EngineError := .code .resourceExhausted

end EngineError

end NetworkEngine
