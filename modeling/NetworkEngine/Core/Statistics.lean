/-!
# Statistics — engine counters

`network_core::statistics::EngineStatistics`, with the counters that the modelled functions update.  All
of them are atomic `u64` additions, which wrap.
-/

namespace NetworkEngine

structure EngineStatistics where
  totalPacketsReceived : UInt64
  totalPacketsProcessed : UInt64
  totalBytesReceived : UInt64
  totalBytesProcessed : UInt64
  totalErrors : UInt64
  packetsForwarded : UInt64
  modificationsApplied : UInt64
  dropsHostRequested : UInt64
  queueSaturationEvents : UInt64
  backendFailures : UInt64
  backendFailovers : UInt64
  deriving DecidableEq, Repr

namespace EngineStatistics

def new : EngineStatistics := ⟨0, 0, 0, 0, 0, 0, 0, 0, 0, 0, 0⟩

def recordError (s : EngineStatistics) : EngineStatistics :=
  { s with totalErrors := s.totalErrors + 1 }

def recordQueueSaturation (s : EngineStatistics) : EngineStatistics :=
  { s with queueSaturationEvents := s.queueSaturationEvents + 1 }

def recordBackendFailure (s : EngineStatistics) : EngineStatistics :=
  { s with backendFailures := s.backendFailures + 1 }

def recordBackendFailover (s : EngineStatistics) : EngineStatistics :=
  { s with backendFailovers := s.backendFailovers + 1 }

def recordPacketReceived (bytes : UInt64) (s : EngineStatistics) : EngineStatistics :=
  { s with
    totalPacketsReceived := s.totalPacketsReceived + 1
    totalBytesReceived := s.totalBytesReceived + bytes }

def recordPacketProcessed (bytes : UInt64) (s : EngineStatistics) : EngineStatistics :=
  { s with
    totalPacketsProcessed := s.totalPacketsProcessed + 1
    totalBytesProcessed := s.totalBytesProcessed + bytes }

def recordForwarded (s : EngineStatistics) : EngineStatistics :=
  { s with packetsForwarded := s.packetsForwarded + 1 }

def recordModification (s : EngineStatistics) : EngineStatistics :=
  { s with modificationsApplied := s.modificationsApplied + 1 }

def recordDropRequested (s : EngineStatistics) : EngineStatistics :=
  { s with dropsHostRequested := s.dropsHostRequested + 1 }

end EngineStatistics

end NetworkEngine
