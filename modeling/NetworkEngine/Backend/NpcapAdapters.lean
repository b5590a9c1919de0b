import NetworkEngine.Backend.Native
import NetworkEngine.Core.Metadata
import NetworkEngine.Lib.Keyed
import NetworkEngine.Lib.Ranking
import NetworkEngine.Lib.Transition

/-!
# NpcapAdapters — the adapters that Npcap captures on

`backend_npcap::adapter`.  The table is a vector, searched from its front and sorted again by each
insertion.  An adapter that has no interface index yet is kept out of it.
-/

namespace NetworkEngine.Npcap

open Transition

/-! ## 1. Adapters -/

inductive AdapterType where
  | ethernet
  | wifi
  | loopback
  | tunnel
  | other
  | unknown
  deriving DecidableEq, Repr

inductive AdapterState where
  | up
  | down
  | testing
  | unknown
  deriving DecidableEq, Repr

structure AdapterAddress where
  address : IpAddr
  prefixLength : UInt8
  deriving DecidableEq, Repr

structure AdapterInfo where
  /-- The interface index of Windows; 0 while it is not resolved. -/
  index : UInt32
  name : String
  description : String
  adapterType : AdapterType
  state : AdapterState
  macAddress : Option (Vector UInt8 6)
  mtu : UInt32
  addresses : List AdapterAddress
  deriving DecidableEq, Repr

namespace AdapterInfo

def newInternal (index : UInt32) (name : String) : Option AdapterInfo :=
  if (trim name).isEmpty then none
  else some ⟨index, name, "", .unknown, .unknown, none, 0, []⟩

def new (index : UInt32) (name : String) : Option AdapterInfo :=
  if index = 0 then none else newInternal index name

end AdapterInfo

/-! ## 2. The table -/

inductive AdapterTableError where
  | invalidAdapterIndex
  | adapterNotFound
  deriving DecidableEq, Repr

structure AdapterTable where
  adapters : List AdapterInfo
  deriving DecidableEq, Repr

namespace AdapterTable

def new : AdapterTable := ⟨[]⟩

/-- The order of `sort_by_key`. -/
def byIndex (a b : AdapterInfo) : Ordering := compare a.index b.index

def insert (adapter : AdapterInfo) (t : AdapterTable) : Except AdapterTableError AdapterTable :=
  if adapter.index = 0 then .error .invalidAdapterIndex
  else
    let adapters := Keyed.put AdapterInfo.index (fun _ adapter => adapter) adapter t.adapters
    .ok ⟨Ranking.sortBy byIndex adapters⟩

def get (index : UInt32) (t : AdapterTable) : Except AdapterTableError AdapterInfo :=
  if index = 0 then .error .invalidAdapterIndex
  else
    match t.adapters.find? (·.index = index) with
    | some adapter => .ok adapter
    | none => .error .adapterNotFound

def clear (_ : AdapterTable) : AdapterTable := ⟨[]⟩

end AdapterTable

end NetworkEngine.Npcap
