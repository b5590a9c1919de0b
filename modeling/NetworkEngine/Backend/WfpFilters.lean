import NetworkEngine.Backend.NativeHandles
import NetworkEngine.Backend.WfpCondition
import NetworkEngine.Lib.Ranking
import NetworkEngine.Lib.Transition

/-!
# WfpFilters — the filter table and the kernel

`backend_wfp::filter`: every operation of the table changes a list and the kernel in two steps, and
the native step may fail.  Next to the table stands what the kernel holds: the filters this table
has installed and that no native call has deleted.  The engine is opened without a session of its
own, so that closing the handle deletes none of them.
-/

namespace NetworkEngine

open Rust Transition Ranking

inductive WfpAction where
  | permit
  | block
  | «continue»
  deriving DecidableEq, Repr

structure WfpFilter where
  id : UInt64
  name : String
  layer : String
  action : WfpAction
  conditions : List WfpFilterCondition
  enabled : Bool
  weight : UInt64
  kernelFilterId : UInt64
  deriving DecidableEq, Repr

namespace WfpFilters

/-! ## 1. The table -/

/-- `WfpFilterTable` with the filters themselves. -/
structure FilterTable where
  filters : List WfpFilter
  engineHandle : Option Nat
  deriving DecidableEq, Repr

def FilterTable.new : FilterTable := ⟨[], none⟩

/-- The table as the one that remembers handles sees it. -/
def FilterTable.ids (t : FilterTable) : WfpFilterTable := ⟨t.filters.map (·.id), t.engineHandle⟩

/-- The `FWPM_LAYER_*` keys in use. -/
inductive LayerKey where
  | aleAuthConnectV4
  | aleAuthConnectV6
  | aleAuthRecvAcceptV4
  | aleAuthRecvAcceptV6
  | datagramDataV4
  | datagramDataV6
  | inboundTransportV4
  | inboundTransportV6
  | outboundTransportV4
  | outboundTransportV6
  | inboundIppacketV4
  | inboundIppacketV6
  | outboundIppacketV4
  | outboundIppacketV6
  | ipforwardV4
  | ipforwardV6
  | streamV4
  | streamV6
  deriving DecidableEq, Repr

/-- `layer_keys::resolve`. -/
def resolve (name : String) : Option LayerKey :=
  match String.ofList ((WfpFilterCondition.trim name.toList).map Char.toLower) with
  | "ale_auth_connect_v4" | "ale-auth-connect-v4" => some .aleAuthConnectV4
  | "ale_auth_connect_v6" | "ale-auth-connect-v6" => some .aleAuthConnectV6
  | "ale_auth_recv_accept_v4" | "ale-auth-recv-accept-v4" => some .aleAuthRecvAcceptV4
  | "ale_auth_recv_accept_v6" | "ale-auth-recv-accept-v6" => some .aleAuthRecvAcceptV6
  | "datagram_data_v4" | "datagram-data-v4" => some .datagramDataV4
  | "datagram_data_v6" | "datagram-data-v6" => some .datagramDataV6
  | "inbound_transport_v4" | "inbound-transport-v4" => some .inboundTransportV4
  | "inbound_transport_v6" | "inbound-transport-v6" => some .inboundTransportV6
  | "outbound_transport_v4" | "outbound-transport-v4" => some .outboundTransportV4
  | "outbound_transport_v6" | "outbound-transport-v6" => some .outboundTransportV6
  | "inbound_ippacket_v4" | "inbound-ippacket-v4" => some .inboundIppacketV4
  | "inbound_ippacket_v6" | "inbound-ippacket-v6" => some .inboundIppacketV6
  | "outbound_ippacket_v4" | "outbound-ippacket-v4" => some .outboundIppacketV4
  | "outbound_ippacket_v6" | "outbound-ippacket-v6" => some .outboundIppacketV6
  | "ipforward_v4" | "ip-forward-v4" => some .ipforwardV4
  | "ipforward_v6" | "ip-forward-v6" => some .ipforwardV6
  | "stream_v4" | "stream-v4" => some .streamV4
  | "stream_v6" | "stream-v6" => some .streamV6
  | _ => none

/-- `FWPM_FILTER0`, as far as the code fills it in. -/
structure KernelFilter where
  filterId : UInt64
  name : String
  description : String
  /-- `FWPM_FILTER_FLAG_DISABLED`. -/
  disabled : Bool
  layerKey : LayerKey
  weight : UInt64
  filterConditions : List NativeCondition
  action : WfpAction
  deriving DecidableEq, Repr

/-- The table and the filters it has in the kernel. -/
structure World where
  table : FilterTable
  kernel : List KernelFilter
  deriving DecidableEq, Repr

def World.new : World := ⟨.new, []⟩

/-- What `register_in_kernel` hands to `FwpmFilterAdd0`. -/
def native (filter : WfpFilter) : EngineResult KernelFilter :=
  match resolve filter.layer with
  | none => .error (.withMessage .invalidArgument "unknown WFP layer")
  | some layerKey =>
    match filter.conditions.mapM NativeCondition.fromCondition with
    | .error e => .error e
    | .ok filterConditions =>
      .ok {
        filterId := 0
        name := filter.name
        description := "network-engine filter " ++ toString filter.id
        disabled := !filter.enabled
        layerKey
        weight := filter.weight
        filterConditions
        action := filter.action }

/-- What `insert` does before it calls the kernel. -/
def prepare (t : FilterTable) (filter : WfpFilter) : EngineResult KernelFilter :=
  if t.filters.any (·.id == filter.id) then .error .invalidArgument
  else if t.engineHandle = none then .error .notInitialized
  else native filter

/-- The order of `insert`: by weight downwards, then by id. -/
def byWeight (left right : WfpFilter) : Ordering :=
  (compare right.weight left.weight).then (compare left.id right.id)

/-- `insert`; `added` is what `FwpmFilterAdd0` answers, a status or the id of the kernel. -/
def insert (filter : WfpFilter) (added : Except Int UInt64) : Op World EngineError Unit :=
  atomically fun w =>
    match prepare w.table filter with
    | .error e => .error e
    | .ok native =>
      match added with
      | .error status => .error (.backend .backendStartFailed "wfp" (some status))
      | .ok kernelId =>
        let filters := w.table.filters ++ [{ filter with kernelFilterId := kernelId }]
        .ok ((), ⟨{ w.table with filters := sortBy byWeight filters },
          { native with filterId := kernelId } :: w.kernel⟩)

/-- What `FwpmFilterDeleteById0` returns for the filters of the kernel. -/
abbrev Deletions := UInt64 → Int

/-- `FwpmFilterDeleteById0`. -/
def delete (deletions : Deletions) (kernelId : UInt64) (kernel : List KernelFilter) :
    List KernelFilter :=
  if deletions kernelId = 0 then kernel.filter (·.filterId != kernelId) else kernel

def remove (deletions : Deletions) (id : UInt64) (w : World) : Option WfpFilter × World :=
  match w.table.filters.find? (·.id == id) with
  | none => (none, w)
  | some filter =>
    let table := { w.table with filters := w.table.filters.eraseP (·.id == id) }
    if filter.kernelFilterId ≠ 0 ∧ w.table.engineHandle ≠ none then
      -- What the kernel answers is dropped.
      (some filter, ⟨table, delete deletions filter.kernelFilterId w.kernel⟩)
    else (some filter, ⟨table, w.kernel⟩)

def clear (deletions : Deletions) (w : World) : World :=
  (w.table.filters.map (·.id)).foldl (fun w id => (remove deletions id w).2) w

/-- `initialize`. -/
def initializeTable (n : WfpInitializeAnswers) : Op World EngineError Unit := atomically fun w =>
  if w.table.engineHandle.isSome then .error .alreadyInitialized
  else
    match n.opened with
    | .error status => .error (.backend .backendInitializationFailed "wfp" (some status))
    | .ok handle =>
      match n.addSublayer with
      | .error e => .error e
      | .ok () => .ok ((), { w with table.engineHandle := some handle })

/-- `shutdown`; `status` is what `FwpmEngineClose0` returns. -/
def shutdown (deletions : Deletions) (status : Int) : Op World EngineError Unit := do
  modifyState (clear deletions)
  let w ← getState
  match w.table.engineHandle with
  | none => pure ()
  | some _ => do
    modifyState fun w => { w with table.engineHandle := none }
    if status ≠ 0 then throw (.backend .backendShutdownFailed "wfp" (some status))

/-! ## 2. Runs -/

inductive Turn where
  | initializeTable (n : WfpInitializeAnswers)
  | insert (filter : WfpFilter) (added : Except Int UInt64)
  | remove (id : UInt64) (deletions : Deletions)
  | clear (deletions : Deletions)
  | shutdown (deletions : Deletions) (status : Int)

def World.step (w : World) : Turn → World
  | .initializeTable n => (exec (initializeTable n) w).2
  | .insert filter added => (exec (insert filter added) w).2
  | .remove id deletions => (remove deletions id w).2
  | .clear deletions => clear deletions w
  | .shutdown deletions status => (exec (shutdown deletions status) w).2

/-- The table has this filter of the kernel. -/
def Recorded (w : World) (kernelId : UInt64) : Prop :=
  ∃ f ∈ w.table.filters, f.kernelFilterId = kernelId

/-- The kernel has this filter. -/
def Enforced (w : World) (kernelId : UInt64) : Prop := ∃ k ∈ w.kernel, k.filterId = kernelId

/-- With an open handle the table and the kernel hold the same filters; a filter of the kernel is
never missing from the table. -/
structure InStep (w : World) : Prop where
  same : w.table.engineHandle ≠ none → ∀ kernelId, Enforced w kernelId ↔ Recorded w kernelId
  recorded : ∀ kernelId, Enforced w kernelId → Recorded w kernelId

/-- When `FwpmFilterAdd0` is called and succeeds, its id is not zero and not in use. -/
def Fresh (w : World) : Turn → Prop
  | .insert filter (.ok kernelId) =>
    (prepare w.table filter).isOk = true → kernelId ≠ 0 ∧ ¬ Enforced w kernelId
  | .insert _ (.error _) | .initializeTable _ | .remove _ _ | .clear _ | .shutdown _ _ => True

/-- Every `FwpmFilterDeleteById0` of the turn succeeds. -/
def AllDeleted (w : World) : Turn → Prop
  | .remove id deletions => ∀ f ∈ w.table.filters, f.id = id → deletions f.kernelFilterId = 0
  | .clear deletions | .shutdown deletions _ =>
    ∀ f ∈ w.table.filters, deletions f.kernelFilterId = 0
  | .initializeTable _ | .insert _ _ => True

instance (w : World) (kernelId : UInt64) : Decidable (Recorded w kernelId) :=
  inferInstanceAs (Decidable (∃ f ∈ w.table.filters, _))

instance (w : World) (kernelId : UInt64) : Decidable (Enforced w kernelId) :=
  inferInstanceAs (Decidable (∃ k ∈ w.kernel, _))

instance (w : World) : ∀ turn, Decidable (Fresh w turn)
  | .insert filter (.ok kernelId) =>
    inferInstanceAs (Decidable ((prepare w.table filter).isOk = true →
      kernelId ≠ 0 ∧ ¬ Enforced w kernelId))
  | .insert _ (.error _) | .initializeTable _ | .remove _ _ | .clear _ | .shutdown _ _ =>
    isTrue trivial

instance (w : World) : ∀ turn, Decidable (AllDeleted w turn)
  | .remove id deletions =>
    inferInstanceAs (Decidable (∀ f ∈ w.table.filters, f.id = id → deletions f.kernelFilterId = 0))
  | .clear deletions | .shutdown deletions _ =>
    inferInstanceAs (Decidable (∀ f ∈ w.table.filters, deletions f.kernelFilterId = 0))
  | .initializeTable _ | .insert _ _ => isTrue trivial

/-! ## 3. Removals -/

variable {w : World} {d : Deletions} {id kernelId : UInt64} {status : Int}

theorem eraseP_eq_filter {α β : Type} [BEq β] [LawfulBEq β] {key : α → β} {l : List α} {b : β}
    (h : (l.map key).Nodup) : l.eraseP (key · == b) = l.filter (key · != b) := by
  induction l with
  | nil => rfl
  | cons a l ih =>
    rw [List.map_cons, List.nodup_cons] at h
    by_cases hb : key a = b
    · -- No other element has the key.
      have hrest : l.filter (key · != b) = l := by
        rw [List.filter_eq_self]
        intro c hc
        rw [bne_iff_ne]
        intro hkey
        exact h.1 (hb ▸ hkey ▸ List.mem_map_of_mem hc)
      simp [hb, hrest]
    · simp [hb, ih h.2]

@[simp] theorem remove_filters (d : Deletions) (id : UInt64) (w : World) :
    (remove d id w).2.table.filters = w.table.filters.eraseP (·.id == id) := by
  unfold remove
  cases hfind : w.table.filters.find? (·.id == id) with
  | none => exact (List.eraseP_of_forall_not (List.find?_eq_none.mp hfind)).symm
  | some f =>
    dsimp only
    split <;> rfl

@[simp] theorem remove_handle (d : Deletions) (id : UInt64) (w : World) :
    (remove d id w).2.table.engineHandle = w.table.engineHandle := by
  unfold remove
  cases w.table.filters.find? (·.id == id) with
  | none => rfl
  | some f =>
    dsimp only
    split <;> rfl

/-- A deletion that fails leaves the filter in the kernel. -/
theorem remove_enforced (h : Enforced w kernelId) (hfails : d kernelId ≠ 0) (id : UInt64) :
    Enforced (remove d id w).2 kernelId := by
  unfold remove
  cases w.table.filters.find? (·.id == id) with
  | none => exact h
  | some f =>
    dsimp only
    split
    · obtain ⟨k, hk, rfl⟩ := h
      refine ⟨k, ?_, rfl⟩
      show k ∈ delete d f.kernelFilterId w.kernel
      unfold delete
      split
      · rename_i hdeleted
        rw [List.mem_filter, bne_iff_ne]
        refine ⟨hk, ?_⟩
        intro heq
        exact hfails (heq ▸ hdeleted)
      · exact hk
    · exact h

/-- `clear` removes what is in front, one filter after the other. -/
theorem clear_eq (d : Deletions) (w : World) {f : WfpFilter} {rest : List WfpFilter}
    (h : w.table.filters = f :: rest) : clear d w = clear d (remove d f.id w).2 := by
  have hfilters : (remove d f.id w).2.table.filters = rest := by
    rw [remove_filters, h]
    simp
  unfold clear
  rw [hfilters, h]
  rfl

/-- What every removal keeps, `clear` keeps; it leaves the table empty and the handle as it is. -/
theorem clear_spec {P : World → Prop} (hremove : ∀ w id, P w → P (remove d id w).2) (h : P w) :
    P (clear d w) ∧ (clear d w).table.filters = [] ∧
      (clear d w).table.engineHandle = w.table.engineHandle := by
  generalize hfilters : w.table.filters = filters
  induction filters generalizing w with
  | nil =>
    have hclear : clear d w = w := by
      rw [clear, hfilters]
      rfl
    rw [hclear]
    exact ⟨h, hfilters, rfl⟩
  | cons f rest ih =>
    have hrest : (remove d f.id w).2.table.filters = rest := by
      rw [remove_filters, hfilters]
      simp
    rw [clear_eq d w hfilters, ← remove_handle d f.id w]
    exact ih (hremove w f.id h) hrest

theorem clear_filters (d : Deletions) (w : World) : (clear d w).table.filters = [] :=
  (clear_spec (P := fun _ => True) (fun _ _ _ => trivial) trivial).2.1

theorem clear_handle (d : Deletions) (w : World) :
    (clear d w).table.engineHandle = w.table.engineHandle :=
  (clear_spec (P := fun _ => True) (fun _ _ _ => trivial) trivial).2.2

theorem clear_enforced (h : Enforced w kernelId) (hfails : d kernelId ≠ 0) :
    Enforced (clear d w) kernelId :=
  (clear_spec (P := (Enforced · kernelId)) (fun _ id h => remove_enforced h hfails id) h).1

theorem shutdown_snd (d : Deletions) (status : Int) (w : World) :
    (exec (shutdown d status) w).2 =
      { clear d w with table := { (clear d w).table with engineHandle := none } } := by
  unfold shutdown
  simp only [exec_bind, exec_modifyState, exec_getState]
  generalize clear d w = v
  obtain ⟨⟨filters, handle⟩, kernel⟩ := v
  cases handle with
  | none => rfl
  | some handle =>
    simp only [exec_bind, exec_modifyState]
    split
    · rfl
    · rfl

/-! ### The handle -/

/-- `initialize` and `shutdown` treat the handle as the table that remembers handles does. -/
theorem initializeTable_ids (n : WfpInitializeAnswers) (w : World) :
    (exec (initializeTable n) w).1 =
        (exec (WfpFilterTable.initializeTable n) (w.table.ids, [])).1 ∧
      (exec (initializeTable n) w).2.table.ids =
        (Traced.calls (WfpFilterTable.initializeTable n) w.table.ids).1 := by
  obtain ⟨⟨filters, handle⟩, kernel⟩ := w
  obtain ⟨opened, addSublayer, closed⟩ := n
  cases handle with
  | some handle => exact ⟨rfl, rfl⟩
  | none =>
    cases opened with
    | error status => exact ⟨rfl, rfl⟩
    | ok handle => cases addSublayer <;> exact ⟨rfl, rfl⟩

theorem shutdown_ids (d : Deletions) (status : Int) (w : World) :
    (exec (shutdown d status) w).2.table.ids =
      (Traced.calls (WfpFilterTable.shutdown status) w.table.ids).1 := by
  have hids : (Traced.calls (WfpFilterTable.shutdown status) w.table.ids).1 = .new := by
    obtain ⟨⟨filters, handle⟩, kernel⟩ := w
    cases handle with
    | none => rfl
    | some handle =>
      by_cases hstatus : status = 0 <;>
        simp [Traced.calls, WfpFilterTable.shutdown, WfpFilterTable.new, FilterTable.ids, exec_bind,
          hstatus]
  rw [hids, shutdown_snd]
  show WfpFilterTable.mk ((clear d w).table.filters.map (·.id)) none = .new
  rw [clear_filters]
  rfl

/-! ## 4. The invariant -/

structure Inv (w : World) : Prop where
  ids : (w.table.filters.map (·.id)).Nodup
  kernelIds : (w.table.filters.map (·.kernelFilterId)).Nodup
  nonzero : ∀ f ∈ w.table.filters, f.kernelFilterId ≠ 0
  same : ∀ kernelId, Enforced w kernelId ↔ Recorded w kernelId
  -- `insert` needs the handle, and `shutdown` clears the table first.
  closed : w.table.engineHandle = none → w.table.filters = []

theorem Inv.new : Inv .new where
  ids := List.nodup_nil
  kernelIds := List.nodup_nil
  nonzero := List.forall_mem_nil _
  same kernelId := by simp [Enforced, Recorded, World.new, FilterTable.new]
  closed _ := rfl

theorem Inv.inStep (h : Inv w) : InStep w :=
  ⟨fun _ => h.same, fun kernelId => (h.same kernelId).mp⟩

theorem Inv.initializeTable (h : Inv w) (n : WfpInitializeAnswers) :
    Inv (exec (WfpFilters.initializeTable n) w).2 := by
  rw [WfpFilters.initializeTable, exec_atomically]
  dsimp only
  split_ifs with hhandle
  · exact h
  · cases n.opened with
    | error status => exact h
    | ok handle =>
      cases n.addSublayer with
      | error e => exact h
      | ok u => exact ⟨h.ids, h.kernelIds, h.nonzero, h.same, nofun⟩

/-- The checks of `insert`. -/
theorem prepare_ok {t : FilterTable} {filter : WfpFilter} {native : KernelFilter}
    (h : prepare t filter = .ok native) :
    (∀ f ∈ t.filters, f.id ≠ filter.id) ∧ t.engineHandle ≠ none := by
  unfold prepare at h
  split_ifs at h with hany hhandle
  refine ⟨fun f hf heq => ?_, hhandle⟩
  exact hany (List.any_eq_true.mpr ⟨f, hf, beq_iff_eq.mpr heq⟩)

theorem insert_fails {filter : WfpFilter} {added : Except Int UInt64} {e : EngineError}
    (h : (exec (insert filter added) w).1 = .error e) : (exec (insert filter added) w).2 = w :=
  exec_atomically_unchanged h

/-- A filter that both sides have taken. -/
theorem Inv.added (h : Inv w) {f : WfpFilter} {native : KernelFilter}
    (hids : ∀ g ∈ w.table.filters, g.id ≠ f.id) (hhandle : w.table.engineHandle ≠ none)
    (hkernel : native.filterId = f.kernelFilterId) (hzero : f.kernelFilterId ≠ 0)
    (hfresh : ¬ Enforced w f.kernelFilterId) :
    Inv ⟨{ w.table with filters := sortBy byWeight (w.table.filters ++ [f]) },
      native :: w.kernel⟩ := by
  have hperm : (sortBy byWeight (w.table.filters ++ [f])).Perm (w.table.filters ++ [f]) :=
    sortBy_perm
  have hmem {g : WfpFilter} : g ∈ sortBy byWeight (w.table.filters ++ [f]) ↔
      g ∈ w.table.filters ∨ g = f := by
    rw [hperm.mem_iff, List.mem_append, List.mem_singleton]
  refine ⟨?_, ?_, ?_, ?_, fun hnone => absurd hnone hhandle⟩
  · rw [(hperm.map _).nodup_iff, List.map_append, List.nodup_append]
    refine ⟨h.ids, List.nodup_singleton _, ?_⟩
    intro id hid id' hid' heq
    rcases List.mem_map.mp hid with ⟨g, hg, rfl⟩
    exact hids g hg (heq.trans (List.mem_singleton.mp hid'))
  · rw [(hperm.map _).nodup_iff, List.map_append, List.nodup_append]
    refine ⟨h.kernelIds, List.nodup_singleton _, ?_⟩
    intro id hid id' hid' heq
    rcases List.mem_map.mp hid with ⟨g, hg, rfl⟩
    refine hfresh ((h.same _).mpr ⟨g, hg, ?_⟩)
    exact heq.trans (List.mem_singleton.mp hid')
  · intro g hg
    rcases hmem.mp hg with hold | rfl
    · exact h.nonzero g hold
    · exact hzero
  · intro kernelId
    have hsame := h.same kernelId
    constructor
    · intro henforced
      rcases henforced with ⟨k, hk, hid⟩
      rcases List.mem_cons.mp hk with rfl | hold
      · exact ⟨f, hmem.mpr (.inr rfl), hkernel.symm.trans hid⟩
      · rcases hsame.mp ⟨k, hold, hid⟩ with ⟨g, hg, hgid⟩
        exact ⟨g, hmem.mpr (.inl hg), hgid⟩
    · intro hrecorded
      rcases hrecorded with ⟨g, hg, hgid⟩
      rcases hmem.mp hg with hold | rfl
      · rcases hsame.mpr ⟨g, hold, hgid⟩ with ⟨k, hk, hid⟩
        exact ⟨k, List.mem_cons_of_mem _ hk, hid⟩
      · exact ⟨native, List.mem_cons_self, hkernel.trans hgid⟩

theorem Inv.insert (h : Inv w) {filter : WfpFilter} {added : Except Int UInt64}
    (hfresh : Fresh w (.insert filter added)) :
    Inv (exec (WfpFilters.insert filter added) w).2 := by
  rw [WfpFilters.insert, exec_atomically]
  dsimp only
  cases hprepare : prepare w.table filter with
  | error e => exact h
  | ok native =>
    cases added with
    | error status => exact h
    | ok kernelId =>
      have hchecks := prepare_ok hprepare
      have hid := hfresh (by rw [hprepare]; rfl)
      exact h.added (f := { filter with kernelFilterId := kernelId }) hchecks.1 hchecks.2 rfl
        hid.1 hid.2

/-- Filters with one id in the kernel are one. -/
theorem Inv.eq_of_kernelId (h : Inv w) {f g : WfpFilter} (hf : f ∈ w.table.filters)
    (hg : g ∈ w.table.filters) (heq : f.kernelFilterId = g.kernelFilterId) : f = g :=
  List.inj_on_of_nodup_map h.kernelIds hf hg heq

/-- After a removal the table has all other filters. -/
theorem Inv.mem_remove (h : Inv w) {g : WfpFilter} :
    g ∈ (WfpFilters.remove d id w).2.table.filters ↔ g ∈ w.table.filters ∧ g.id ≠ id := by
  rw [remove_filters, eraseP_eq_filter h.ids, List.mem_filter, bne_iff_ne]

theorem Inv.remove (h : Inv w)
    (hdeleted : ∀ f ∈ w.table.filters, f.id = id → d f.kernelFilterId = 0) :
    Inv (WfpFilters.remove d id w).2 := by
  have hsub : (WfpFilters.remove d id w).2.table.filters.Sublist w.table.filters := by
    rw [remove_filters]
    exact List.eraseP_sublist
  refine ⟨h.ids.sublist (hsub.map _), h.kernelIds.sublist (hsub.map _),
    fun f hf => h.nonzero f (hsub.mem hf), ?_, ?_⟩
  · intro kernelId
    cases hfind : w.table.filters.find? (·.id == id) with
    | none =>
      rw [WfpFilters.remove, hfind]
      exact h.same kernelId
    | some f =>
      have hf := List.mem_of_find?_eq_some hfind
      have hid : f.id = id := beq_iff_eq.mp (List.find?_some (p := fun g : WfpFilter => g.id == id) hfind)
      have hhandle : w.table.engineHandle ≠ none := fun hnone =>
        List.not_mem_nil (h.closed hnone ▸ hf)
      have hkernel : (WfpFilters.remove d id w).2.kernel =
          w.kernel.filter (·.filterId != f.kernelFilterId) := by
        rw [WfpFilters.remove, hfind]
        dsimp only
        rw [if_pos ⟨h.nonzero f hf, hhandle⟩]
        exact if_pos (hdeleted f hf hid)
      have henforced : Enforced (WfpFilters.remove d id w).2 kernelId ↔
          Enforced w kernelId ∧ kernelId ≠ f.kernelFilterId := by
        unfold Enforced
        rw [hkernel]
        constructor
        · intro hk
          rcases hk with ⟨k, hk, rfl⟩
          rw [List.mem_filter, bne_iff_ne] at hk
          exact ⟨⟨k, hk.1, rfl⟩, hk.2⟩
        · intro hk
          obtain ⟨⟨k, hk, rfl⟩, hne⟩ := hk
          exact ⟨k, List.mem_filter.mpr ⟨hk, bne_iff_ne.mpr hne⟩, rfl⟩
      have hrecorded : Recorded (WfpFilters.remove d id w).2 kernelId ↔
          Recorded w kernelId ∧ kernelId ≠ f.kernelFilterId := by
        constructor
        · intro hg
          rcases hg with ⟨g, hg, rfl⟩
          have hg := h.mem_remove.mp hg
          refine ⟨⟨g, hg.1, rfl⟩, fun heq => ?_⟩
          rw [h.eq_of_kernelId hg.1 hf heq] at hg
          exact hg.2 hid
        · intro hg
          obtain ⟨⟨g, hg, rfl⟩, hne⟩ := hg
          refine ⟨g, h.mem_remove.mpr ⟨hg, fun heq => ?_⟩, rfl⟩
          rw [List.inj_on_of_nodup_map h.ids hg hf (heq.trans hid.symm)] at hne
          exact hne rfl
      rw [henforced, hrecorded, h.same kernelId]
  · rw [remove_handle]
    intro hnone
    rw [remove_filters, h.closed hnone]
    rfl

theorem Inv.clear (h : Inv w) (hdeleted : ∀ f ∈ w.table.filters, d f.kernelFilterId = 0) :
    Inv (WfpFilters.clear d w) := by
  refine (clear_spec (P := fun w => Inv w ∧ ∀ f ∈ w.table.filters, d f.kernelFilterId = 0)
    (fun v id hv => ?_) ⟨h, hdeleted⟩).1.1
  refine ⟨hv.1.remove fun f hf _ => hv.2 f hf, fun f hf => ?_⟩
  exact hv.2 f (hv.1.mem_remove.mp hf).1

/-! ## 5. Runs in step -/

theorem Inv.step (h : Inv w) {turn : Turn} (hfresh : Fresh w turn) (hdeleted : AllDeleted w turn) :
    Inv (w.step turn) := by
  cases turn with
  | initializeTable n => exact h.initializeTable n
  | insert filter added => exact h.insert hfresh
  | remove id d => exact h.remove hdeleted
  | clear d => exact h.clear hdeleted
  | shutdown d status =>
    have hclear := h.clear hdeleted
    rw [World.step, shutdown_snd]
    exact ⟨hclear.ids, hclear.kernelIds, hclear.nonzero, hclear.same, fun _ => clear_filters d w⟩

/-- A filter whose deletion fails stays in the kernel, and the table has forgotten it. -/
theorem Inv.not_inStep (h : Inv w) {turn : Turn} (hfails : ¬ AllDeleted w turn) :
    ¬ InStep (w.step turn) := by
  intro hafter
  have hcleared {d : Deletions} (hfails : ¬ ∀ f ∈ w.table.filters, d f.kernelFilterId = 0) :
      ∃ kernelId, Enforced (WfpFilters.clear d w) kernelId := by
    push Not at hfails
    rcases hfails with ⟨f, hf, hfails⟩
    exact ⟨f.kernelFilterId, clear_enforced ((h.same _).mpr ⟨f, hf, rfl⟩) hfails⟩
  cases turn with
  | initializeTable n => exact hfails trivial
  | insert filter added => exact hfails trivial
  | remove id d =>
    simp only [AllDeleted] at hfails
    push Not at hfails
    rcases hfails with ⟨f, hf, hid, hfails⟩
    have hkept := remove_enforced ((h.same _).mpr ⟨f, hf, rfl⟩) hfails id
    rcases hafter.recorded _ hkept with ⟨g, hg, hkernel⟩
    have hg := h.mem_remove.mp hg
    rw [h.eq_of_kernelId hg.1 hf hkernel] at hg
    exact hg.2 hid
  | clear d =>
    rcases hcleared hfails with ⟨kernelId, hkept⟩
    rcases hafter.recorded kernelId hkept with ⟨g, hg, -⟩
    rw [World.step, clear_filters] at hg
    nomatch hg
  | shutdown d status =>
    rcases hcleared hfails with ⟨kernelId, hkept⟩
    rw [World.step, shutdown_snd] at hafter
    rcases hafter.recorded kernelId hkept with ⟨g, hg, -⟩
    dsimp only at hg
    rw [clear_filters] at hg
    nomatch hg

/-- The table and the kernel are in step in every state of a run exactly when every deletion that
the run asks the kernel for succeeds; an insert that fails changes neither. -/
theorem in_step_run_iff (turns : List Turn) (hfresh : Along World.step Fresh .new turns) :
    (Always World.step InStep .new turns ↔ Along World.step AllDeleted .new turns) ∧
      ∀ w filter added e, (exec (insert filter added) w).1 = .error e →
        (exec (insert filter added) w).2 = w := by
  refine ⟨?_, fun w filter added e hfails => insert_fails hfails⟩
  rw [always_iff, and_iff_right Inv.new.inStep]
  -- The ids of the kernel are fresh on both sides.
  have hiff : Along World.step (fun w turn => InStep (w.step turn) ∧ Fresh w turn) .new turns ↔
      Along World.step (fun w turn => AllDeleted w turn ∧ Fresh w turn) .new turns := by
    apply along_iff Inv ?_ ?_ Inv.new
    · intro w turn h hturn
      by_cases hdeleted : AllDeleted w turn
      · exact h.step hturn.2 hdeleted
      · exact absurd hturn.1 (h.not_inStep hdeleted)
    · intro w turn h
      constructor
      · intro hturn
        refine ⟨?_, hturn.2⟩
        by_contra hfails
        exact h.not_inStep hfails hturn.1
      · exact fun hturn => ⟨(h.step hturn.2 hturn.1).inStep, hturn.2⟩
  rw [along_and, along_and, and_iff_left hfresh, and_iff_left hfresh] at hiff
  exact hiff

/-- A filter is installed and removed, and the table is shut down. -/
def blockedAndRemoved (status : Int) : List Turn :=
  [.initializeTable ⟨.ok 7, .ok (), true⟩,
    .insert ⟨1, "telnet", "outbound_transport_v4", .block, [⟨"remote_port", [0, 23], none⟩], true,
      10, 0⟩ (.ok 66),
    .remove 1 (fun _ => status), .shutdown (fun _ => 0) 0]

theorem in_step_run_iff_removed :
    Always World.step InStep .new (blockedAndRemoved 0) :=
  (in_step_run_iff (blockedAndRemoved 0) (by decide)).1.mpr (by decide)

/-- The kernel refuses to delete a filter that blocks: nothing is left to remove it with. -/
theorem refused_deletion_forgotten :
    Along World.step Fresh .new (blockedAndRemoved (-1)) ∧
      ¬ Always World.step InStep .new (blockedAndRemoved (-1)) := by
  refine ⟨by decide, fun h => ?_⟩
  have hend := (h (blockedAndRemoved (-1)) [] (List.append_nil _).symm).recorded 66
  revert hend
  decide

end WfpFilters

end NetworkEngine
