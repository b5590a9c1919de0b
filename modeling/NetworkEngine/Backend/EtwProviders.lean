import NetworkEngine.Core.Metadata
import NetworkEngine.Lib.Copies
import NetworkEngine.Lib.Logged

/-!
# EtwProviders — event providers and their copies

`backend_etw`: the provider that registers with ETW, the events that it writes, and the backend
around it.  A provider can be cloned with its registration handle in it, and each of the clones
unregisters that handle when it stops or is dropped.  The books of the handles say in which runs ETW
is called with open handles only.
-/

namespace NetworkEngine.Etw

open Rust Ledger Transition

/-! ## 1. Events -/

inductive EtwSeverity where
  | trace
  | debug
  | info
  | warning
  | error
  | critical
  deriving DecidableEq, Repr

namespace EtwSeverity

def asStr : EtwSeverity → String
  | trace => "trace"
  | debug => "debug"
  | info => "info"
  | warning => "warning"
  | error => "error"
  | critical => "critical"

/-- `severity_to_etw_level`. -/
def toEtwLevel : EtwSeverity → UInt8
  | critical => 1
  | error => 2
  | warning => 3
  | info => 4
  | debug | trace => 5

end EtwSeverity

/-- Without the id, the kind and the time, which `emit` does not read. -/
structure EtwEvent where
  severity : EtwSeverity
  provider : String
  message : String
  deriving DecidableEq, Repr

/-- Its `Display`. -/
def EtwEvent.display (event : EtwEvent) : String :=
  "[" ++ event.severity.asStr ++ "] " ++ event.provider ++ ": " ++ event.message

/-- `char::encode_utf16`. -/
def encodeUtf16 (c : Char) : List UInt16 :=
  if c.toNat < 0x10000 then [.ofNat c.toNat]
  else [.ofNat (0xd800 + (c.toNat - 0x10000) / 0x400), .ofNat (0xdc00 + (c.toNat - 0x10000) % 0x400)]

def toWideNull (value : String) : List UInt16 := value.toList.flatMap encodeUtf16 ++ [0]

/-! ## 2. The provider -/

inductive EtwError where
  | alreadyRunning
  | notRunning
  | invalidProviderName
  | eventRejected
  | registrationFailed
  deriving DecidableEq, Repr

/-- A call of ETW.  An `EventRegister` that fails hands out nothing and is not listed. -/
inductive NativeCall where
  | eventRegister (handle : UInt64)
  | eventWriteString (handle : UInt64) (level : UInt8) (text : List UInt16)
  | eventUnregister (handle : UInt64)
  deriving DecidableEq, Repr

def NativeCall.event : NativeCall → Event UInt64
  | eventRegister handle => .opened handle
  | eventWriteString handle _ _ => .used handle
  | eventUnregister handle => .closed handle

structure EtwProvider where
  name : String
  running : Bool
  handle : Option UInt64
  deriving DecidableEq, Repr

/-- What `EventRegister` answers. -/
structure RegisterAnswer where
  status : UInt32
  handle : UInt64
  deriving DecidableEq, Repr

/-- A provider next to the native calls made so far. -/
abbrev ProviderOp (α : Type) := Op (Logged EtwProvider NativeCall) EtwError α

namespace EtwProvider

def new (name : String) : EtwProvider := ⟨name, false, none⟩

def provider : ProviderOp EtwProvider := onObject getState

def update (f : EtwProvider → EtwProvider) : ProviderOp Unit := onObject (modifyState f)

def start (answer : RegisterAnswer) : ProviderOp Unit := do
  let p ← provider
  if p.running then throw .alreadyRunning
  if (trim p.name).isEmpty then throw .invalidProviderName
  if answer.status ≠ 0 ∨ answer.handle = 0 then throw .registrationFailed
  write (.eventRegister answer.handle)
  update fun p => { p with handle := some answer.handle }
  update fun p => { p with running := true }

/-- `if let Some(handle) = self.handle.take()`. -/
def unregister : ProviderOp Unit := do
  let p ← provider
  match p.handle with
  | some handle => do
    update fun p => { p with handle := none }
    write (.eventUnregister handle)
  | none => pure ()

def stop : ProviderOp Unit := do
  let p ← provider
  if !p.running then throw .notRunning
  unregister
  update fun p => { p with running := false }

/-- `status` is what `EventWriteString` answers. -/
def emit (event : EtwEvent) (status : UInt32) : ProviderOp Unit := do
  let p ← provider
  if !p.running then throw .notRunning
  if (trim event.provider).isEmpty ∨ (trim event.message).isEmpty then throw .eventRejected
  match p.handle with
  | none => throw .notRunning
  | some handle => do
    write (.eventWriteString handle event.severity.toEtwLevel (toWideNull event.display))
    if status ≠ 0 then throw .eventRejected

/-- The event is written under the provider's own name. -/
def emitSimple (severity : EtwSeverity) (message : String) (status : UInt32) : ProviderOp Unit := do
  let p ← provider
  emit ⟨severity, p.name, message⟩ status

/-- `Drop`. -/
def drop : ProviderOp Unit := do
  unregister
  update fun p => { p with running := false }

end EtwProvider

/-! ## 3. The backend around it -/

structure EtwBackend where
  provider : EtwProvider
  running : Bool
  deriving DecidableEq, Repr

abbrev BackendOp (α : Type) := Op (Logged EtwBackend NativeCall) EtwError α

namespace EtwBackend

def new (provider : EtwProvider) : EtwBackend := ⟨provider, false⟩

/-- `provider_mut`, and an operation on the provider. -/
def providerMut {α : Type} (x : ProviderOp α) : BackendOp α :=
  zoom (fun t => (t.1.provider, t.2)) (fun t s => ({ t.1 with provider := s.1 }, s.2)) x

def start (answer : RegisterAnswer) : BackendOp Unit := do
  let b ← onObject getState
  if b.running then return ()
  providerMut (EtwProvider.start answer)
  onObject (modifyState fun b => { b with running := true })

def stop : BackendOp Unit := do
  let b ← onObject getState
  if !b.running then return ()
  providerMut EtwProvider.stop
  onObject (modifyState fun b => { b with running := false })

/-- `Drop`, and then that of the provider. -/
def drop : BackendOp Unit := do
  let _ ← attempt (ε := EtwError) stop
  providerMut EtwProvider.drop

end EtwBackend

/-! ## 4. Runs -/

/-- A provider of its own, or one inside a backend. -/
inductive Holder where
  | provider (p : EtwProvider)
  | backend (b : EtwBackend)
  deriving DecidableEq, Repr

def Holder.ofProvider : Holder → EtwProvider
  | provider p => p
  | backend b => b.provider

inductive Turn where
  | new (name : String)
  /-- `EtwBackend::new` takes a provider over. -/
  | wrap (i : Nat)
  /-- The provider is cloned, also that of a backend. -/
  | clone (i : Nat)
  | start (i : Nat) (answer : RegisterAnswer)
  | stop (i : Nat)
  | emit (i : Nat) (event : EtwEvent) (status : UInt32)
  | emitSimple (i : Nat) (severity : EtwSeverity) (message : String) (status : UInt32)
  | startBackend (i : Nat) (answer : RegisterAnswer)
  | stopBackend (i : Nat)
  | drop (i : Nat)

/-- The providers and backends there are, with the native calls made so far and the handles that
were in a provider when it was cloned. -/
structure World where
  holders : List Holder
  calls : List NativeCall
  copied : List UInt64
  deriving DecidableEq, Repr

namespace World

/-- The operation on the provider of a holder. -/
def onProvider (x : ProviderOp Unit) : Holder → List NativeCall → Holder × List NativeCall
  | .provider p, calls => let t := (exec x (p, calls)).2; (.provider t.1, t.2)
  | .backend b, calls => let t := (exec (EtwBackend.providerMut x) (b, calls)).2; (.backend t.1, t.2)

/-- The operation on a backend; a provider has none. -/
def onBackend (x : BackendOp Unit) : Holder → List NativeCall → Holder × List NativeCall
  | .provider p, calls => (.provider p, calls)
  | .backend b, calls => let t := (exec x (b, calls)).2; (.backend t.1, t.2)

def dropped : Holder → List NativeCall → List NativeCall
  | .provider p, calls => (exec EtwProvider.drop (p, calls)).2.2
  | .backend b, calls => (exec EtwBackend.drop (b, calls)).2.2

def wrapped : Holder → Holder
  | .provider p => .backend (.new p)
  | .backend b => .backend b

/-- The holder at `i`, if there is one, becomes what the operation makes of it. -/
def onHolder (i : Nat) (x : Holder → List NativeCall → Holder × List NativeCall) (w : World) :
    World :=
  match w.holders[i]? with
  | none => w
  | some holder =>
    let after := x holder w.calls
    { w with holders := w.holders.set i after.1, calls := after.2 }

/-- The clone of a provider keeps the handle that the provider has. -/
def clone (i : Nat) (w : World) : World :=
  match w.holders[i]? with
  | none => w
  | some holder => { w with
    holders := w.holders ++ [.provider holder.ofProvider]
    copied := holder.ofProvider.handle.toList ++ w.copied }

def dropHolder (i : Nat) (w : World) : World :=
  match w.holders[i]? with
  | none => w
  | some holder => { w with holders := w.holders.eraseIdx i, calls := dropped holder w.calls }

def step (w : World) : Turn → World
  | .new name => { w with holders := w.holders ++ [.provider (.new name)] }
  | .wrap i => w.onHolder i fun holder calls => (wrapped holder, calls)
  | .clone i => w.clone i
  | .start i answer => w.onHolder i (onProvider (EtwProvider.start answer))
  | .stop i => w.onHolder i (onProvider EtwProvider.stop)
  | .emit i event status => w.onHolder i (onProvider (EtwProvider.emit event status))
  | .emitSimple i severity message status =>
    w.onHolder i (onProvider (EtwProvider.emitSimple severity message status))
  | .startBackend i answer => w.onHolder i (onBackend (EtwBackend.start answer))
  | .stopBackend i => w.onHolder i (onBackend EtwBackend.stop)
  | .drop i => w.dropHolder i

def start : World := ⟨[], [], []⟩

/-- The handles that the providers have. -/
def handles (w : World) : List UInt64 := w.holders.filterMap (·.ofProvider.handle)

def books (w : World) : Books UInt64 := ⟨w.handles, w.copied, w.calls.map NativeCall.event⟩

end World

/-! ## 5. The entries of each operation -/

variable {σ α : Type} {others copied : List UInt64}

/-- A provider has a handle exactly while it is running. -/
def EtwProvider.Valid (p : EtwProvider) : Prop := p.handle.isSome = true ↔ p.running = true

/-- Whatever the operation does is an entry in the books, whoever else keeps handles. -/
def Enters (held : σ → List UInt64) (valid : σ → Prop) (x : Op (Logged σ NativeCall) EtwError α) :
    Prop :=
  ∀ (others copied : List UInt64) (t : Logged σ NativeCall), valid t.1 →
    Entry ⟨held t.1 ++ others, copied, t.2.map NativeCall.event⟩
      ⟨held (exec x t).2.1 ++ others, copied, (exec x t).2.2.map NativeCall.event⟩ ∧
    valid (exec x t).2.1

namespace EtwProvider

def held (p : EtwProvider) : List UInt64 := p.handle.toList

theorem exec_read {f : EtwProvider → ProviderOp α} (t : Logged EtwProvider NativeCall) :
    exec (provider >>= f) t = exec (f t.1) t := rfl

theorem start_enters (answer : RegisterAnswer) : Enters held Valid (start answer) := by
  rintro others copied ⟨p, calls⟩ hp
  unfold start
  rw [exec_read]
  dsimp only
  split
  · exact ⟨.quiet (.refl _), hp⟩
  rename_i hrun
  split
  · exact ⟨.quiet (.refl _), hp⟩
  split
  · exact ⟨.quiet (.refl _), hp⟩
  · have hnone : p.handle = none := by
      rw [← Option.not_isSome_iff_eq_none]
      exact fun h => hrun (hp.mp h)
    refine ⟨?_, iff_of_true rfl rfl⟩
    show Entry ⟨p.handle.toList ++ others, copied, _⟩
      ⟨answer.handle :: others, copied, (calls ++ [NativeCall.eventRegister answer.handle]).map _⟩
    rw [hnone, List.map_append]
    exact .opened _ (.refl _)

/-- The handle of a provider that has one is closed. -/
theorem exec_unregister (p : EtwProvider) (calls : List NativeCall) :
    exec unregister (p, calls) = (.ok (), ({ p with handle := none },
      calls ++ p.handle.toList.map NativeCall.eventUnregister)) := by
  unfold unregister
  rw [exec_read]
  obtain ⟨name, running, handle⟩ := p
  cases handle with
  | none =>
    show (_, (_, calls)) = (_, (_, calls ++ []))
    rw [List.append_nil]
  | some handle => rfl

/-- A provider that gives its handle up closes it. -/
theorem entry_unregister (p : EtwProvider) (calls : List NativeCall) :
    Entry ⟨held p ++ others, copied, calls.map NativeCall.event⟩ ⟨others, copied,
      (calls ++ p.handle.toList.map NativeCall.eventUnregister).map NativeCall.event⟩ := by
  unfold held
  rw [List.map_append]
  cases p.handle with
  | none =>
    show Entry ⟨others, _, _⟩ ⟨_, _, _ ++ []⟩
    rw [List.append_nil]
    exact .quiet (.refl _)
  | some handle => exact .closed handle (.refl _)

theorem exec_stop {p : EtwProvider} (hrun : p.running = true) (calls : List NativeCall) :
    exec stop (p, calls) = (.ok (), ({ p with handle := none, running := false },
      calls ++ p.handle.toList.map NativeCall.eventUnregister)) := by
  unfold stop
  rw [exec_read]
  dsimp only
  rw [hrun, if_neg (by decide), exec_bind_ok (exec_unregister p calls)]
  rfl

theorem exec_stop_idle {p : EtwProvider} (hrun : ¬ p.running = true) (calls : List NativeCall) :
    exec stop (p, calls) = (.error .notRunning, (p, calls)) := by
  have hfalse : p.running = false := Bool.not_eq_true _ ▸ hrun
  unfold stop
  rw [exec_read]
  dsimp only
  rw [hfalse]
  rfl

theorem stop_enters : Enters held Valid stop := by
  rintro others copied ⟨p, calls⟩ hp
  by_cases hrun : p.running = true
  · rw [exec_stop hrun]
    exact ⟨entry_unregister p calls, iff_of_false Bool.false_ne_true Bool.false_ne_true⟩
  · rw [exec_stop_idle hrun]
    exact ⟨.quiet (.refl _), hp⟩

theorem emit_enters (event : EtwEvent) (status : UInt32) :
    Enters held Valid (emit event status) := by
  rintro others copied ⟨p, calls⟩ hp
  unfold emit
  rw [exec_read]
  dsimp only
  split
  · exact ⟨.quiet (.refl _), hp⟩
  split
  · exact ⟨.quiet (.refl _), hp⟩
  split
  · exact ⟨.quiet (.refl _), hp⟩
  · rename_i handle hhandle
    have hmem : handle ∈ held p ++ others := by
      rw [held, hhandle]
      exact List.mem_cons_self
    have hentry : Entry ⟨held p ++ others, copied, calls.map NativeCall.event⟩
        ⟨held p ++ others, copied, (calls ++ [NativeCall.eventWriteString handle
          event.severity.toEtwLevel (toWideNull event.display)]).map NativeCall.event⟩ := by
      rw [List.map_append]
      refine .used handle ?_ (.refl _)
      exact hmem
    split
    · exact ⟨hentry, hp⟩
    · exact ⟨hentry, hp⟩

theorem emitSimple_enters (severity : EtwSeverity) (message : String) (status : UInt32) :
    Enters held Valid (emitSimple severity message status) := by
  intro others copied t ht
  unfold emitSimple
  rw [exec_read]
  exact emit_enters ⟨severity, t.1.name, message⟩ status others copied t ht

end EtwProvider

namespace EtwBackend

def held (b : EtwBackend) : List UInt64 := b.provider.held

def Valid (b : EtwBackend) : Prop := b.provider.Valid

theorem providerMut_enters {x : ProviderOp α} (hx : Enters EtwProvider.held EtwProvider.Valid x) :
    Enters held Valid (providerMut x) :=
  fun others copied t ht => hx others copied (t.1.provider, t.2) ht

theorem then_update {x : ProviderOp Unit} {f : EtwBackend → EtwBackend}
    (hx : Enters EtwProvider.held EtwProvider.Valid x) (hf : ∀ b, (f b).provider = b.provider) :
    Enters held Valid (do providerMut x; onObject (modifyState f)) := by
  intro others copied t ht
  have hentry := providerMut_enters hx others copied t ht
  rw [exec_bind]
  rcases hexec : exec (providerMut x) t with ⟨_ | _, t'⟩
  · rw [hexec] at hentry
    exact hentry
  · rw [hexec] at hentry
    have hheld : held (f t'.1) = held t'.1 := congrArg EtwProvider.held (hf t'.1)
    have hvalid : Valid (f t'.1) = Valid t'.1 := congrArg EtwProvider.Valid (hf t'.1)
    show Entry _ ⟨held (f t'.1) ++ others, _, _⟩ ∧ Valid (f t'.1)
    rw [hheld, hvalid]
    exact hentry

theorem start_enters (answer : RegisterAnswer) : Enters held Valid (start answer) := by
  intro others copied t ht
  have hread : exec (onObject getState : BackendOp EtwBackend) t = (.ok t.1, t) := rfl
  unfold start
  rw [exec_bind_ok hread]
  split
  · exact ⟨.quiet (.refl _), ht⟩
  · refine then_update (EtwProvider.start_enters answer) ?_ others copied t ht
    exact fun _ => rfl

theorem stop_enters : Enters held Valid stop := by
  intro others copied t ht
  have hread : exec (onObject getState : BackendOp EtwBackend) t = (.ok t.1, t) := rfl
  unfold stop
  rw [exec_bind_ok hread]
  split
  · exact ⟨.quiet (.refl _), ht⟩
  · refine then_update EtwProvider.stop_enters ?_ others copied t ht
    exact fun _ => rfl

theorem exec_providerMut (x : ProviderOp α) (p : EtwProvider) (running : Bool)
    (calls : List NativeCall) :
    exec (providerMut x) (⟨p, running⟩, calls) = ((exec x (p, calls)).1,
      (⟨(exec x (p, calls)).2.1, running⟩, (exec x (p, calls)).2.2)) := rfl

/-- A backend that is running stops exactly if its provider is running, too. -/
theorem exec_stop (p : EtwProvider) (calls : List NativeCall) :
    exec stop (⟨p, true⟩, calls) =
      if p.running then (.ok (), (⟨{ p with handle := none, running := false }, false⟩,
        calls ++ p.handle.toList.map NativeCall.eventUnregister))
      else (.error .notRunning, (⟨p, true⟩, calls)) := by
  have hread : exec (onObject getState : BackendOp EtwBackend) (⟨p, true⟩, calls) =
      (.ok ⟨p, true⟩, (⟨p, true⟩, calls)) := rfl
  unfold stop
  rw [exec_bind_ok hread]
  show exec (providerMut EtwProvider.stop >>= fun _ =>
    onObject (modifyState fun b => { b with running := false })) _ = _
  rw [exec_bind, exec_providerMut]
  by_cases hrun : p.running = true
  · rw [if_pos hrun, EtwProvider.exec_stop hrun]
    rfl
  · rw [if_neg hrun, EtwProvider.exec_stop_idle hrun]

/-- A backend that is dropped closes the handle that its provider has, however it was started. -/
theorem drop_calls {b : EtwBackend} (hb : Valid b) (calls : List NativeCall) :
    (exec drop (b, calls)).2.2 =
      calls ++ b.provider.handle.toList.map NativeCall.eventUnregister := by
  obtain ⟨p, running⟩ := b
  have hrest (p : EtwProvider) (running : Bool) (calls : List NativeCall) :
      (exec (providerMut EtwProvider.drop) (⟨p, running⟩, calls)).2.2 =
        calls ++ p.handle.toList.map NativeCall.eventUnregister := by
    rw [exec_providerMut, EtwProvider.drop, exec_bind_ok (EtwProvider.exec_unregister p calls)]
    rfl
  unfold drop
  rw [exec_bind_ok (exec_attempt ..)]
  cases running with
  | false => exact hrest p false calls
  | true =>
    rw [exec_stop]
    split
    · rw [hrest]
      exact List.append_nil _
    · exact hrest p true calls

end EtwBackend

namespace World

/-- A provider has a handle exactly while it is running. -/
def Valid (w : World) : Prop := ∀ holder ∈ w.holders, holder.ofProvider.Valid

variable {w : World} {i : Nat} {holder : Holder}

/-- An operation on a holder that makes an entry makes one in the books of all. -/
theorem onHolder_entry {x : Holder → List NativeCall → Holder × List NativeCall}
    (hx : ∀ others copied holder calls, holder.ofProvider.Valid →
      Entry ⟨holder.ofProvider.held ++ others, copied, calls.map NativeCall.event⟩
        ⟨(x holder calls).1.ofProvider.held ++ others, copied,
          (x holder calls).2.map NativeCall.event⟩ ∧ (x holder calls).1.ofProvider.Valid)
    (hw : w.Valid) : Entry w.books (w.onHolder i x).books ∧ (w.onHolder i x).Valid := by
  unfold onHolder
  cases hi : w.holders[i]? with
  | none => exact ⟨.quiet (.refl _), hw⟩
  | some holder =>
    obtain ⟨hlt, -⟩ := List.getElem?_eq_some_iff.mp hi
    obtain ⟨hentry, hvalid⟩ := hx
      ((w.holders.eraseIdx i).filterMap (·.ofProvider.handle)) w.copied holder w.calls
      (hw holder (List.mem_of_getElem? hi))
    refine ⟨hentry.of_perm (filterMap_perm_eraseIdx _ hi) (filterMap_set_perm _ hlt _), ?_⟩
    intro other hother
    rcases List.mem_or_eq_of_mem_set hother with hold | rfl
    · exact hw other hold
    · exact hvalid

theorem onProvider_entry {x : ProviderOp Unit}
    (hx : Enters EtwProvider.held EtwProvider.Valid x) (hw : w.Valid) :
    Entry w.books (w.onHolder i (onProvider x)).books ∧ (w.onHolder i (onProvider x)).Valid := by
  refine onHolder_entry (fun others copied holder calls hvalid => ?_) hw
  cases holder with
  | provider p => exact hx others copied (p, calls) hvalid
  | backend b => exact hx others copied (b.provider, calls) hvalid

theorem onBackend_entry {x : BackendOp Unit} (hx : Enters EtwBackend.held EtwBackend.Valid x)
    (hw : w.Valid) :
    Entry w.books (w.onHolder i (onBackend x)).books ∧ (w.onHolder i (onBackend x)).Valid := by
  refine onHolder_entry (fun others copied holder calls hvalid => ?_) hw
  cases holder with
  | provider p => exact ⟨.quiet (.refl _), hvalid⟩
  | backend b => exact hx others copied (b, calls) hvalid

/-- A holder that is dropped closes the handle it has. -/
theorem dropped_calls (hholder : holder.ofProvider.Valid) (calls : List NativeCall) :
    dropped holder calls =
      calls ++ holder.ofProvider.handle.toList.map NativeCall.eventUnregister := by
  cases holder with
  | provider p =>
    show (exec EtwProvider.drop (p, calls)).2.2 = _
    rw [EtwProvider.drop, exec_bind_ok (EtwProvider.exec_unregister p calls)]
    rfl
  | backend b => exact EtwBackend.drop_calls hholder calls

theorem handles_append (holders : List Holder) (p : EtwProvider) :
    ((holders ++ [Holder.provider p]).filterMap fun holder => holder.ofProvider.handle).Perm
      (p.held ++ holders.filterMap fun holder => holder.ofProvider.handle) := by
  have hlast : [Holder.provider p].filterMap (fun holder => holder.ofProvider.handle) = p.held := by
    obtain ⟨name, running, handle⟩ := p
    cases handle <;> rfl
  rw [List.filterMap_append, hlast]
  exact List.perm_append_comm

theorem valid_append (hw : w.Valid) {p : EtwProvider} (hp : p.Valid) :
    ∀ holder ∈ w.holders ++ [.provider p], holder.ofProvider.Valid := by
  intro holder hholder
  rcases List.mem_append.mp hholder with hold | hnew
  · exact hw holder hold
  · obtain rfl := List.mem_singleton.mp hnew
    exact hp

/-- Each turn makes an entry. -/
theorem kept : Kept step books Valid := by
  have hturn (w : World) (turn : Turn) (hw : w.Valid) :
      Entry w.books (step w turn).books ∧ (step w turn).Valid := by
    cases turn with
    | new name =>
      exact ⟨.quiet (handles_append w.holders (.new name)),
        valid_append hw (iff_of_false Bool.false_ne_true Bool.false_ne_true)⟩
    | wrap i =>
      refine onHolder_entry (fun others copied holder calls hvalid => ?_) hw
      cases holder with
      | provider p => exact ⟨.quiet (.refl _), hvalid⟩
      | backend b => exact ⟨.quiet (.refl _), hvalid⟩
    | clone i =>
      show Entry w.books (w.clone i).books ∧ (w.clone i).Valid
      unfold clone
      cases hi : w.holders[i]? with
      | none => exact ⟨.quiet (.refl _), hw⟩
      | some holder =>
        have hmem := List.mem_of_getElem? hi
        refine ⟨?_, valid_append hw (hw holder hmem)⟩
        have hperm := handles_append w.holders holder.ofProvider
        unfold EtwProvider.held at hperm
        unfold books handles
        dsimp only
        cases hhandle : holder.ofProvider.handle with
        | none =>
          rw [hhandle] at hperm
          exact .quiet hperm
        | some handle =>
          rw [hhandle] at hperm
          exact .copied handle (List.mem_filterMap.mpr ⟨holder, hmem, hhandle⟩) hperm
    | start i answer => exact onProvider_entry (EtwProvider.start_enters answer) hw
    | stop i => exact onProvider_entry EtwProvider.stop_enters hw
    | emit i event status => exact onProvider_entry (EtwProvider.emit_enters event status) hw
    | emitSimple i severity message status =>
      exact onProvider_entry (EtwProvider.emitSimple_enters severity message status) hw
    | startBackend i answer => exact onBackend_entry (EtwBackend.start_enters answer) hw
    | stopBackend i => exact onBackend_entry EtwBackend.stop_enters hw
    | drop i =>
      show Entry w.books (w.dropHolder i).books ∧ (w.dropHolder i).Valid
      unfold dropHolder
      cases hi : w.holders[i]? with
      | none => exact ⟨.quiet (.refl _), hw⟩
      | some holder =>
        have hholder := hw holder (List.mem_of_getElem? hi)
        refine ⟨?_, fun other hother => hw other (List.mem_of_mem_eraseIdx hother)⟩
        unfold books handles
        dsimp only
        rw [dropped_calls hholder]
        exact (EtwProvider.entry_unregister holder.ofProvider w.calls).of_perm
          (filterMap_perm_eraseIdx _ hi) (.refl _)
  exact ⟨fun w turn hw => (hturn w turn hw).2, fun w turn hw => (hturn w turn hw).1⟩

/-! ## 6. The handles over a run -/

/-- How often ETW handed out the handle. -/
def registered (w : World) (handle : UInt64) : Nat := w.calls.count (.eventRegister handle)

/-- How often it was given back. -/
def unregistered (w : World) (handle : UInt64) : Nat := w.calls.count (.eventUnregister handle)

theorem count_opened (calls : List NativeCall) (handle : UInt64) :
    (calls.map NativeCall.event).count (.opened handle) = calls.count (.eventRegister handle) := by
  induction calls with
  | nil => rfl
  | cons call calls ih =>
    rw [List.map_cons, List.count_cons, List.count_cons, ih]
    cases call <;> simp [NativeCall.event]

theorem count_closed (calls : List NativeCall) (handle : UInt64) :
    (calls.map NativeCall.event).count (.closed handle) = calls.count (.eventUnregister handle) := by
  induction calls with
  | nil => rfl
  | cons call calls ih =>
    rw [List.map_cons, List.count_cons, List.count_cons, ih]
    cases call <;> simp [NativeCall.event]

theorem valid_start : start.Valid := List.forall_mem_nil _

theorem balanced_start : Balanced start.books := fun _ => rfl

theorem balance (turns : List Turn) (handle : UInt64) :
    (run step start turns).unregistered handle + (run step start turns).handles.count handle =
      (run step start turns).registered handle + (run step start turns).copied.count handle := by
  have hbalance := kept.balanced valid_start balanced_start turns handle
  unfold books at hbalance
  dsimp only at hbalance
  rwa [count_opened, count_closed] at hbalance

/-- What the providers owe to ETW. -/
structure Accounts (w : World) : Prop where
  /-- A handle was given back, or is still in a provider, once for each time that it was handed out
  or cloned. -/
  balance : ∀ handle, w.unregistered handle + w.handles.count handle =
    w.registered handle + w.copied.count handle
  /-- A provider has a handle exactly while it is running. -/
  running : ∀ holder ∈ w.holders,
    (holder.ofProvider.handle.isSome = true ↔ holder.ofProvider.running = true)
  /-- As long as no provider was cloned with a handle in it, ETW is called with open handles only,
  and each of them is in one provider. -/
  apart : w.copied = [] → Held w.handles (w.calls.map NativeCall.event)
  /-- When all are gone, the handles were given back as often as they were handed out exactly if no
  provider was ever cloned with a handle in it. -/
  gone : w.holders = [] →
    ((∀ handle, w.unregistered handle = w.registered handle) ↔ w.copied = [])

/-- The handles add up in every run of providers, backends and clones of them, and no call is made
with a closed handle exactly if each handle that a turn calls ETW with had, when it did, more
providers than clones were made of it. -/
theorem etw_handles (turns : List Turn) :
    (run step start turns).Accounts ∧
      (Proper ((run step start turns).calls.map NativeCall.event) ↔
        Along step (fun w turn => Covered w.books (step w turn).books) start turns) := by
  refine ⟨?_, kept.proper_iff valid_start balanced_start along_nil turns⟩
  constructor
  case balance => exact balance turns
  case running => exact run_inv kept.inv valid_start turns
  case apart => exact kept.unshared valid_start (fun _ => .nil) turns
  case gone =>
    intro hgone
    have hnone : (run step start turns).handles = [] := by
      rw [handles, hgone]
      rfl
    constructor
    · intro heq
      refine List.eq_nil_iff_forall_not_mem.mpr fun handle hmem => ?_
      have hcount := balance turns handle
      rw [heq handle, hnone, List.count_nil] at hcount
      have hpos := List.count_pos_iff.mpr hmem
      omega
    · intro hcopied handle
      have hcount := balance turns handle
      rwa [hcopied, hnone] at hcount

end World

end NetworkEngine.Etw
