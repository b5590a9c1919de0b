import NetworkEngine.Core.Ownership
import NetworkEngine.Lib.Threads
import NetworkEngine.Lib.Trail

/-!
# OwnershipRace — threads on one ownership tracker

`packet_bus::ownership::OwnershipTracker`, interleaved at its atomic accesses.  A transfer checks
the table and then exchanges the owner in one step.  `release` first loads the owner and exchanges
what it has loaded, so that another thread can move the packet in between.
-/

namespace NetworkEngine

open Transition Threads Trail

namespace OwnershipTracker.Race

/-! ## 1. Calls and their steps -/

inductive Call where
  | transfer (expected target : Owner)
  | release
  deriving DecidableEq, Repr

/-- What a call has returned.  The two numbers say how many changes had been made when it settled
on the owner it expects, and when it returned. -/
structure Answer where
  call : Call
  result : EngineResult Unit
  since : Nat
  made : Nat
  deriving DecidableEq

/-- The atomic word, with the changes made to it and the answers given so far. -/
structure Shared where
  owner : Owner
  changes : List (Owner × Owner)
  answers : List Answer
  deriving DecidableEq

/-- Where a call stands between two steps. -/
inductive Point where
  /-- A release about to load the owner. -/
  | load
  /-- A call about to exchange `expected` for `target`. -/
  | exchange (call : Call) (expected target : Owner) (since : Nat)
  deriving DecidableEq, Repr

def Shared.answer (s : Shared) (call : Call) (since : Nat) (result : EngineResult Unit) : Shared :=
  { s with answers := s.answers ++ [⟨call, result, since, s.changes.length⟩] }

/-- The part of `transfer` before its `compare_exchange`. -/
def check (call : Call) (expected target : Owner) (s : Shared) : Shared × Option Point :=
  match transitionOwnership expected.asCore target.asCore with
  | .error e => (s.answer call s.changes.length (.error e), none)
  | .ok _ => (s, some (.exchange call expected target s.changes.length))

def begin (call : Call) (s : Shared) : Shared × Option Point :=
  match call with
  | .transfer expected target => check call expected target s
  | .release => (s, some .load)

def proceed (_ : Unit) (point : Point) (s : Shared) : Shared × Option Point :=
  match point with
  | .load =>
    if s.owner = .released then (s.answer .release s.changes.length (.error .invalidHandle), none)
    else check .release s.owner .released s
  | .exchange call expected target since =>
    if s.owner = expected then
      let answered := s.answer call since (.ok ())
      ({ answered with owner := target, changes := s.changes ++ [(expected, target)] }, none)
    else (s.answer call since (.error .invalidStateTransition), none)

def program : Program Shared Point Call Unit := ⟨begin, proceed⟩

abbrev Tracker := Threads.Sys Shared Point

/-- `OwnershipTracker::new`. -/
def new (owner : Owner) : Tracker := ⟨⟨owner, [], []⟩, []⟩

/-! ## 2. What a race comes to -/

/-- The moves of the table. -/
def Allowed (expected target : Owner) : Prop :=
  (transitionOwnership expected.asCore target.asCore).isOk = true

instance (expected target : Owner) : Decidable (Allowed expected target) :=
  inferInstanceAs (Decidable (_ = true))

/-- How far a packet has come.  Between the engine, the bus and the processing it may go around. -/
def stage : Owner → Nat
  | .allocated => 0
  | .backend => 1
  | .engine | .bus | .processing => 2
  | .host => 3
  | .released => 4

theorem stage_mono (a b : Owner) (h : Allowed a b) : stage a ≤ stage b := by
  revert h
  cases a <;> cases b <;> decide

/-- The owner after the first `n` changes. -/
def ownerAt (first : Owner) (changes : List (Owner × Owner)) (n : Nat) : Owner :=
  after first (changes.take n)

/-- A transfer answers as it would alone, at the moment it returns. -/
def TransferFits (first : Owner) (changes : List (Owner × Owner)) (expected target : Owner)
    (a : Answer) : Prop :=
  a.result = (transfer ⟨ownerAt first changes a.made⟩ expected target).map fun _ => ()

/-- A release fails because the packet was released when it looked, or because the owner it found
has lost the packet to another call before it came to the exchange. -/
inductive ReleaseFits (first : Owner) (changes : List (Owner × Owner)) (a : Answer) : Prop where
  | done (h : a.result = .ok ())
      (hchange : changes[a.made]? = some (ownerAt first changes a.made, .released))
  | late (h : a.result = .error .invalidHandle)
      (hreleased : ownerAt first changes a.made = .released)
  | overtaken (h : a.result = .error .invalidStateTransition) (hsince : a.since < a.made)
      (hactive : ownerAt first changes a.since ≠ .released)
      (hmoved : ownerAt first changes a.made ≠ ownerAt first changes a.since)

def Fits (first : Owner) (changes : List (Owner × Owner)) (a : Answer) : Prop :=
  match a.call with
  | .transfer expected target => TransferFits first changes expected target a
  | .release => ReleaseFits first changes a

structure Raced (first : Owner) (s : Shared) : Prop where
  /-- The owner only moves along the table, each move from the owner the one before it left. -/
  trail : Leads Allowed first s.changes s.owner
  /-- Every change is made by one call that returned `Ok`, in the order of the answers. -/
  made : (s.answers.filter (·.result.isOk)).map Answer.made = List.range s.changes.length
  answers : ∀ a ∈ s.answers, Fits first s.changes a
  /-- However many calls race for it, a stage is entered at most once; the last is the release. -/
  once : ∀ n, s.changes.countP (crosses stage n) =
    if stage first < n ∧ n ≤ stage s.owner then 1 else 0

/-! ## 3. Steps -/

/-- A call about to exchange has passed the table; a release has loaded what it expects. -/
inductive Ready (first : Owner) (changes : List (Owner × Owner)) : Point → Prop where
  | load : Ready first changes .load
  | transfer {expected target : Owner} {since : Nat} (hallowed : Allowed expected target)
      (hsince : since ≤ changes.length) :
      Ready first changes (.exchange (.transfer expected target) expected target since)
  | release {loaded : Owner} {since : Nat} (hallowed : Allowed loaded .released)
      (hsince : since ≤ changes.length) (hloaded : ownerAt first changes since = loaded) :
      Ready first changes (.exchange .release loaded .released since)

structure Inv (first : Owner) (s : Tracker) : Prop where
  trail : Leads Allowed first s.shared.changes s.shared.owner
  made : (s.shared.answers.filter (·.result.isOk)).map Answer.made =
    List.range s.shared.changes.length
  answers : ∀ a ∈ s.shared.answers, a.since ≤ a.made ∧ a.made ≤ s.shared.changes.length ∧
    Fits first s.shared.changes a
  calls : ∀ point ∈ s.calls, Ready first s.shared.changes point

variable {first : Owner} {changes : List (Owner × Owner)} {s : Shared} {n : Nat}

theorem ownerAt_length (h : Leads Allowed first changes s.owner) :
    ownerAt first changes changes.length = s.owner := by
  rw [ownerAt, List.take_length, h.after_eq]

theorem ownerAt_concat (h : n ≤ changes.length) (change : Owner × Owner) :
    ownerAt first (changes ++ [change]) n = ownerAt first changes n := by
  rw [ownerAt, take_concat h, ownerAt]

/-- An answer stays right when more changes are made. -/
theorem Fits.concat {a : Answer} (h : Fits first changes a) (hsince : a.since ≤ a.made)
    (hmade : a.made ≤ changes.length) (change : Owner × Owner) :
    Fits first (changes ++ [change]) a := by
  have hat : ownerAt first (changes ++ [change]) a.made = ownerAt first changes a.made :=
    ownerAt_concat hmade change
  unfold Fits at h ⊢
  cases hcall : a.call with
  | transfer expected target =>
    rw [hcall] at h
    show TransferFits first _ expected target a
    rw [TransferFits, hat]
    exact h
  | release =>
    rw [hcall] at h
    rcases h with ⟨hok, hchange⟩ | ⟨hlate, hreleased⟩ | ⟨hrefused, hlt, hactive, hmoved⟩
    · refine .done hok ?_
      obtain ⟨hlt, -⟩ := List.getElem?_eq_some_iff.mp hchange
      rw [hat, List.getElem?_append_left hlt, hchange]
    · exact .late hlate (hat.trans hreleased)
    · have hold : ownerAt first (changes ++ [change]) _ = _ :=
        ownerAt_concat (Nat.le_trans hsince hmade) change
      exact .overtaken hrefused hlt (hold ▸ hactive) (hat ▸ hold ▸ hmoved)

theorem Ready.concat {point : Point} (h : Ready first changes point) (change : Owner × Owner) :
    Ready first (changes ++ [change]) point := by
  have hlength : changes.length ≤ (changes ++ [change]).length := by simp
  cases h with
  | load => exact .load
  | transfer hallowed hsince => exact .transfer hallowed (Nat.le_trans hsince hlength)
  | release hallowed hsince hloaded =>
    exact .release hallowed (Nat.le_trans hsince hlength)
      ((ownerAt_concat hsince change).trans hloaded)

/-- An answer that changes nothing. -/
theorem Inv.refuse {t : Tracker} (h : Inv first t) {call : Call} {since : Nat} {e : EngineError}
    (hsince : since ≤ t.shared.changes.length)
    (hfits : Fits first t.shared.changes ⟨call, .error e, since, t.shared.changes.length⟩)
    {calls : List Point} (hcalls : ∀ point ∈ calls, point ∈ t.calls) :
    Inv first ⟨t.shared.answer call since (.error e), calls⟩ where
  trail := h.trail
  made := by
    have hkept : (t.shared.answer call since (.error e)).answers.filter (·.result.isOk) =
        t.shared.answers.filter (·.result.isOk) := by
      simp [Shared.answer, Except.isOk, Except.toBool]
    rw [hkept, h.made]
    rfl
  answers := by
    intro a ha
    rcases List.mem_append.mp ha with hold | hnew
    · exact h.answers a hold
    · obtain rfl := List.mem_singleton.mp hnew
      exact ⟨hsince, Nat.le_refl _, hfits⟩
  calls point hpoint := h.calls point (hcalls point hpoint)

/-- The exchange succeeds: one more change, and the answer for it. -/
theorem Inv.exchanged {t : Tracker} (h : Inv first t) {call : Call} {since : Nat} {target : Owner}
    (hallowed : Allowed t.shared.owner target) (hsince : since ≤ t.shared.changes.length)
    (hfits : Fits first (t.shared.changes ++ [(t.shared.owner, target)])
      ⟨call, .ok (), since, t.shared.changes.length⟩)
    {calls : List Point} (hcalls : ∀ point ∈ calls, point ∈ t.calls) :
    Inv first ⟨⟨target, t.shared.changes ++ [(t.shared.owner, target)],
      t.shared.answers ++ [⟨call, .ok (), since, t.shared.changes.length⟩]⟩, calls⟩ where
  trail := h.trail.concat hallowed
  made := by
    show ((t.shared.answers ++ [_]).filter _).map Answer.made = List.range (_ ++ [_]).length
    rw [List.filter_append, List.map_append, h.made, List.length_append, List.length_singleton,
      List.range_succ]
    rfl
  answers := by
    intro a ha
    have hlength : (t.shared.changes ++ [(t.shared.owner, target)]).length =
        t.shared.changes.length + 1 := List.length_append
    rcases List.mem_append.mp ha with hold | hnew
    · obtain ⟨hle, hmade, hfit⟩ := h.answers a hold
      exact ⟨hle, by rw [hlength]; omega, hfit.concat hle hmade _⟩
    · obtain rfl := List.mem_singleton.mp hnew
      exact ⟨hsince, hlength ▸ Nat.le_succ _, hfits⟩
  calls point hpoint := (h.calls point (hcalls point hpoint)).concat _

/-- The table check of a call whose expected owner is settled. -/
theorem Inv.check {t : Tracker} (h : Inv first t) {call : Call} {expected target : Owner}
    (hrefused : ∀ e, transitionOwnership expected.asCore target.asCore = .error e →
      Fits first t.shared.changes
        ⟨call, .error e, t.shared.changes.length, t.shared.changes.length⟩)
    (hready : Allowed expected target →
      Ready first t.shared.changes (.exchange call expected target t.shared.changes.length))
    {calls : List Point} (hcalls : ∀ point ∈ calls, point ∈ t.calls ∨
      (Race.check call expected target t.shared).2 = some point) :
    Inv first ⟨(Race.check call expected target t.shared).1, calls⟩ := by
  unfold Race.check at hcalls ⊢
  cases htable : transitionOwnership expected.asCore target.asCore with
  | error e =>
    rw [htable] at hcalls
    refine h.refuse (Nat.le_refl _) (hrefused e htable) fun point hpoint => ?_
    exact (hcalls point hpoint).resolve_right (by simp)
  | ok state =>
    rw [htable] at hcalls
    refine ⟨h.trail, h.made, h.answers, fun point hpoint => ?_⟩
    rcases hcalls point hpoint with hold | hnew
    · exact h.calls point hold
    · rw [← Option.some.inj hnew]
      apply hready
      rw [Allowed, htable]
      rfl

/-- A transfer answers from the table, or from the owner that it meets. -/
theorem transfer_refused {expected target : Owner} {e : EngineError} (owner : Owner)
    (h : transitionOwnership expected.asCore target.asCore = .error e) :
    transfer ⟨owner⟩ expected target = .error e := by
  unfold transfer
  rw [h]
  rfl

theorem transfer_allowed {expected target : Owner} (h : Allowed expected target) (owner : Owner) :
    (transfer ⟨owner⟩ expected target).map (fun _ => ()) =
      if owner = expected then .ok () else .error .invalidStateTransition := by
  unfold transfer
  rw [Allowed] at h
  cases htable : transitionOwnership expected.asCore target.asCore with
  | error e =>
    rw [htable] at h
    nomatch h
  | ok state =>
    simp only [bind, Except.bind]
    split_ifs <;> rfl

/-- No owner follows `Released`. -/
theorem Allowed.active {expected target : Owner} (h : Allowed expected target) :
    expected ≠ .released := by
  rintro rfl
  revert h
  cases target <;> decide

theorem allowed_release {owner : Owner} (h : owner ≠ .released) : Allowed owner .released := by
  revert h
  cases owner <;> decide

theorem Inv.start {t : Tracker} (h : Inv first t) (call : Call) :
    Inv first (program.step t (.start call)) := by
  cases call with
  | transfer expected target =>
    refine h.check (fun e htable => ?_) (fun hallowed => .transfer hallowed (Nat.le_refl _))
      fun point => mem_start
    show TransferFits _ _ _ _ _
    rw [TransferFits, transfer_refused _ htable]
    rfl
  | release =>
    refine ⟨h.trail, h.made, h.answers, fun point hpoint => ?_⟩
    rcases mem_start hpoint with hold | hnew
    · exact h.calls point hold
    · rw [← Option.some.inj hnew]
      exact .load

/-- A call that meets the owner it expects. -/
theorem Inv.exchange {t : Tracker} (h : Inv first t) {call : Call} {target : Owner} {since : Nat}
    (hready : Ready first t.shared.changes (.exchange call t.shared.owner target since))
    {calls : List Point} (hcalls : ∀ point ∈ calls, point ∈ t.calls) :
    Inv first ⟨⟨target, t.shared.changes ++ [(t.shared.owner, target)],
      t.shared.answers ++ [⟨call, .ok (), since, t.shared.changes.length⟩]⟩, calls⟩ := by
  have hlast : ownerAt first (t.shared.changes ++ [(t.shared.owner, target)])
      t.shared.changes.length = t.shared.owner :=
    (ownerAt_concat (Nat.le_refl _) _).trans (ownerAt_length h.trail)
  cases hready with
  | transfer hallowed hsince =>
    refine h.exchanged hallowed hsince ?_ hcalls
    show TransferFits _ _ _ _ _
    rw [TransferFits, transfer_allowed hallowed, hlast, if_pos rfl]
  | release hallowed hsince hloaded =>
    have hfits : Fits first (t.shared.changes ++ [(t.shared.owner, .released)])
        ⟨.release, .ok (), since, t.shared.changes.length⟩ := by
      show ReleaseFits _ _ _
      refine .done rfl ?_
      rw [List.getElem?_concat_length, hlast]
    exact h.exchanged hallowed hsince hfits hcalls

/-- A call that meets another owner. -/
theorem Inv.overtaken {t : Tracker} (h : Inv first t) {call : Call} {expected target : Owner}
    {since : Nat} (hready : Ready first t.shared.changes (.exchange call expected target since))
    (howner : t.shared.owner ≠ expected) {calls : List Point}
    (hcalls : ∀ point ∈ calls, point ∈ t.calls) :
    Inv first ⟨t.shared.answer call since (.error .invalidStateTransition), calls⟩ := by
  have hlast := ownerAt_length (s := t.shared) h.trail
  cases hready with
  | transfer hallowed hsince =>
    refine h.refuse hsince ?_ hcalls
    show TransferFits _ _ _ _ _
    rw [TransferFits, transfer_allowed hallowed, hlast, if_neg howner]
  | release hallowed hsince hloaded =>
    have hmoved : ownerAt first t.shared.changes t.shared.changes.length ≠
        ownerAt first t.shared.changes since := by
      rw [hlast, hloaded]
      exact howner
    -- With no change since its load the release would have met the owner that it loaded.
    have hlater : since < t.shared.changes.length := by
      refine Nat.lt_of_le_of_ne hsince ?_
      rintro rfl
      exact hmoved rfl
    have hactive : ownerAt first t.shared.changes since ≠ .released := hloaded ▸ hallowed.active
    have hfits : Fits first t.shared.changes
        ⟨.release, .error .invalidStateTransition, since, t.shared.changes.length⟩ :=
      ReleaseFits.overtaken rfl hlater hactive hmoved
    exact h.refuse hsince hfits hcalls

theorem Inv.next {t : Tracker} (h : Inv first t) {i : Nat} {point : Point}
    (hpoint : t.calls[i]? = some point) :
    Inv first ⟨(proceed () point t.shared).1, move t.calls i (proceed () point t.shared).2⟩ := by
  have hready := h.calls point (List.mem_of_getElem? hpoint)
  have hlast := ownerAt_length (s := t.shared) h.trail
  have hended (p : Point) (hp : p ∈ move t.calls i none) : p ∈ t.calls :=
    (mem_move hp).resolve_right (by simp)
  cases point with
  | load =>
    by_cases hreleased : t.shared.owner = .released
    · simp only [proceed, if_pos hreleased]
      refine h.refuse (Nat.le_refl _) ?_ hended
      exact ReleaseFits.late rfl (hlast.trans hreleased)
    · simp only [proceed, if_neg hreleased]
      refine h.check (fun e htable => ?_) (fun hallowed => .release hallowed (Nat.le_refl _) hlast)
        fun p => mem_move
      have hallowed := allowed_release hreleased
      rw [Allowed, htable] at hallowed
      nomatch hallowed
  | exchange call expected target since =>
    by_cases howner : t.shared.owner = expected
    · simp only [proceed, if_pos howner]
      subst howner
      exact h.exchange hready hended
    · simp only [proceed, if_neg howner]
      exact h.overtaken hready howner hended

theorem Inv.step {t : Tracker} (h : Inv first t) (turn : Turn Call Unit) :
    Inv first (program.step t turn) :=
  inv_step turn (fun call _ => h.start call) (fun _ _ _ _ hpoint => h.next hpoint) h

theorem Inv.raced {t : Tracker} (h : Inv first t) : Raced first t.shared where
  trail := h.trail
  made := h.made
  answers a ha := (h.answers a ha).2.2
  once := h.trail.crossed stage_mono

/-- However the calls of any number of threads on one tracker are interleaved, its owner moves along
the table only, every change is the work of one successful call, every answer is the one that the
owner at that moment calls for, and no stage is entered twice. -/
theorem owner_race (first : Owner) (turns : List (Turn Call Unit)) :
    Raced first (run program.step (new first) turns).shared := by
  have hstart : Inv first (new first) :=
    ⟨.nil, rfl, fun _ ha => by simp [new] at ha, fun _ hp => by simp [new] at hp⟩
  have hstep (t : Tracker) (turn : Turn Call Unit) (h : Inv first t) :
      Inv first (program.step t turn) := h.step turn
  exact (run_inv hstep hstart turns).raced

end OwnershipTracker.Race

end NetworkEngine
