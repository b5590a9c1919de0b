import NetworkEngine.Lib.Ledger
import Mathlib.Data.List.Count
import Mathlib.Data.List.Induction

/-!
# Copies — handles with more than one holder

A holder that is copied leaves two that keep one handle, and each of them closes it as if it were
its own.  The books count what that comes to: a handle is closed as often as it was handed out or
copied, less the holders that still keep it.  So a call meets an open handle exactly as long as its
handle has more holders than it was copied.
-/

namespace Ledger

open Transition

variable {H : Type}

/-- The handles that are kept, those that holders had when they were copied, and the calls made. -/
structure Books (H : Type) where
  held : List H
  copied : List H
  calls : List (Event H)
  deriving DecidableEq

/-- What one step may enter in the books. -/
inductive Entry (b : Books H) : Books H → Prop
  | quiet {held : List H} (hheld : held.Perm b.held) : Entry b ⟨held, b.copied, b.calls⟩
  | opened {held : List H} (h : H) (hheld : held.Perm (h :: b.held)) :
      Entry b ⟨held, b.copied, b.calls ++ [.opened h]⟩
  | used {held : List H} (h : H) (hmem : h ∈ b.held) (hheld : held.Perm b.held) :
      Entry b ⟨held, b.copied, b.calls ++ [.used h]⟩
  | closed {held : List H} (h : H) (hheld : b.held.Perm (h :: held)) :
      Entry b ⟨held, b.copied, b.calls ++ [.closed h]⟩
  | copied {held : List H} (h : H) (hmem : h ∈ b.held) (hheld : held.Perm (h :: b.held)) :
      Entry b ⟨held, h :: b.copied, b.calls⟩

/-- The order of the holders does not matter. -/
theorem Entry.of_perm {held held' l l' copied copied' : List H} {calls calls' : List (Event H)}
    (h : Entry ⟨l, copied, calls⟩ ⟨l', copied', calls'⟩) (hheld : held.Perm l)
    (hheld' : held'.Perm l') : Entry ⟨held, copied, calls⟩ ⟨held', copied', calls'⟩ := by
  cases h with
  | quiet hsame => exact .quiet ((hheld'.trans hsame).trans hheld.symm)
  | opened h hmore => exact .opened h ((hheld'.trans hmore).trans (hheld.symm.cons h))
  | used h hmem hsame =>
    exact .used h (hheld.mem_iff.mpr hmem) ((hheld'.trans hsame).trans hheld.symm)
  | closed h hless => exact .closed h ((hheld.trans hless).trans (hheld'.symm.cons h))
  | copied h hmem hmore =>
    exact .copied h (hheld.mem_iff.mpr hmem) ((hheld'.trans hmore).trans (hheld.symm.cons h))

section Counts

variable [DecidableEq H] {b b' : Books H} {calls : List (Event H)} {e : Event H}

/-- Each handle was closed, or is still kept, once for each time it was handed out or copied. -/
def Balanced (b : Books H) : Prop :=
  ∀ h, b.calls.count (.closed h) + b.held.count h = b.calls.count (.opened h) + b.copied.count h

theorem Entry.balanced (hentry : Entry b b') (hb : Balanced b) : Balanced b' := by
  intro h
  have hbalance := hb h
  cases hentry with
  | quiet hsame => rwa [hsame.count_eq]
  | opened h' hmore =>
    rw [hmore.count_eq, List.count_append, List.count_append, List.count_singleton,
      List.count_singleton, List.count_cons]
    simp only [beq_iff_eq, Event.opened.injEq, reduceCtorEq, if_false]
    omega
  | used h' hmem hsame =>
    rw [hsame.count_eq, List.count_append, List.count_append, List.count_singleton,
      List.count_singleton]
    simpa using hbalance
  | closed h' hless =>
    rw [hless.count_eq, List.count_cons] at hbalance
    rw [List.count_append, List.count_append, List.count_singleton, List.count_singleton]
    simp only [beq_iff_eq, Event.closed.injEq, reduceCtorEq, if_false] at hbalance ⊢
    omega
  | copied h' hmem hmore =>
    dsimp only
    rw [hmore.count_eq, List.count_cons, List.count_cons]
    omega

theorem proper_concat : Proper (calls ++ [e]) ↔ Proper calls ∧ Open (openAfter calls) e :=
  along_concat

/-- As long as no call is made with a closed handle, what is open was handed out and not closed. -/
theorem Proper.count (hproper : Proper calls) (h : H) :
    (openAfter calls).count h + calls.count (.closed h) = calls.count (.opened h) := by
  induction calls using List.reverseRecOn with
  | nil => rfl
  | append_singleton calls e ih =>
    obtain ⟨hbefore, hlast⟩ := proper_concat.mp hproper
    have hcount := ih hbefore
    rw [openAfter_concat, List.count_append, List.count_append, List.count_singleton,
      List.count_singleton]
    cases e with
    | opened h' =>
      rw [next, List.count_cons]
      simp only [beq_iff_eq, Event.opened.injEq, reduceCtorEq, if_false]
      omega
    | used h' => simpa [next] using hcount
    | closed h' =>
      rw [next, List.count_erase]
      simp only [beq_iff_eq, Event.closed.injEq, reduceCtorEq, if_false]
      -- The handle that is closed is there to be closed.
      have hopen : h' = h → 0 < (openAfter calls).count h := by
        rintro rfl
        exact List.count_pos_iff.mpr hlast
      split_ifs at * with heq
      · have hpos := hopen heq
        omega
      · omega

/-- The handle that a call is made with. -/
def Event.argument : Event H → Option H
  | .opened _ => none
  | .used h | .closed h => some h

/-- The handles that the calls between the two books are made with. -/
def touched (b b' : Books H) : List H := (b'.calls.drop b.calls.length).filterMap Event.argument

/-- The handles of these calls have more holders than they were copied. -/
def Covered (b b' : Books H) : Prop := ∀ h ∈ touched b b', b.copied.count h < b.held.count h

instance (b b' : Books H) : Decidable (Covered b b') :=
  inferInstanceAs (Decidable (∀ h ∈ touched b b', b.copied.count h < b.held.count h))

/-- An entry keeps the calls proper exactly where it is covered. -/
theorem Entry.proper_iff (hentry : Entry b b') (hb : Balanced b) :
    Proper b'.calls ↔ Proper b.calls ∧ Covered b b' := by
  have hmem (hproper : Proper b.calls) (h : H) :
      h ∈ openAfter b.calls ↔ b.copied.count h < b.held.count h := by
    have hcount := hproper.count h
    have hbalance := hb h
    rw [← List.count_pos_iff]
    omega
  unfold Covered touched
  cases hentry with
  | quiet hsame | copied h' hmem hmore => simp
  | opened h' hmore =>
    simp only [List.drop_left, proper_concat, List.filterMap_cons, Event.argument,
      List.filterMap_nil, List.not_mem_nil, false_imp_iff, implies_true, and_true, Open]
  | used h' hkept hsame =>
    simp only [List.drop_left, proper_concat, List.filterMap_cons, Event.argument,
      List.filterMap_nil, List.mem_singleton, forall_eq, Open]
    exact and_congr_right fun hproper => hmem hproper h'
  | closed h' hless =>
    simp only [List.drop_left, proper_concat, List.filterMap_cons, Event.argument,
      List.filterMap_nil, List.mem_singleton, forall_eq, Open]
    exact and_congr_right fun hproper => hmem hproper h'

/-- Nothing that was never copied is shared. -/
def Unshared (b : Books H) : Prop := b.copied = [] → Held b.held b.calls

theorem Entry.unshared (hentry : Entry b b') (hb : Unshared b) : Unshared b' := by
  intro hcopied
  cases hentry with
  | quiet hsame => exact (hb hcopied).of_perm hsame
  | opened h hmore => exact ((hb hcopied).opened h).of_perm hmore
  | used h hmem hsame => exact ((hb hcopied).used hmem).of_perm hsame
  | closed h hless => exact ((hb hcopied).of_perm hless.symm).closed
  | copied h hmem hmore => nomatch hcopied

end Counts

/-! ## Systems that keep books -/

section Systems

variable [DecidableEq H] {σ ι : Type} {step : σ → ι → σ} {books : σ → Books H} {Inv : σ → Prop}
  {s : σ}

/-- Every step of the system makes an entry. -/
structure Kept (step : σ → ι → σ) (books : σ → Books H) (Inv : σ → Prop) : Prop where
  inv : ∀ s i, Inv s → Inv (step s i)
  entry : ∀ s i, Inv s → Entry (books s) (books (step s i))

omit [DecidableEq H] in
/-- What an entry keeps, a run keeps. -/
theorem Kept.preserves {P : Books H → Prop} (hkept : Kept step books Inv)
    (hP : ∀ b b', Entry b b' → P b → P b') (hinv : Inv s) (hs : P (books s)) (inputs : List ι) :
    P (books (run step s inputs)) := by
  have hstep (s : σ) (i : ι) (h : Inv s ∧ P (books s)) :
      Inv (step s i) ∧ P (books (step s i)) :=
    ⟨hkept.inv s i h.1, hP _ _ (hkept.entry s i h.1) h.2⟩
  exact (run_inv hstep ⟨hinv, hs⟩ inputs).2

theorem Kept.balanced (hkept : Kept step books Inv) (hinv : Inv s) (hs : Balanced (books s))
    (inputs : List ι) : Balanced (books (run step s inputs)) :=
  hkept.preserves (fun _ _ hentry hb => hentry.balanced hb) hinv hs inputs

theorem Kept.unshared (hkept : Kept step books Inv) (hinv : Inv s) (hs : Unshared (books s))
    (inputs : List ι) : Unshared (books (run step s inputs)) :=
  hkept.preserves (fun _ _ hentry hb => hentry.unshared hb) hinv hs inputs

/-- The calls of a run are proper exactly if each of its steps was covered. -/
theorem Kept.proper_iff (hkept : Kept step books Inv) (hinv : Inv s) (hs : Balanced (books s))
    (hstart : Proper (books s).calls) (inputs : List ι) :
    Proper (books (run step s inputs)).calls ↔
      Along step (fun s i => Covered (books s) (books (step s i))) s inputs := by
  induction inputs using List.reverseRecOn with
  | nil => exact iff_of_true hstart along_nil
  | append_singleton inputs i ih =>
    have hentry := hkept.entry _ i (run_inv hkept.inv hinv inputs)
    rw [run_append, run_cons, run_nil, along_concat, ← ih]
    exact hentry.proper_iff (hkept.balanced hinv hs inputs)

end Systems

end Ledger
