import NetworkEngine.Lib.Transition

/-!
# Ledger — native handles in and out

A native interface hands out handles, is called with them and takes them back.  The calls made so
far say which handles are open.  `Held` ties the handles that a program keeps to those: it keeps
each open one exactly once, and calls the interface with open handles only.  An interface that never
hands out a handle that is still open makes the handles that are kept different ones.
-/

namespace Ledger

open Transition

variable {H : Type}

inductive Event (H : Type) where
  | opened (h : H)
  | used (h : H)
  | closed (h : H)
  deriving DecidableEq, Repr

/-- The handles that were handed out, in this order. -/
def openings : List (Event H) → List H
  | [] => []
  | .opened h :: calls => h :: openings calls
  | .used _ :: calls | .closed _ :: calls => openings calls

theorem openings_append (calls calls' : List (Event H)) :
    openings (calls ++ calls') = openings calls ++ openings calls' := by
  induction calls with
  | nil => rfl
  | cons e calls ih =>
    cases e with
    | opened h => exact congrArg (h :: ·) ih
    | used h | closed h => exact ih

/-- Only a call that opens a handle is an opening. -/
theorem openings_used (calls : List (Event H)) (h : H) :
    openings (calls ++ [.used h]) = openings calls := by
  rw [openings_append]
  exact List.append_nil _

theorem openings_closed (calls : List (Event H)) (h : H) :
    openings (calls ++ [.closed h]) = openings calls := by
  rw [openings_append]
  exact List.append_nil _

section Calls

variable [DecidableEq H]

/-- The open handles after a call. -/
def next (live : List H) : Event H → List H
  | .opened h => h :: live
  | .used _ => live
  | .closed h => live.erase h

/-- The handles that are open after these calls, none being open before. -/
def openAfter (calls : List (Event H)) : List H := run next [] calls

/-- The call is made with an open handle, or with none. -/
def Open (live : List H) : Event H → Prop
  | .opened _ => True
  | .used h | .closed h => h ∈ live

/-- The handle that is handed out is not open. -/
def New (live : List H) : Event H → Prop
  | .opened h => h ∉ live
  | .used _ | .closed _ => True

instance (live : List H) : ∀ e, Decidable (Open live e)
  | .opened _ => isTrue trivial
  | .used h | .closed h => inferInstanceAs (Decidable (h ∈ live))

instance (live : List H) : ∀ e, Decidable (New live e)
  | .opened h => inferInstanceAs (Decidable (h ∉ live))
  | .used _ | .closed _ => isTrue trivial

/-- No call is made with a handle that is closed, or was never handed out. -/
def Proper (calls : List (Event H)) : Prop := Along next Open [] calls

/-- The interface hands out no handle that is still open. -/
def Fresh (calls : List (Event H)) : Prop := Along next New [] calls

/-- The handles that are kept are the open ones, and only these were ever used. -/
structure Held (held : List H) (calls : List (Event H)) : Prop where
  proper : Proper calls
  perm : held.Perm (openAfter calls)

variable {held held' : List H} {calls : List (Event H)} {h : H}

theorem openAfter_concat (calls : List (Event H)) (e : Event H) :
    openAfter (calls ++ [e]) = next (openAfter calls) e := run_append ..

namespace Held

theorem nil : Held ([] : List H) [] := ⟨along_nil, .nil⟩

theorem of_perm (hheld : Held held calls) (hperm : held'.Perm held) : Held held' calls :=
  ⟨hheld.proper, hperm.trans hheld.perm⟩

theorem opened (hheld : Held held calls) (h : H) :
    Held (h :: held) (calls ++ [.opened h]) := by
  refine ⟨hheld.proper.concat trivial, ?_⟩
  rw [openAfter_concat]
  exact hheld.perm.cons h

theorem used (hheld : Held held calls) (hmem : h ∈ held) : Held held (calls ++ [.used h]) := by
  refine ⟨hheld.proper.concat (hheld.perm.mem_iff.mp hmem), ?_⟩
  rw [openAfter_concat]
  exact hheld.perm

theorem closed (hheld : Held (h :: held) calls) : Held held (calls ++ [.closed h]) := by
  refine ⟨hheld.proper.concat (hheld.perm.mem_iff.mp List.mem_cons_self), ?_⟩
  have hperm := hheld.perm.erase h
  rw [List.erase_cons_head] at hperm
  rw [openAfter_concat]
  exact hperm

/-- Nothing is open once nothing is kept. -/
theorem openAfter_eq_nil (hheld : Held ([] : List H) calls) : openAfter calls = [] :=
  List.nil_perm.mp hheld.perm

end Held

theorem nodup_next {live : List H} {e : Event H} (hlive : live.Nodup) (hnew : New live e) :
    (next live e).Nodup := by
  cases e with
  | opened h => exact List.nodup_cons.mpr ⟨hnew, hlive⟩
  | used h => exact hlive
  | closed h => exact hlive.erase h

theorem Fresh.nodup (hfresh : Fresh calls) : (openAfter calls).Nodup :=
  run_inv_of_along (fun _ _ => nodup_next) List.nodup_nil hfresh

/-- No two places keep one handle. -/
theorem Held.nodup (hheld : Held held calls) (hfresh : Fresh calls) : held.Nodup :=
  hheld.perm.nodup_iff.mpr hfresh.nodup

end Calls

/-! ## Many holders -/

section Holders

variable {σ : Type} (slot : σ → Option H) {l : List σ} {i : Nat} {a : σ}

/-- The handles of all holders are those of one of them and those of the others. -/
theorem filterMap_perm_eraseIdx (hi : l[i]? = some a) :
    (l.filterMap slot).Perm ((slot a).toList ++ (l.eraseIdx i).filterMap slot) := by
  have hcons (c : σ) (l : List σ) :
      (c :: l).filterMap slot = (slot c).toList ++ l.filterMap slot := by
    rw [List.filterMap_cons]
    cases slot c <;> rfl
  induction l generalizing i with
  | nil => simp at hi
  | cons c l ih =>
    rw [hcons]
    cases i with
    | zero =>
      obtain rfl : c = a := by simpa using hi
      exact .refl _
    | succ i =>
      have hperm := ih (i := i) (by simpa using hi)
      rw [List.eraseIdx_cons_succ, hcons]
      exact (hperm.append_left _).trans (List.perm_append_comm_assoc ..)

theorem filterMap_set_perm (hi : i < l.length) (b : σ) :
    ((l.set i b).filterMap slot).Perm ((slot b).toList ++ (l.eraseIdx i).filterMap slot) := by
  have hget : (l.set i b)[i]? = some b := List.getElem?_set_self hi
  have hperm := filterMap_perm_eraseIdx slot hget
  rwa [List.eraseIdx_set_eq] at hperm

end Holders

end Ledger
