import Mathlib.Logic.Function.Basic
import Mathlib.Data.List.Perm.Subperm
import NetworkEngine.Lib.Threads

/-!
# CasLoop — atomic words that are updated by exchange loops

A loop loads a word, computes what to put there, and exchanges the one for the other if the word has
not changed meanwhile; if it has, the loop goes on with the value that the exchange found.  A weak
exchange may fail for no reason.  A call makes its updates one after the other, each on a word of its
own; calls are interleaved at their accesses.  Every update takes effect at once, in the last access
of its loop, so that a word is what the updates make of it in the order of these accesses.
-/

namespace CasLoop

open Transition Threads

/-! ## 1. One word -/

section Word

variable {α : Type}

/-- What an update puts into the word; `none` leaves it as it is. -/
abbrev Update (α : Type) := α → Option α

def Update.apply (f : Update α) (v : α) : α := (f v).getD v

variable (f : Update α)

/-- A loop has seen a value: it ends, or is about to exchange it. -/
def look (v : α) : Option α := (f v).map fun _ => v

/-- An exchange: the word after it, and the value that the loop goes on with. -/
def exchange [DecidableEq α] (seen : α) (spurious : Bool) (v : α) : α × Option α :=
  if v = seen ∧ spurious = false then (f.apply v, none) else (v, look f v)

/-- The next access of an update: the load of a loop, its exchange, or the whole of an update that
is atomic by itself. -/
def access [DecidableEq α] (looped : Bool) (seen : Option α) (spurious : Bool) (v : α) :
    α × Option α :=
  match looped, seen with
  | false, _ => (f.apply v, none)
  | true, none => (v, look f v)
  | true, some seen => exchange f seen spurious v

variable {f} {v : α}

theorem look_none (h : look f v = none) : f.apply v = v := by
  rw [Update.apply, Option.map_eq_none_iff.mp h]
  rfl

/-- An access ends the update, which takes effect at once, or changes nothing. -/
theorem access_cases [DecidableEq α] (looped : Bool) (seen : Option α) (spurious : Bool) (v : α) :
    access f looped seen spurious v = (f.apply v, none) ∨
      ∃ seen', access f looped seen spurious v = (v, some seen') := by
  have hlook : (v, look f v) = (f.apply v, none) ∨ ∃ seen', (v, look f v) = (v, some seen') := by
    cases hv : look f v with
    | none => exact .inl (by rw [look_none hv])
    | some seen' => exact .inr ⟨seen', rfl⟩
  unfold access
  match looped, seen with
  | false, _ => exact .inl rfl
  | true, none => exact hlook
  | true, some seen =>
    dsimp only
    unfold exchange
    split
    · exact .inl rfl
    · exact hlook

end Word

/-! ## 2. Calls on several words -/

variable {W α κ : Type} [DecidableEq W] [DecidableEq α]

/-- The calls: which words they update, in which order, and how. -/
structure Calls (W α κ : Type) where
  script : κ → List W
  update : κ → W → Update α
  /-- Whether the update is a loop, or atomic by itself. -/
  looped : κ → W → Bool

/-- The words, with the calls that have updated each of them, in this order, and the calls that
have been started and that have returned. -/
structure Shared (W α κ : Type) where
  store : W → α
  log : W → List κ
  started : List κ
  finished : List κ

/-- A call with the words it has still to update, and what the loop on the first has seen. -/
structure Point (W α κ : Type) where
  call : κ
  rest : List W
  seen : Option α

def begin (calls : Calls W α κ) (call : κ) (s : Shared W α κ) :
    Shared W α κ × Option (Point W α κ) :=
  ({ s with started := s.started ++ [call] }, some ⟨call, calls.script call, none⟩)

def proceed (calls : Calls W α κ) (spurious : Bool) (point : Point W α κ) (s : Shared W α κ) :
    Shared W α κ × Option (Point W α κ) :=
  match point.rest with
  | [] => ({ s with finished := s.finished ++ [point.call] }, none)
  | w :: rest =>
    let r := access (calls.update point.call w) (calls.looped point.call w) point.seen spurious
      (s.store w)
    match r.2 with
    | some seen => (s, some { point with seen := some seen })
    | none => ({ s with
        store := Function.update s.store w r.1
        log := Function.update s.log w (s.log w ++ [point.call]) }, some ⟨point.call, rest, none⟩)

def program (calls : Calls W α κ) : Program (Shared W α κ) (Point W α κ) κ Bool :=
  ⟨begin calls, proceed calls⟩

def new (init : W → α) : Sys (Shared W α κ) (Point W α κ) := ⟨⟨init, fun _ => [], [], []⟩, []⟩

/-- The calls that the turns of a run start. -/
def startedBy (turns : List (Turn κ Bool)) : List κ :=
  turns.filterMap fun
    | .start call => some call
    | .next _ _ => none

/-! ## 3. Runs -/

variable [DecidableEq κ] {calls : Calls W α κ} {init : W → α}

/-- How often a call under way will still update the word. -/
def due (call : κ) (w : W) (point : Point W α κ) : Nat :=
  if point.call = call then point.rest.count w else 0

/-- Whether a point is one of this call. -/
def under (call : κ) (point : Point W α κ) : Nat := if point.call = call then 1 else 0

/-- Every word is what the updates of its log have made of it, and every call that was started has
made its updates or is under way. -/
structure Inv (calls : Calls W α κ) (init : W → α) (s : Sys (Shared W α κ) (Point W α κ)) :
    Prop where
  value : ∀ w, s.shared.store w =
    (s.shared.log w).foldl (fun v call => (calls.update call w).apply v) (init w)
  log : ∀ w call, (s.shared.log w).count call + total (due call w) s.calls =
    s.shared.started.count call * (calls.script call).count w
  returned : ∀ call, s.shared.finished.count call + total (under call) s.calls =
    s.shared.started.count call
  within : ∀ point ∈ s.calls, point.rest.Sublist (calls.script point.call)

theorem count_concat (l : List κ) (call call' : κ) :
    (l ++ [call]).count call' = l.count call' + if call = call' then 1 else 0 := by
  rw [List.count_append, List.count_singleton]
  simp only [beq_iff_eq]

omit [DecidableEq α] in
theorem inv_new : Inv calls init (new init) where
  value _ := rfl
  log _ _ := by simp [new]
  returned _ := rfl
  within _ hpoint := absurd hpoint List.not_mem_nil

theorem inv_begin {s : Sys (Shared W α κ) (Point W α κ)} (h : Inv calls init s) (call : κ) :
    Inv calls init ((program calls).step s (.start call)) where
  value := h.value
  log w call' := by
    have hlog := h.log w call'
    show (s.shared.log w).count call' + total (due call' w) (s.calls ++ Option.toList (some _)) =
      (s.shared.started ++ [call]).count call' * (calls.script call').count w
    rw [total_append, weigh_some, count_concat, due]
    dsimp only
    by_cases heq : call = call'
    · subst heq
      rw [if_pos rfl, if_pos rfl, Nat.add_mul]
      omega
    · rw [if_neg heq, if_neg heq]
      omega
  returned call' := by
    have hreturned := h.returned call'
    show s.shared.finished.count call' + total (under call') (s.calls ++ Option.toList (some _)) =
      (s.shared.started ++ [call]).count call'
    rw [total_append, weigh_some, count_concat, under]
    dsimp only
    omega
  within point hpoint := by
    rcases mem_start hpoint with hold | hnew
    · exact h.within point hold
    · obtain rfl := Option.some.inj hnew
      exact List.Sublist.refl _

omit [DecidableEq α] in
/-- A step that writes nothing down. -/
theorem inv_same {s : Sys (Shared W α κ) (Point W α κ)} (h : Inv calls init s) {i : Nat}
    {point point' : Point W α κ} (hi : s.calls[i]? = some point) (hcall : point'.call = point.call)
    (hrest : point'.rest = point.rest) : Inv calls init ⟨s.shared, move s.calls i (some point')⟩ where
  value := h.value
  log w call := by
    have hlog := h.log w call
    have hmove := total_move (due call w) hi (some point')
    have hdue : due call w point' = due call w point := by rw [due, due, hcall, hrest]
    rw [weigh_some, hdue] at hmove
    dsimp only
    omega
  returned call := by
    have hreturned := h.returned call
    have hmove := total_move (under call) hi (some point')
    have hunder : under call point' = under call point := by rw [under, under, hcall]
    rw [weigh_some, hunder] at hmove
    dsimp only
    omega
  within point'' hpoint := by
    dsimp only at hpoint
    rcases mem_move hpoint with hold | hnew
    · exact h.within point'' hold
    · obtain rfl := Option.some.inj hnew
      rw [hrest, hcall]
      exact h.within point (List.mem_of_getElem? hi)

omit [DecidableEq α] in
/-- The last access of an update. -/
theorem inv_update {s : Sys (Shared W α κ) (Point W α κ)} (h : Inv calls init s) {i : Nat}
    {call : κ} {w : W} {rest : List W} {seen : Option α}
    (hi : s.calls[i]? = some ⟨call, w :: rest, seen⟩) :
    Inv calls init ⟨{ s.shared with
      store := Function.update s.shared.store w ((calls.update call w).apply (s.shared.store w))
      log := Function.update s.shared.log w (s.shared.log w ++ [call]) },
      move s.calls i (some ⟨call, rest, none⟩)⟩ where
  value w' := by
    dsimp only
    by_cases hw : w' = w
    · subst hw
      rw [Function.update_self, Function.update_self, List.foldl_append, ← h.value]
      rfl
    · rw [Function.update_of_ne hw, Function.update_of_ne hw]
      exact h.value w'
  log w' call' := by
    have hlog := h.log w' call'
    have hmove := total_move (due call' w') hi (some ⟨call, rest, none⟩)
    rw [weigh_some, due, due] at hmove
    dsimp only at hmove ⊢
    rw [List.count_cons] at hmove
    simp only [beq_iff_eq] at hmove
    by_cases hw : w' = w
    · subst hw
      rw [Function.update_self, count_concat]
      rw [if_pos rfl] at hmove
      by_cases heq : call = call'
      · rw [if_pos heq, if_pos heq] at hmove
        rw [if_pos heq]
        omega
      · rw [if_neg heq, if_neg heq] at hmove
        rw [if_neg heq]
        omega
    · rw [Function.update_of_ne hw]
      rw [if_neg (Ne.symm hw), Nat.add_zero] at hmove
      omega
  returned call' := by
    have hreturned := h.returned call'
    have hmove := total_move (under call') hi (some ⟨call, rest, none⟩)
    rw [weigh_some, under, under] at hmove
    dsimp only at hmove ⊢
    omega
  within point hpoint := by
    dsimp only at hpoint
    rcases mem_move hpoint with hold | hnew
    · exact h.within point hold
    · obtain rfl := Option.some.inj hnew
      exact (List.sublist_cons_self w rest).trans (h.within _ (List.mem_of_getElem? hi))

omit [DecidableEq α] in
/-- A call that has made all its updates. -/
theorem inv_return {s : Sys (Shared W α κ) (Point W α κ)} (h : Inv calls init s) {i : Nat}
    {call : κ} {seen : Option α} (hi : s.calls[i]? = some ⟨call, [], seen⟩) :
    Inv calls init ⟨{ s.shared with finished := s.shared.finished ++ [call] },
      move s.calls i none⟩ where
  value := h.value
  log w call' := by
    have hlog := h.log w call'
    have hmove := total_move (due call' w) hi none
    rw [weigh_none, due] at hmove
    dsimp only at hmove ⊢
    rw [List.count_nil, ite_self] at hmove
    omega
  returned call' := by
    have hreturned := h.returned call'
    have hmove := total_move (under call') hi none
    rw [weigh_none, under] at hmove
    dsimp only at hmove ⊢
    rw [count_concat]
    omega
  within point hpoint := by
    dsimp only at hpoint
    rcases mem_move hpoint with hold | hnew
    · exact h.within point hold
    · exact absurd hnew nofun

theorem inv_proceed {s : Sys (Shared W α κ) (Point W α κ)} (h : Inv calls init s) {i : Nat}
    {spurious : Bool} {point : Point W α κ} (hi : s.calls[i]? = some point) :
    Inv calls init ⟨(proceed calls spurious point s.shared).1,
      move s.calls i (proceed calls spurious point s.shared).2⟩ := by
  obtain ⟨call, rest, seen⟩ := point
  unfold proceed
  cases rest with
  | nil => exact inv_return h hi
  | cons w rest =>
    dsimp only
    rcases access_cases (f := calls.update call w) (calls.looped call w) seen spurious
      (s.shared.store w) with hend | ⟨seen', hseen⟩
    · rw [hend]
      exact inv_update h hi
    · rw [hseen]
      exact inv_same h hi rfl rfl

theorem run_inv (calls : Calls W α κ) (init : W → α) (turns : List (Turn κ Bool)) :
    Inv calls init (run (program calls).step (new init) turns) := by
  have hstep (s : Sys (Shared W α κ) (Point W α κ)) (turn : Turn κ Bool) (h : Inv calls init s) :
      Inv calls init ((program calls).step s turn) :=
    inv_step turn (fun call _ => inv_begin h call) (fun _ _ _ _ hi => inv_proceed h hi) h
  exact Transition.run_inv hstep inv_new turns

omit [DecidableEq κ] in
/-- The calls started are those of the turns. -/
theorem started_eq (calls : Calls W α κ) (init : W → α) (turns : List (Turn κ Bool)) :
    (run (program calls).step (new init) turns).shared.started = startedBy turns := by
  suffices h : ∀ s : Sys (Shared W α κ) (Point W α κ),
      (run (program calls).step s turns).shared.started = s.shared.started ++ startedBy turns from
    h _
  induction turns with
  | nil => exact fun s => (List.append_nil _).symm
  | cons turn turns ih =>
    intro s
    rw [run_cons, ih]
    cases turn with
    | start call => exact List.append_assoc _ _ _
    | next i spurious =>
      show ((program calls).step s (.next i spurious)).shared.started ++ startedBy turns = _
      congr 1
      unfold Program.step
      dsimp only
      split
      · rfl
      · show (proceed calls spurious _ s.shared).1.started = _
        unfold proceed
        split
        · rfl
        · dsimp only
          split <;> rfl

omit [DecidableEq κ] in
/-- A step leaves a word as it is, or makes one update to it. -/
theorem step_store (calls : Calls W α κ) (s : Sys (Shared W α κ) (Point W α κ))
    (turn : Turn κ Bool) (w : W) :
    ((program calls).step s turn).shared.store w = s.shared.store w ∨
      ∃ call, ((program calls).step s turn).shared.store w =
        (calls.update call w).apply (s.shared.store w) := by
  cases turn with
  | start call => exact .inl rfl
  | next i spurious =>
    cases hi : s.calls[i]? with
    | none => exact .inl (by rw [step_idle hi])
    | some point =>
      rw [step_next hi]
      show (proceed calls spurious point s.shared).1.store w = s.shared.store w ∨
        ∃ call, (proceed calls spurious point s.shared).1.store w = _
      unfold proceed
      split
      · exact .inl rfl
      · rename_i w' rest _
        dsimp only
        rcases access_cases (f := calls.update point.call w') (calls.looped point.call w')
          point.seen spurious (s.shared.store w') with hend | ⟨seen', hseen⟩
        · rw [hend]
          by_cases hw : w = w'
          · subst hw
            exact .inr ⟨point.call, Function.update_self ..⟩
          · exact .inl (Function.update_of_ne hw ..)
        · rw [hseen]
          exact .inl rfl

omit [DecidableEq κ] in
/-- What every update of a word keeps below the value that it puts there, a run does. -/
theorem run_below {below : α → α → Prop} (hrefl : ∀ v, below v v)
    (htrans : ∀ {u v w}, below u v → below v w → below u w) (calls : Calls W α κ) {w : W}
    (hupdate : ∀ call v, below v ((calls.update call w).apply v))
    (s : Sys (Shared W α κ) (Point W α κ)) (turns : List (Turn κ Bool)) :
    below (s.shared.store w) ((run (program calls).step s turns).shared.store w) := by
  induction turns generalizing s with
  | nil => exact hrefl _
  | cons turn turns ih =>
    have hstep : below (s.shared.store w) (((program calls).step s turn).shared.store w) := by
      rcases step_store calls s turn w with heq | ⟨call, heq⟩
      · rw [heq]
        exact hrefl _
      · rw [heq]
        exact hupdate call _
    exact htrans hstep (ih _)

/-! ## 4. Words that every call updates once -/

variable {s : Sys (Shared W α κ) (Point W α κ)}

omit [DecidableEq α] [DecidableEq W] [DecidableEq κ] in
/-- The weight of the points of a call, each with as many updates as it can owe. -/
theorem total_le_mul {f g : Point W α κ → Nat} {n : Nat} {points : List (Point W α κ)}
    (h : ∀ point ∈ points, f point ≤ g point * n) : total f points ≤ total g points * n := by
  induction points with
  | nil => exact Nat.zero_le _
  | cons point points ih =>
    have hhead := h point List.mem_cons_self
    have htail := ih fun point' hpoint' => h point' (List.mem_cons_of_mem _ hpoint')
    simp only [total, List.map_cons, List.sum_cons, Nat.add_mul] at htail ⊢
    omega

omit [DecidableEq α] in
/-- A call owes a word no more updates than its script has. -/
theorem Inv.due_le (h : Inv calls init s) (call : κ) (w : W) :
    total (due call w) s.calls ≤ total (under call) s.calls * (calls.script call).count w := by
  refine total_le_mul fun point hpoint => ?_
  have hwithin := h.within point hpoint
  unfold due under
  split
  · rename_i hcall
    subst hcall
    rw [Nat.one_mul]
    exact hwithin.count_le w
  · exact Nat.zero_le _

omit [DecidableEq α] in
/-- Calls that have returned have updated the word, which no others than those started have. -/
theorem Inv.between (h : Inv calls init s) {w : W} (hw : ∀ call, (calls.script call).count w = 1) :
    s.shared.finished.Subperm (s.shared.log w) ∧ (s.shared.log w).Subperm s.shared.started := by
  constructor
  · refine List.subperm_ext_iff.mpr fun call _ => ?_
    have hlog := h.log w call
    have hreturned := h.returned call
    have hdue := h.due_le call w
    rw [hw, Nat.mul_one] at hlog hdue
    omega
  · refine List.subperm_ext_iff.mpr fun call _ => ?_
    have hlog := h.log w call
    rw [hw, Nat.mul_one] at hlog
    omega

omit [DecidableEq α] in
/-- With no call under way, each has updated the word. -/
theorem Inv.perm (h : Inv calls init s) (hquiet : s.Quiescent) {w : W}
    (hw : ∀ call, (calls.script call).count w = 1) : (s.shared.log w).Perm s.shared.started := by
  refine List.perm_iff_count.mpr fun call => ?_
  have hlog := h.log w call
  rw [hw, Nat.mul_one, hquiet] at hlog
  exact hlog

end CasLoop
