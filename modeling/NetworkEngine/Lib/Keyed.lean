import Mathlib.Data.List.Induction
import Mathlib.Data.List.Nodup
import Mathlib.Data.Set.Function
import NetworkEngine.Lib.Op

/-!
# Keyed — tables that are filled again

A table holds at most one entry for a key.  A new entry is merged into the one of its key, or goes to
the end.  To fill a table again, what is delivered is either put into an emptied table, or put into
the old one, from which the entries that were not delivered are taken afterwards.  A delivery can
break off: the two ways differ in what is then left of the old table.
-/

namespace Keyed

variable {α δ κ ε : Type} [DecidableEq κ]

/-! ## 1. Entries and their keys -/

section Entries

variable (key : α → κ) (merge : α → α → α)

/-- The first entry of a key. -/
def find (k : κ) (l : List α) : Option α := l.find? (key · = k)

/-- The entry is merged into the first one of its key, or goes to the end. -/
def put (a : α) : List α → List α
  | [] => [a]
  | b :: rest => if key b = key a then merge b a :: rest else b :: put a rest

def puts (as : List α) (l : List α) : List α := as.foldl (fun l a => put key merge a l) l

/-- The entry of a key that comes last. -/
def last (k : κ) (as : List α) : Option α := find key k as.reverse

end Entries

/-- A merge keeps the key and takes nothing from an entry that was itself merged. -/
structure Merging (key : α → κ) (merge : α → α → α) : Prop where
  key_merge : ∀ b a, key b = key a → key (merge b a) = key a
  merge_merge : ∀ b a a', merge (merge b a) a' = merge b a'
  merge_self : ∀ a, merge a a = a

variable {key : α → κ} {merge : α → α → α} {k : κ} {a b : α} {l as : List α}

theorem find_cons (k : κ) (b : α) (l : List α) :
    find key k (b :: l) = if key b = k then some b else find key k l := by
  by_cases h : key b = k
  · rw [if_pos h]
    exact List.find?_cons_of_pos (decide_eq_true h)
  · rw [if_neg h]
    exact List.find?_cons_of_neg (by simpa using h)

theorem find_eq_none_iff : find key k l = none ↔ k ∉ l.map key := by
  rw [find, List.find?_eq_none, List.mem_map]
  simp only [decide_eq_true_eq, not_exists, not_and]

theorem key_of_find (h : find key k l = some a) : key a = k := by
  simpa using List.find?_some h

theorem mem_of_find (h : find key k l = some a) : a ∈ l := List.mem_of_find?_eq_some h

theorem last_concat (k : κ) (as : List α) (a : α) :
    last key k (as ++ [a]) = if key a = k then some a else last key k as := by
  rw [last, List.reverse_append]
  exact find_cons k a as.reverse

theorem last_eq_none_iff : last key k as = none ↔ k ∉ as.map key := by
  rw [last, find_eq_none_iff, List.map_reverse, List.mem_reverse]

theorem exists_last (key : α → κ) (h : k ∈ as.map key) : ∃ a, last key k as = some a := by
  cases hlast : last key k as with
  | none => exact absurd h (last_eq_none_iff.mp hlast)
  | some a => exact ⟨a, rfl⟩

theorem key_of_last (h : last key k as = some a) : key a = k := key_of_find h

theorem mem_of_last (h : last key k as = some a) : a ∈ as := List.mem_reverse.mp (mem_of_find h)

theorem find_eq_some_iff (hl : (l.map key).Nodup) : find key k l = some a ↔ a ∈ l ∧ key a = k := by
  constructor
  · exact fun h => ⟨mem_of_find h, key_of_find h⟩
  · intro h
    obtain ⟨hmem, rfl⟩ := h
    cases hfind : find key (key a) l with
    | none => exact absurd (List.mem_map_of_mem hmem) (find_eq_none_iff.mp hfind)
    | some b =>
      exact congrArg some (List.inj_on_of_nodup_map hl (mem_of_find hfind) hmem (key_of_find hfind))

/-- Lists with the same keys and the same entries for them are the same. -/
theorem ext_find {l l' : List α} (hkeys : l.map key = l'.map key) (hl : (l.map key).Nodup)
    (h : ∀ k, find key k l = find key k l') : l = l' := by
  have hl' : (l'.map key).Nodup := hkeys ▸ hl
  have hlen : l.length = l'.length := by simpa using congrArg List.length hkeys
  apply List.ext_getElem hlen
  intro i hi hi'
  have hkey : key l[i] = key l'[i] := by
    have := List.getElem_of_eq hkeys (by simpa using hi)
    simpa using this
  have hfind : find key (key l[i]) l = some l[i] := by
    rw [find_eq_some_iff hl]
    exact ⟨List.getElem_mem hi, rfl⟩
  have hfind' : find key (key l[i]) l' = some l'[i] := by
    rw [find_eq_some_iff hl']
    exact ⟨List.getElem_mem hi', hkey.symm⟩
  rw [h, hfind'] at hfind
  exact (Option.some.inj hfind).symm

/-! ## 2. Putting entries in -/

section Put

variable (hm : Merging key merge)
include hm

theorem keys_put_of_mem (h : key a ∈ l.map key) : (put key merge a l).map key = l.map key := by
  induction l with
  | nil => exact absurd h List.not_mem_nil
  | cons b rest ih =>
    rw [put]
    by_cases hb : key b = key a
    · rw [if_pos hb, List.map_cons, List.map_cons, hm.key_merge b a hb, hb]
    · rw [if_neg hb, List.map_cons, List.map_cons]
      rw [ih ((List.mem_cons.mp h).resolve_left (Ne.symm hb))]

omit hm in
theorem put_of_notMem (h : key a ∉ l.map key) : put key merge a l = l ++ [a] := by
  induction l with
  | nil => rfl
  | cons b rest ih =>
    rw [List.map_cons, List.mem_cons, not_or] at h
    rw [put, if_neg (Ne.symm h.1), ih h.2]
    rfl

theorem find_put (k : κ) (a : α) (l : List α) :
    find key k (put key merge a l) =
      if key a = k then some (((find key k l).map (merge · a)).getD a) else find key k l := by
  induction l with
  | nil =>
    rw [put, find_cons]
    rfl
  | cons b rest ih =>
    rw [put, find_cons k b rest]
    by_cases h : key b = key a
    · rw [if_pos h, find_cons, hm.key_merge b a h, h]
      by_cases hk : key a = k
      · rw [if_pos hk, if_pos hk, if_pos hk]
        rfl
      · rw [if_neg hk, if_neg hk, if_neg hk]
    · rw [if_neg h, find_cons, ih]
      by_cases hb : key b = k
      · have ha : key a ≠ k := fun ha => h (hb.trans ha.symm)
        rw [if_pos hb, if_pos hb, if_neg ha]
      · rw [if_neg hb, if_neg hb]

theorem nodup_put (a : α) (hl : (l.map key).Nodup) : ((put key merge a l).map key).Nodup := by
  by_cases h : key a ∈ l.map key
  · rw [keys_put_of_mem hm h]
    exact hl
  · rw [put_of_notMem h, List.map_append, List.map_singleton, ← List.concat_eq_append]
    exact List.Nodup.concat h hl

end Put

/-! ## 3. Putting many entries in -/

theorem mem_put (h : b ∈ put key merge a l) : b = a ∨ b ∈ l ∨ ∃ c ∈ l, b = merge c a := by
  induction l with
  | nil => exact .inl (List.mem_singleton.mp h)
  | cons c rest ih =>
    rw [put] at h
    by_cases hc : key c = key a
    · rw [if_pos hc, List.mem_cons] at h
      cases h with
      | inl hb => exact .inr (.inr ⟨c, List.mem_cons_self, hb⟩)
      | inr hb => exact .inr (.inl (List.mem_cons_of_mem c hb))
    · rw [if_neg hc, List.mem_cons] at h
      cases h with
      | inl hb => exact .inr (.inl (hb ▸ List.mem_cons_self))
      | inr hb =>
        obtain heq | hmem | ⟨c', hc', heq⟩ := ih hb
        · exact .inl heq
        · exact .inr (.inl (List.mem_cons_of_mem c hmem))
        · exact .inr (.inr ⟨c', List.mem_cons_of_mem c hc', heq⟩)

theorem puts_concat (as : List α) (a : α) (l : List α) :
    puts key merge (as ++ [a]) l = put key merge a (puts key merge as l) := by
  rw [puts, List.foldl_append]
  rfl

theorem puts_append (as as' : List α) (l : List α) :
    puts key merge (as ++ as') l = puts key merge as' (puts key merge as l) :=
  List.foldl_append

/-- What holds of the deliveries and of the table, and survives a merge, holds of the result. -/
theorem forall_mem_puts {p : α → Prop} (hmerge : ∀ b a, p b → p a → p (merge b a))
    (has : ∀ a ∈ as, p a) (hl : ∀ b ∈ l, p b) : ∀ b ∈ puts key merge as l, p b := by
  induction as generalizing l with
  | nil => exact hl
  | cons a as ih =>
    have ha := has a List.mem_cons_self
    refine ih (fun a' ha' => has a' (List.mem_cons_of_mem a ha')) fun b hb => ?_
    obtain rfl | hmem | ⟨c, hc, rfl⟩ := mem_put hb
    · exact ha
    · exact hl b hmem
    · exact hmerge c a (hl c hc) ha

section Map

variable {β : Type} {key' : β → κ} {merge' : β → β → β} {f : α → β}
  (hkey : ∀ a, key' (f a) = key a) (hmerge : ∀ b a, f (merge b a) = merge' (f b) (f a))
include hkey hmerge

/-- What an entry shows is put in as the entry is. -/
theorem map_put (a : α) (l : List α) :
    (put key merge a l).map f = put key' merge' (f a) (l.map f) := by
  induction l with
  | nil => rfl
  | cons b rest ih =>
    rw [List.map_cons, put, put, hkey, hkey]
    by_cases h : key b = key a
    · rw [if_pos h, if_pos h, List.map_cons, hmerge]
    · rw [if_neg h, if_neg h, List.map_cons, ih]

theorem map_puts (as l : List α) :
    (puts key merge as l).map f = puts key' merge' (as.map f) (l.map f) := by
  induction as generalizing l with
  | nil => rfl
  | cons a as ih =>
    show (puts key merge as (put key merge a l)).map f =
      puts key' merge' (as.map f) (put key' merge' (f a) (l.map f))
    rw [ih, map_put hkey hmerge]

end Map

section Puts

variable (hm : Merging key merge)
include hm

theorem nodup_puts (as : List α) (hl : (l.map key).Nodup) :
    ((puts key merge as l).map key).Nodup := by
  induction as using List.reverseRecOn with
  | nil => exact hl
  | append_singleton as a ih =>
    rw [puts_concat]
    exact nodup_put hm a ih

theorem keys_puts_of_mem (h : ∀ a ∈ as, key a ∈ l.map key) :
    (puts key merge as l).map key = l.map key := by
  induction as using List.reverseRecOn with
  | nil => rfl
  | append_singleton as a ih =>
    have hkeys := ih fun b hb => h b (List.mem_append_left _ hb)
    rw [puts_concat, keys_put_of_mem hm, hkeys]
    rw [hkeys]
    exact h a (List.mem_append_right _ List.mem_cons_self)

/-- A key that is not delivered keeps its entry. -/
theorem find_puts_of_none (h : last key k as = none) :
    find key k (puts key merge as l) = find key k l := by
  induction as using List.reverseRecOn with
  | nil => rfl
  | append_singleton as a ih =>
    rw [last_concat] at h
    by_cases ha : key a = k
    · rw [if_pos ha] at h
      cases h
    · rw [if_neg ha] at h
      rw [puts_concat, find_put hm, if_neg ha]
      exact ih h

/-- A key that is delivered has its last delivery merged into the entry it had. -/
theorem find_puts_of_last (h : last key k as = some a) :
    ∃ b, find key k (puts key merge as l) = some (merge b a) ∧
      ∀ b', find key k l = some b' → b = b' := by
  induction as using List.reverseRecOn generalizing a with
  | nil => cases h
  | append_singleton as x ih =>
    rw [last_concat] at h
    rw [puts_concat, find_put hm]
    by_cases hx : key x = k
    · rw [if_pos hx] at h
      obtain rfl := Option.some.inj h
      rw [if_pos hx]
      cases hlast : last key k as with
      | none =>
        rw [find_puts_of_none hm hlast]
        cases find key k l with
        | none => exact ⟨x, congrArg some (hm.merge_self x).symm, nofun⟩
        | some b => exact ⟨b, rfl, fun b' hb' => Option.some.inj hb'⟩
      | some a =>
        obtain ⟨b, hfind, hbase⟩ := ih hlast
        refine ⟨b, ?_, hbase⟩
        rw [hfind]
        exact congrArg some (hm.merge_merge b a x)
    · rw [if_neg hx] at h
      rw [if_neg hx]
      exact ih h

/-- The table is left as it was when of each key the last delivery is what the table has. -/
theorem puts_eq_self_iff (hl : (l.map key).Nodup) :
    puts key merge as l = l ↔
      ∀ k a, last key k as = some a → ∃ b ∈ l, key b = k ∧ merge b a = b := by
  constructor
  · intro h k a hlast
    obtain ⟨b, hfind, hbase⟩ := find_puts_of_last hm (l := l) hlast
    rw [h] at hfind
    have hb : b = merge b a := hbase _ hfind
    rw [← hb] at hfind
    exact ⟨b, mem_of_find hfind, key_of_find hfind, hb.symm⟩
  · intro h
    have hkeys : (puts key merge as l).map key = l.map key := by
      apply keys_puts_of_mem hm
      intro a ha
      obtain ⟨a', hlast⟩ := exists_last key (List.mem_map_of_mem ha)
      obtain ⟨b, hb, hkey, -⟩ := h _ a' hlast
      exact hkey ▸ List.mem_map_of_mem hb
    apply ext_find hkeys (nodup_puts hm as hl)
    intro k
    cases hlast : last key k as with
    | none => exact find_puts_of_none hm hlast
    | some a =>
      obtain ⟨b, hb, hkey, hmerge⟩ := h k a hlast
      have hfind : find key k l = some b := (find_eq_some_iff hl).mpr ⟨hb, hkey⟩
      obtain ⟨b', hfind', hbase⟩ := find_puts_of_last hm (l := l) hlast
      rw [hfind', hbase b hfind, hmerge, hfind]

/-- What is held of the delivered keys: their last delivery, merged. -/
theorem mem_retained_iff (hl : (l.map key).Nodup) :
    b ∈ (puts key merge as l).filter (key · ∈ as.map key) ↔
      ∃ a, last key (key b) as = some a ∧ find key (key b) (puts key merge as l) = some b := by
  rw [List.mem_filter, decide_eq_true_eq]
  constructor
  · intro h
    obtain ⟨a, hlast⟩ := exists_last key h.2
    exact ⟨a, hlast, (find_eq_some_iff (nodup_puts hm as hl)).mpr ⟨h.1, rfl⟩⟩
  · intro h
    obtain ⟨a, hlast, hfind⟩ := h
    rw [← key_of_last hlast]
    exact ⟨mem_of_find hfind, List.mem_map_of_mem (mem_of_last hlast)⟩

end Puts

/-! ## 4. Descriptions -/

/-- A description has the key of the entry, and is that of the entry last merged in. -/
structure Describing (key : α → κ) (merge : α → α → α) (describe : α → δ) (keyOf : δ → κ) : Prop where
  keyOf_describe : ∀ a, keyOf (describe a) = key a
  describe_merge : ∀ b a, describe (merge b a) = describe a

section Describe

variable {describe : α → δ} {keyOf : δ → κ} (hm : Merging key merge)
  (hd : Describing key merge describe keyOf)
include hm hd

/-- The descriptions of the retained entries are those of the last deliveries. -/
theorem mem_described_iff (hl : (l.map key).Nodup) (d : δ) :
    d ∈ ((puts key merge as l).filter (key · ∈ as.map key)).map describe ↔
      ∃ a, last key (keyOf d) as = some a ∧ describe a = d := by
  rw [List.mem_map]
  constructor
  · intro h
    obtain ⟨b, hb, rfl⟩ := h
    obtain ⟨a, hlast, hfind⟩ := (mem_retained_iff hm hl).mp hb
    obtain ⟨b', hmerged, -⟩ := find_puts_of_last hm (l := l) hlast
    rw [hfind] at hmerged
    refine ⟨a, (hd.keyOf_describe b).symm ▸ hlast, ?_⟩
    rw [Option.some.inj hmerged, hd.describe_merge]
  · intro h
    obtain ⟨a, hlast, rfl⟩ := h
    rw [hd.keyOf_describe] at hlast
    obtain ⟨b, hfind, -⟩ := find_puts_of_last hm (l := l) hlast
    have hkey : key (merge b a) = key a := key_of_find hfind
    refine ⟨merge b a, (mem_retained_iff hm hl).mpr ⟨a, ?_, ?_⟩, hd.describe_merge b a⟩
    · exact hkey.symm ▸ hlast
    · exact hkey.symm ▸ hfind

/-- All deliveries are described by what is retained when deliveries of one key are described
alike. -/
theorem described_iff (as : List α) (hl : (l.map key).Nodup) :
    (∀ d, d ∈ ((puts key merge as l).filter (key · ∈ as.map key)).map describe ↔
        d ∈ as.map describe) ↔
      Set.InjOn keyOf {d | d ∈ as.map describe} := by
  simp only [mem_described_iff hm hd hl]
  constructor
  · intro h d hd d' hd' hkey
    obtain ⟨a, hlast, rfl⟩ := (h d).mpr hd
    obtain ⟨a', hlast', rfl⟩ := (h d').mpr hd'
    rw [hkey, hlast'] at hlast
    rw [Option.some.inj hlast]
  · intro hinj d
    constructor
    · intro h
      obtain ⟨a, hlast, rfl⟩ := h
      exact List.mem_map_of_mem (mem_of_last hlast)
    · intro hmem
      obtain ⟨a, ha, rfl⟩ := List.mem_map.mp hmem
      obtain ⟨a', hlast⟩ := exists_last key (List.mem_map_of_mem ha)
      rw [hd.keyOf_describe]
      refine ⟨a', hlast, hinj (List.mem_map_of_mem (mem_of_last hlast)) hmem ?_⟩
      rw [hd.keyOf_describe, hd.keyOf_describe]
      exact key_of_last hlast

end Describe

/-! ## 5. Deliveries that break off -/

/-- The entries that come before the first failure. -/
def accepted : List (Except ε α) → List α
  | .ok a :: rest => a :: accepted rest
  | _ => []

/-- The first failure. -/
def verdict : List (Except ε α) → Except ε Unit
  | [] => .ok ()
  | .ok _ :: rest => verdict rest
  | .error e :: _ => .error e

section Deliveries

variable {es fs : List (Except ε α)}

theorem accepted_append_of_ok (h : verdict es = .ok ()) :
    accepted (es ++ fs) = accepted es ++ accepted fs := by
  induction es with
  | nil => rfl
  | cons event es ih =>
    cases event with
    | error e => cases h
    | ok a => exact congrArg (a :: ·) (ih h)

theorem verdict_append_of_ok (h : verdict es = .ok ()) : verdict (es ++ fs) = verdict fs := by
  induction es with
  | nil => rfl
  | cons event es ih =>
    cases event with
    | error e => cases h
    | ok a => exact ih h

theorem accepted_append_of_error {e : ε} (h : verdict es = .error e) :
    accepted (es ++ fs) = accepted es := by
  induction es with
  | nil => cases h
  | cons event es ih =>
    cases event with
    | error e => rfl
    | ok a => exact congrArg (a :: ·) (ih h)

theorem verdict_append_of_error {e : ε} (h : verdict es = .error e) :
    verdict (es ++ fs) = .error e := by
  induction es with
  | nil => cases h
  | cons event es ih =>
    cases event with
    | error e => exact h
    | ok a => exact ih h

/-- Deliveries that do not break off consist of parts that do not. -/
theorem parts_of_ok (h : verdict (es ++ fs) = .ok ()) :
    verdict es = .ok () ∧ verdict fs = .ok () ∧ accepted (es ++ fs) = accepted es ++ accepted fs := by
  cases hes : verdict es with
  | ok u =>
    rw [verdict_append_of_ok hes] at h
    exact ⟨rfl, h, accepted_append_of_ok hes⟩
  | error e =>
    rw [verdict_append_of_error hes] at h
    cases h

theorem verdict_oks (as : List α) : verdict (as.map (.ok : α → Except ε α)) = .ok () := by
  induction as with
  | nil => rfl
  | cons a as ih => exact ih

/-- Deliveries that are checked and all pass are all accepted. -/
theorem accepted_map {check : α → Except ε α} (hcheck : ∀ a b, check a = .ok b → b = a)
    {as : List α} (h : verdict (as.map check) = .ok ()) : accepted (as.map check) = as := by
  induction as with
  | nil => rfl
  | cons a as ih =>
    rw [List.map_cons] at h ⊢
    cases ha : check a with
    | error e =>
      rw [ha] at h
      cases h
    | ok b =>
      rw [ha] at h
      rw [accepted, ih h, hcheck a b ha]

theorem accepted_oks (as : List α) : accepted (as.map (.ok : α → Except ε α)) = as :=
  accepted_map (fun _ _ h => (Except.ok.inj h).symm) (verdict_oks as)

end Deliveries

/-! ## 6. Operations that deliver -/

open Rust

variable {σ τ ρ : Type}

/-- The operation steps through the accepted entries and fails where they break off.  Of the state
that a failure leaves only the table counts. -/
structure Delivers (table : σ → τ) (step : σ → α → σ) (x : Op σ ε Unit)
    (events : List (Except ε α)) : Prop where
  result : ∀ s, (exec x s).1 = verdict events
  state : ∀ s, verdict events = .ok () → (exec x s).2 = (accepted events).foldl step s
  left : ∀ s, table (exec x s).2 = table ((accepted events).foldl step s)

namespace Delivers

variable {table : σ → τ} {step : σ → α → σ} {x y : Op σ ε Unit} {es fs : List (Except ε α)}

theorem pure : Delivers table step (Pure.pure () : Op σ ε Unit) [] :=
  ⟨fun _ => rfl, fun _ _ => rfl, fun _ => rfl⟩

/-- An operation that fails and leaves the table. -/
theorem error {e : ε} (h : ∀ s, (exec x s).1 = .error e ∧ table (exec x s).2 = table s) :
    Delivers table step x [.error e] where
  result s := (h s).1
  state _ h := by cases h
  left s := (h s).2

/-- An operation that makes one step. -/
theorem ok {a : α} (h : ∀ s, exec x s = (.ok (), step s a)) :
    Delivers table step x [.ok a] := by
  refine ⟨fun s => ?_, fun s _ => ?_, fun s => ?_⟩
  · rw [h]
    rfl
  · rw [h]
    rfl
  · rw [h]
    rfl

theorem bind (hx : Delivers table step x es) (hy : Delivers table step y fs) :
    Delivers table step (x >>= fun _ => y) (es ++ fs) := by
  have hexec (s : σ) : exec (x >>= fun _ => y) s =
      match verdict es with
      | .ok () => exec y (exec x s).2
      | .error e => (.error e, (exec x s).2) := by
    rw [exec_bind, ← hx.result s]
    rcases exec x s with ⟨_ | _, _⟩ <;> rfl
  cases hverdict : verdict es with
  | ok u =>
    have hstate (s : σ) := hx.state s hverdict
    refine ⟨fun s => ?_, fun s hok => ?_, fun s => ?_⟩
    · rw [hexec, hverdict, verdict_append_of_ok hverdict]
      exact hy.result _
    · rw [verdict_append_of_ok hverdict] at hok
      rw [hexec, hverdict, accepted_append_of_ok hverdict, List.foldl_append, ← hstate]
      exact hy.state _ hok
    · rw [hexec, hverdict, accepted_append_of_ok hverdict, List.foldl_append, ← hstate]
      exact hy.left _
  | error e =>
    refine ⟨fun s => ?_, fun s hok => ?_, fun s => ?_⟩
    · rw [hexec, hverdict, verdict_append_of_error hverdict]
    · rw [verdict_append_of_error hverdict] at hok
      cases hok
    · rw [hexec, hverdict, accepted_append_of_error hverdict]
      exact hx.left s

theorem forM {f : ρ → Op σ ε Unit} {events : ρ → List (Except ε α)}
    (h : ∀ r, Delivers table step (f r) (events r)) (rows : List ρ) :
    Delivers table step (rows.forM f) (rows.flatMap events) := by
  induction rows with
  | nil => exact pure
  | cons r rows ih => exact (h r).bind ih

end Delivers

/-- An operation with a collection of keys of its own. -/
def withKeys (x : Op (σ × List κ) ε Unit) : Op σ ε Unit := fun s =>
  let r := exec x (s, [])
  (r.1, r.2.1)

omit [DecidableEq κ] in
theorem exec_withKeys (x : Op (σ × List κ) ε Unit) (s : σ) :
    exec (withKeys x) s = ((exec x (s, [])).1, (exec x (s, [])).2.1) := rfl

/-- An entry is put in, and its key is collected. -/
def collect (key : α → κ) (merge : α → α → α) (s : List α × List κ) (a : α) : List α × List κ :=
  (put key merge a s.1, s.2.insert (key a))

theorem foldl_collect (key : α → κ) (merge : α → α → α) (as : List α) (s : List α × List κ) :
    (as.foldl (collect key merge) s).1 = puts key merge as s.1 ∧
      ∀ k, k ∈ (as.foldl (collect key merge) s).2 ↔ k ∈ s.2 ∨ k ∈ as.map key := by
  induction as generalizing s with
  | nil => exact ⟨rfl, fun k => (or_iff_left List.not_mem_nil).symm⟩
  | cons a as ih =>
    have hrest := ih (collect key merge s a)
    refine ⟨hrest.1, fun k => ?_⟩
    rw [List.foldl_cons, hrest.2, collect, List.mem_insert_iff, List.map_cons, List.mem_cons]
    tauto

/-! ## 7. Rebuilding and refilling -/

section Refresh

/-- A success leaves what the deliveries describe, a failure leaves the table as it was. -/
structure Atomic (describe : α → δ) (delivered : List δ) (l : List α)
    (out : Except ε Unit × List α) : Prop where
  described : out.1 = .ok () → ∀ d, d ∈ out.2.map describe ↔ d ∈ delivered
  unchanged : ∀ e, out.1 = .error e → out.2 = l

/-- A table with at most one entry for a key. -/
abbrev KeyedTable (key : α → κ) : Type _ := {l : List α // (l.map key).Nodup}

variable {describe : α → δ} {keyOf : δ → κ} {events : List (Except ε α)} {delivered : List δ}

/-- An emptied table is filled. -/
def rebuild (key : α → κ) (merge : α → α → α) (events : List (Except ε α)) :
    Except ε Unit × List α :=
  (verdict events, puts key merge (accepted events) [])

/-- A table is filled up, and then rid of what was not delivered. -/
def refill (key : α → κ) (merge : α → α → α) (events : List (Except ε α)) (l : List α) :
    Except ε Unit × List α :=
  let filled := puts key merge (accepted events) l
  match verdict events with
  | .ok () => (.ok (), filled.filter (key · ∈ (accepted events).map key))
  | .error e => (.error e, filled)

open Rust in
/-- Filling a table and then keeping what was collected refills it. -/
theorem exec_withKeys_retain {x : Op (List α × List κ) ε Unit}
    (h : Delivers Prod.fst (collect key merge) x events) (l : List α) :
    exec (withKeys (x >>= fun _ => modifyState fun s => (s.1.filter (key · ∈ s.2), s.2))) l =
      refill key merge events l := by
  have hfold := foldl_collect key merge (accepted events) (l, [])
  have hresult := h.result (l, [])
  rw [exec_withKeys]
  unfold refill
  cases hverdict : verdict events with
  | ok u =>
    rw [hverdict] at hresult
    have hexec : exec x (l, []) = (.ok u, (accepted events).foldl (collect key merge) (l, [])) :=
      Prod.ext hresult (h.state (l, []) hverdict)
    rw [exec_bind_ok hexec, exec_modifyState]
    refine Prod.ext rfl ?_
    rw [hfold.1]
    refine List.filter_congr fun b _ => decide_eq_decide.mpr ?_
    rw [hfold.2, or_iff_right List.not_mem_nil]
  | error e =>
    rw [hverdict] at hresult
    rw [exec_bind_error (Prod.ext hresult rfl)]
    exact Prod.ext rfl ((h.left (l, [])).trans hfold.1)

variable (hm : Merging key merge) (hd : Describing key merge describe keyOf)
include hm hd

omit hd in
/-- All that is put into an emptied table is retained. -/
theorem filter_puts_nil (as : List α) :
    (puts key merge as []).filter (key · ∈ as.map key) = puts key merge as [] := by
  rw [List.filter_eq_self]
  intro b hb
  rw [decide_eq_true_eq]
  by_contra hkey
  have hfind := find_puts_of_none hm (l := []) (last_eq_none_iff.mpr hkey)
  rw [(find_eq_some_iff (nodup_puts hm as (l := []) List.nodup_nil)).mpr ⟨hb, rfl⟩] at hfind
  cases hfind

/-- A table is rebuilt atomically when deliveries of one key are described alike, and when it is
itself what a delivery that breaks off makes of the empty table. -/
theorem rebuild_atomic_iff
    (hdelivered : verdict events = .ok () → (accepted events).map describe = delivered) :
    Atomic describe delivered l (rebuild key merge events) ↔
      (verdict events = .ok () → Set.InjOn keyOf {d | d ∈ delivered}) ∧
        ∀ e, verdict events = .error e → l = puts key merge (accepted events) [] := by
  have hdescribed := described_iff hm hd (l := []) (accepted events) List.nodup_nil
  rw [filter_puts_nil hm] at hdescribed
  constructor
  · intro h
    refine ⟨fun hok => ?_, fun e he => (h.unchanged e he).symm⟩
    rw [← hdelivered hok] at h ⊢
    exact hdescribed.mp (h.described hok)
  · intro h
    refine ⟨fun hok => ?_, fun e he => (h.2 e he).symm⟩
    rw [← hdelivered hok] at h ⊢
    exact hdescribed.mpr (h.1 hok)

/-- A table is refilled atomically when deliveries of one key are described alike, and when a
delivery that breaks off ends, for each key, with what the table has. -/
theorem refill_atomic_iff (hl : (l.map key).Nodup)
    (hdelivered : verdict events = .ok () → (accepted events).map describe = delivered) :
    Atomic describe delivered l (refill key merge events l) ↔
      (verdict events = .ok () → Set.InjOn keyOf {d | d ∈ delivered}) ∧
        ∀ e, verdict events = .error e →
          ∀ k a, last key k (accepted events) = some a → ∃ b ∈ l, key b = k ∧ merge b a = b := by
  have hdescribed := described_iff hm hd (accepted events) hl
  unfold refill
  cases hverdict : verdict events with
  | ok u =>
    rw [hdelivered hverdict] at hdescribed
    constructor
    · intro h
      exact ⟨fun _ => hdescribed.mp (h.described rfl), nofun⟩
    · intro h
      exact ⟨fun _ => hdescribed.mpr (h.1 rfl), nofun⟩
  | error e =>
    constructor
    · intro h
      exact ⟨nofun, fun _ _ => (puts_eq_self_iff hm hl).mp (h.unchanged e rfl)⟩
    · intro h
      exact ⟨nofun, fun _ _ => (puts_eq_self_iff hm hl).mpr (h.2 e rfl)⟩

omit hd in
/-- A refilled table has at most one entry for a key. -/
theorem nodup_refill (hl : (l.map key).Nodup) : ((refill key merge events l).2.map key).Nodup := by
  have hfilled := nodup_puts hm (accepted events) hl
  unfold refill
  cases verdict events with
  | ok u => exact hfilled.sublist (List.filter_sublist.map key)
  | error e => exact hfilled

end Refresh

end Keyed
