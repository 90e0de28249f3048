import NetNodeGateway.Common.EventBus
import Mathlib.Data.UInt

/-!
# Correctness of `EventBus`

**Ids.**  Every live subscription holds the value `next_id_` had when it was made, and
`next_id_` is one more than the number of subscriptions made so far, wrapped to 32 bits
(`Tickets`, kept by every call: `Tickets.run`).  While at most `2^32` subscriptions have been
made, the live ids are therefore pairwise distinct, and `unsubscribe(id)` removes exactly the
subscription holding `id` and keeps the others in order (`run_ids_distinct`).

**The wrap.**  The `2^32 + 1`-th subscription is given id 1 again, and a single `unsubscribe(1)`
then ends the first and the last subscription together (`subscribeAll_wrap_unsubscribes_two`).
-/

namespace NetNodeGateway

/-- Whether a call makes a subscription. -/
def BusCall.isSubscribe {κ : Type} : BusCall κ → Bool
  | .subscribe _ _ | .subscribeAll _ => true
  | .unsubscribe _ | .publish _ => false

/-- The number of subscriptions a sequence of calls makes. -/
def subscribeCount {κ : Type} (calls : List (BusCall κ)) : Nat := calls.countP BusCall.isSubscribe

namespace EventBus

variable {κ : Type}

/-! ### One call -/

@[simp] theorem run_nil (b : EventBus κ) : b.run [] = ([], b) := rfl

@[simp] theorem run_cons (b : EventBus κ) (c : BusCall κ) (calls : List (BusCall κ)) :
    b.run (c :: calls) = ((b.apply c).1 :: ((b.apply c).2.run calls).1, ((b.apply c).2.run calls).2) :=
  rfl

theorem run_append (b : EventBus κ) (calls calls' : List (BusCall κ)) :
    b.run (calls ++ calls') =
      ((b.run calls).1 ++ ((b.run calls).2.run calls').1, ((b.run calls).2.run calls').2) := by
  induction calls generalizing b with
  | nil => rfl
  | cons c calls ih => simp [ih]

/-- Removing an id that no live subscription holds changes nothing. -/
theorem unsubscribe_of_forall_ne {b : EventBus κ} {subId : UInt32} (h : ∀ s ∈ b.subs, s.id ≠ subId) :
    b.unsubscribe subId = b := by
  obtain ⟨subs, nextId⟩ := b
  simp only [unsubscribe, EventBus.mk.injEq, and_true]
  exact List.filter_eq_self.mpr fun s hs => bne_iff_ne.mpr (h s hs)

/-- With distinct ids, removing the id of a live subscription removes that subscription only. -/
theorem unsubscribe_of_eq_append {b : EventBus κ} (hnd : (b.subs.map (·.id)).Nodup)
    {l₁ l₂ : List (Subscription κ)} {s : Subscription κ} (h : b.subs = l₁ ++ s :: l₂) :
    (b.unsubscribe s.id).subs = l₁ ++ l₂ := by
  rw [h, List.map_append, List.map_cons, List.nodup_append, List.nodup_cons] at hnd
  obtain ⟨-, ⟨hs₂, -⟩, hdis⟩ := hnd
  have hs₁ : s.id ∉ l₁.map (·.id) := fun hm => hdis hm (List.mem_cons_self _ _)
  simp only [unsubscribe, h, List.filter_append, List.filter_cons, bne_self_eq_false,
    Bool.false_eq_true, if_false]
  congr 1 <;> refine List.filter_eq_self.mpr fun x hx => bne_iff_ne.mpr fun he => ?_
  · exact hs₁ (List.mem_map.mpr ⟨x, hx, he⟩)
  · exact hs₂ (List.mem_map.mpr ⟨x, hx, he⟩)

/-! ### The ids of live subscriptions -/

/-- The ids of a bus after `n` subscriptions: the live subscriptions, in order, were made by
the `t`-th subscription for increasing `t ∈ ts`, `1 ≤ t ≤ n`, and hold `t` wrapped to 32 bits;
`next_id_` is `n + 1` wrapped. -/
structure Tickets (b : EventBus κ) (n : Nat) (ts : List Nat) : Prop where
  ids : b.subs.map (·.id) = ts.map UInt32.ofNat
  sorted : ts.Pairwise (· < ·)
  bounded : ∀ t ∈ ts, 1 ≤ t ∧ t ≤ n
  next : b.nextId = UInt32.ofNat (n + 1)

theorem tickets_empty : Tickets ({} : EventBus κ) 0 [] :=
  ⟨rfl, .nil, fun _ h => absurd h (List.not_mem_nil _), rfl⟩

/-- A new subscription takes the next ticket. -/
theorem Tickets.push {b : EventBus κ} {n : Nat} {ts : List Nat} (h : Tickets b n ts)
    (cat : EventCategory) (all : Bool) (cb : κ) :
    Tickets ⟨b.subs ++ [⟨b.nextId, cat, all, cb⟩], b.nextId + 1⟩ (n + 1) (ts ++ [n + 1]) where
  ids := by simp [h.ids, h.next]
  sorted := List.pairwise_append.mpr ⟨h.sorted, List.pairwise_singleton _ _,
    fun t ht u hu => by have := (h.bounded t ht).2; simp only [List.mem_singleton] at hu; omega⟩
  bounded t ht := by
    rcases List.mem_append.mp ht with ht | ht
    · have := h.bounded t ht; omega
    · simp only [List.mem_singleton] at ht; omega
  next := by rw [h.next, uint32_ofNat_add (n + 1) 1]; rfl

/-- Removing an id drops the tickets that wrap to it. -/
theorem Tickets.unsubscribe {b : EventBus κ} {n : Nat} {ts : List Nat} (h : Tickets b n ts)
    (subId : UInt32) :
    Tickets (b.unsubscribe subId) n (ts.filter fun t => UInt32.ofNat t != subId) where
  ids := by
    have := congrArg (List.filter (· != subId)) h.ids
    simpa only [List.filter_map, EventBus.unsubscribe] using this
  sorted := h.sorted.filter _
  bounded t ht := h.bounded t (List.mem_filter.mp ht).1
  next := h.next

theorem Tickets.apply {b : EventBus κ} {n : Nat} {ts : List Nat} (h : Tickets b n ts)
    (c : BusCall κ) :
    ∃ ts', Tickets (b.apply c).2 (n + if c.isSubscribe then 1 else 0) ts' := by
  cases c with
  | subscribe cat cb => exact ⟨_, h.push cat false cb⟩
  | subscribeAll cb => exact ⟨_, h.push .tracking true cb⟩
  | unsubscribe subId => exact ⟨_, h.unsubscribe subId⟩
  | publish event => exact ⟨ts, h⟩

theorem Tickets.run {b : EventBus κ} {n : Nat} {ts : List Nat} (h : Tickets b n ts)
    (calls : List (BusCall κ)) : ∃ ts', Tickets (b.run calls).2 (n + subscribeCount calls) ts' := by
  induction calls generalizing b n ts with
  | nil => exact ⟨ts, h⟩
  | cons c calls ih =>
    obtain ⟨ts', h'⟩ := h.apply c
    obtain ⟨ts'', h''⟩ := ih h'
    have hn : n + subscribeCount (c :: calls) =
        (n + if c.isSubscribe then 1 else 0) + subscribeCount calls := by
      simp only [subscribeCount, List.countP_cons]; omega
    exact ⟨ts'', by rw [run_cons, hn]; exact h''⟩

/-- At most `2^32` tickets wrap to distinct ids. -/
theorem Tickets.nodup {b : EventBus κ} {n : Nat} {ts : List Nat} (h : Tickets b n ts)
    (hn : n ≤ 4294967296) : (b.subs.map (·.id)).Nodup := by
  rw [h.ids]
  refine List.Nodup.map_on (fun x hx y hy hxy => ?_) (h.sorted.imp Nat.ne_of_lt)
  have hx' := h.bounded x hx
  have hy' := h.bounded y hy
  have := congrArg UInt32.toNat hxy
  simp only [toNat_uint32_ofNat] at this
  omega

/-- From a fresh bus, while at most `2^32` subscriptions have been made: live ids are pairwise
distinct, `unsubscribe` of a live subscription's id removes that subscription alone and keeps
the others in order, and `unsubscribe` of any other id changes nothing. -/
theorem run_ids_distinct (calls : List (BusCall κ)) (h : subscribeCount calls ≤ 4294967296) :
    ((({} : EventBus κ).run calls).2.subs.map (·.id)).Nodup ∧
    (∀ l₁ s l₂, (({} : EventBus κ).run calls).2.subs = l₁ ++ s :: l₂ →
      ((({} : EventBus κ).run calls).2.unsubscribe s.id).subs = l₁ ++ l₂) ∧
    (∀ subId, (∀ s ∈ (({} : EventBus κ).run calls).2.subs, s.id ≠ subId) →
      (({} : EventBus κ).run calls).2.unsubscribe subId = (({} : EventBus κ).run calls).2) := by
  obtain ⟨ts, ht⟩ := tickets_empty.run calls
  have hnd := ht.nodup (by omega)
  exact ⟨hnd, fun _ _ _ => unsubscribe_of_eq_append hnd, fun _ => unsubscribe_of_forall_ne⟩

theorem run_ids_distinct_two :
    subscribeCount [BusCall.subscribe .network (), .subscribeAll (), .unsubscribe 1] ≤ 4294967296 ∧
    ((({} : EventBus Unit).run [.subscribe .network (), .subscribeAll (), .unsubscribe 1]).2.subs.map
      (·.id)).Nodup :=
  ⟨by decide, (run_ids_distinct [.subscribe .network (), .subscribeAll (), .unsubscribe 1]
    (by decide)).1⟩

/-! ### The wrap of `next_id_` -/

/-- `subscribe_all` for `f s, …, f (s + n - 1)` from `next_id_ = s` (wrapped) gives them the
ids `s, …, s + n - 1`, wrapped. -/
theorem run_subscribeAll_range' (f : Nat → κ) (n : Nat) :
    ∀ (b : EventBus κ) (s : Nat), b.nextId = UInt32.ofNat s →
      b.run ((List.range' s n).map fun i => .subscribeAll (f i)) =
        ((List.range' s n).map fun i => .id (UInt32.ofNat i),
          ⟨b.subs ++ (List.range' s n).map fun i => ⟨UInt32.ofNat i, .tracking, true, f i⟩,
            UInt32.ofNat (s + n)⟩) := by
  induction n with
  | zero => intro b s hs; cases b; simp_all
  | succ n ih =>
    intro b s hs
    have hs' : UInt32.ofNat s + 1 = UInt32.ofNat (s + 1) := by rw [uint32_ofNat_add]; rfl
    simp only [List.range'_succ, List.map_cons, run_cons, apply, subscribeAll, hs]
    rw [ih _ (s + 1) hs', List.append_assoc, List.singleton_append, Nat.add_right_comm]
    rfl

/-- After `2^32 + 1` calls of `subscribe_all` on a fresh bus, the first and the last
subscription were both given id 1, and one `unsubscribe(1)` ends both: only the callbacks
`f 2, …, f (2^32)` are still subscribed. -/
theorem subscribeAll_wrap_unsubscribes_two (f : Nat → κ) :
    (({} : EventBus κ).run
      ((List.range' 1 4294967297).map (fun i => .subscribeAll (f i)) ++ [.unsubscribe 1])).1[0]? =
        some (.id 1) ∧
    (({} : EventBus κ).run
      ((List.range' 1 4294967297).map (fun i => .subscribeAll (f i)) ++
        [.unsubscribe 1])).1[4294967296]? = some (.id 1) ∧
    ((({} : EventBus κ).run
      ((List.range' 1 4294967297).map (fun i => .subscribeAll (f i)) ++
        [.unsubscribe 1])).2.subs.map (·.cb)) = (List.range' 2 4294967295).map f := by
  rw [run_append, run_subscribeAll_range' f _ _ 1 rfl]
  have hsplit : List.range' 1 4294967297 = 1 :: List.range' 2 4294967295 ++ [4294967297] := by
    rw [List.range'_1_concat, List.range'_succ]
  have hmid : ∀ i ∈ List.range' 2 4294967295, (UInt32.ofNat i != 1) = true := by
    intro i hi
    obtain ⟨j, hj, rfl⟩ := List.mem_range'.mp hi
    refine bne_iff_ne.mpr fun he => ?_
    have := congrArg UInt32.toNat he
    simp only [toNat_uint32_ofNat, show (1 : UInt32).toNat = 1 from rfl] at this
    omega
  refine ⟨?_, ?_, ?_⟩
  · rw [List.getElem?_append_left (by simp), List.getElem?_map, List.getElem?_range' _ _ (by omega)]
    rfl
  · rw [List.getElem?_append_left (by simp), List.getElem?_map, List.getElem?_range' _ _ (by omega)]
    rfl
  · have hkeep : ((List.range' 2 4294967295).map fun i =>
        (⟨UInt32.ofNat i, .tracking, true, f i⟩ : Subscription κ)).filter (·.id != 1) =
        (List.range' 2 4294967295).map fun i => ⟨UInt32.ofNat i, .tracking, true, f i⟩ :=
      List.filter_eq_self.mpr fun x hx => by
        obtain ⟨i, hi, rfl⟩ := List.mem_map.mp hx
        exact hmid i hi
    have h1 : (UInt32.ofNat 1 != 1) = false := rfl
    have h2 : (UInt32.ofNat 4294967297 != 1) = false := rfl
    rw [hsplit]
    simp only [run_cons, run_nil, apply, unsubscribe, List.nil_append, List.map_cons,
      List.map_append, List.cons_append, List.filter_cons, List.filter_append, h1, h2,
      Bool.false_eq_true, if_false, hkeep, List.map_nil, List.filter_nil, List.append_nil,
      List.map_map]
    rfl

end EventBus

end NetNodeGateway
