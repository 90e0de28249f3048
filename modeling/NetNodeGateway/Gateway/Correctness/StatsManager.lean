import NetNodeGateway.Gateway.StatsManager
import Mathlib.Tactic.Abel

/-!
# Consistency of `StatsManager`

After every sequence of mutators from construction, the per-source counters add up to the
global ones modulo `2^64` (the `malformed` entries to `malformed_total + crc_fail_total`), and
the entries of `get_all_source_stats()` carry pairwise distinct ids, each its own key
(`run_consistent`).  `Consistent` is the invariant; each mutator changes one entry's counters
by the same amounts as the global ones (`sum_getOrCreateSource`), so every mutator keeps
it (`Consistent.apply`), and `reset` restores the empty state.

Between resets the counters only grow, as long as none wraps (`run_counters_monotone`): each
mutator adds to one counter (`le_apply`), and the health, a function of the counters that is
monotone in them (`GlobalStats.Le.rank_healthRule`), never improves.
-/

namespace NetNodeGateway

/-- One mutator of `StatsManager`. -/
inductive StatsOp
  | recordRx (srcId : UInt16) (seq : UInt32) (tsNs : UInt64)
  | recordMalformed (srcId : UInt16)
  | recordGap (srcId : UInt16) (gapSize : UInt32)
  | recordReorder (srcId : UInt16)
  | recordDuplicate (srcId : UInt16)
  | recordCrcFail (srcId : UInt16)
  | reset

namespace StatsManager

/-- The effect of one mutator. -/
def apply (m : StatsManager) : StatsOp → StatsManager
  | .recordRx srcId seq tsNs => m.recordRx srcId seq tsNs
  | .recordMalformed srcId => m.recordMalformed srcId
  | .recordGap srcId gapSize => m.recordGap srcId gapSize
  | .recordReorder srcId => m.recordReorder srcId
  | .recordDuplicate srcId => m.recordDuplicate srcId
  | .recordCrcFail srcId => m.recordCrcFail srcId
  | .reset => m.reset

/-- A sequence of mutators, in order. -/
def run (m : StatsManager) (ops : List StatsOp) : StatsManager := ops.foldl apply m

/-- The sum of one counter over the source entries. -/
def sourceSum (m : StatsManager) (g : SourceStats → UInt64) : UInt64 :=
  (m.getAllSourceStats.map g).sum

/-- The global counters are the sums of the source counters, and the map is keyed by the
entries' own ids. -/
structure Consistent (m : StatsManager) : Prop where
  rx : m.sourceSum (·.rxCount) = m.global.rxTotal
  gaps : m.sourceSum (·.gaps) = m.global.gapTotal
  reorders : m.sourceSum (·.reorders) = m.global.reorderTotal
  duplicates : m.sourceSum (·.duplicates) = m.global.duplicateTotal
  malformed : m.sourceSum (·.malformed) = m.global.malformedTotal + m.global.crcFailTotal
  nodup : (m.sources.map (·.1)).Nodup
  keys : ∀ e ∈ m.sources, e.2.srcId = e.1

/-! ### Updating one entry -/

/-- The update `get_or_create_source` makes to an existing entry. -/
theorem map_update_of_not_mem {l : List (UInt16 × SourceStats)} {k : UInt16}
    (f : SourceStats → SourceStats) (hk : k ∉ l.map (·.1)) :
    l.map (fun e => if e.1 = k then (e.1, f e.2) else e) = l := by
  induction l with
  | nil => rfl
  | cons e l ih =>
    simp only [List.map_cons, List.mem_cons, not_or] at hk ⊢
    rw [if_neg (Ne.symm hk.1), ih hk.2]

theorem sum_map_update {l : List (UInt16 × SourceStats)} {k : UInt16}
    {f : SourceStats → SourceStats} {g : SourceStats → UInt64} {δ : UInt64}
    (hf : ∀ s, g (f s) = g s + δ) (hnd : (l.map (·.1)).Nodup) (hk : k ∈ l.map (·.1)) :
    ((l.map fun e => if e.1 = k then (e.1, f e.2) else e).map (g ·.2)).sum =
      (l.map (g ·.2)).sum + δ := by
  induction l with
  | nil => simp at hk
  | cons e l ih =>
    simp only [List.map_cons, List.nodup_cons, List.mem_cons] at hnd hk ⊢
    by_cases he : e.1 = k
    · subst he
      rw [if_pos rfl, map_update_of_not_mem f hnd.1]
      simp only [List.sum_cons, hf]
      exact add_right_comm _ _ _
    · rw [if_neg he, List.sum_cons, List.sum_cons, ih hnd.2 (hk.resolve_left (Ne.symm he)),
        add_assoc]

theorem getOrCreateSource_of_mem {m : StatsManager} {k : UInt16} (f : SourceStats → SourceStats)
    (hk : k ∈ m.sources.map (·.1)) :
    m.getOrCreateSource k f = m.sources.map fun e => if e.1 = k then (e.1, f e.2) else e := by
  have : m.sources.any (·.1 == k) = true := by simpa [List.any_eq_true] using hk
  rw [getOrCreateSource, if_pos this]

theorem getOrCreateSource_of_not_mem {m : StatsManager} {k : UInt16}
    (f : SourceStats → SourceStats) (hk : k ∉ m.sources.map (·.1)) :
    m.getOrCreateSource k f = m.sources ++ [(k, f { srcId := k })] := by
  have : ¬ m.sources.any (·.1 == k) = true := by simpa [List.any_eq_true] using hk
  rw [getOrCreateSource, if_neg this]

/-- A change of `δ` to one counter of the entry changes its sum by `δ`. -/
theorem sum_getOrCreateSource {m : StatsManager} {k : UInt16} {f : SourceStats → SourceStats}
    {g : SourceStats → UInt64} {δ : UInt64} (hnd : (m.sources.map (·.1)).Nodup)
    (hf : ∀ s, g (f s) = g s + δ) (h0 : g { srcId := k } = 0) :
    ((m.getOrCreateSource k f).map (g ·.2)).sum = m.sourceSum g + δ := by
  rw [sourceSum, getAllSourceStats, List.map_map]
  by_cases hk : k ∈ m.sources.map (·.1)
  · rw [getOrCreateSource_of_mem f hk]; exact sum_map_update hf hnd hk
  · rw [getOrCreateSource_of_not_mem f hk]
    simp [hf, h0, Function.comp_def]

/-- An entry update that keeps ids and moves each counter by as much as its global counter
keeps the state consistent. -/
theorem Consistent.update {m : StatsManager} (hc : m.Consistent) (k : UInt16)
    (f : SourceStats → SourceStats) (g' : GlobalStats) (hsrc : ∀ s, (f s).srcId = s.srcId)
    (hrx : ∀ s, (f s).rxCount = s.rxCount + (g'.rxTotal - m.global.rxTotal))
    (hgap : ∀ s, (f s).gaps = s.gaps + (g'.gapTotal - m.global.gapTotal))
    (hreo : ∀ s, (f s).reorders = s.reorders + (g'.reorderTotal - m.global.reorderTotal))
    (hdup : ∀ s, (f s).duplicates = s.duplicates + (g'.duplicateTotal - m.global.duplicateTotal))
    (hmal : ∀ s, (f s).malformed = s.malformed + ((g'.malformedTotal + g'.crcFailTotal) -
      (m.global.malformedTotal + m.global.crcFailTotal))) :
    Consistent ⟨g', m.getOrCreateSource k f⟩ := by
  have hsum {g : SourceStats → UInt64} {δ : UInt64} (hf : ∀ s, g (f s) = g s + δ)
      (h0 : g { srcId := k } = 0) : sourceSum ⟨g', m.getOrCreateSource k f⟩ g = m.sourceSum g + δ :=
    by rw [← sum_getOrCreateSource hc.nodup hf h0, sourceSum, getAllSourceStats, List.map_map]; rfl
  refine ⟨?_, ?_, ?_, ?_, ?_, ?_, ?_⟩
  · rw [hsum hrx rfl, hc.rx]; abel
  · rw [hsum hgap rfl, hc.gaps]; abel
  · rw [hsum hreo rfl, hc.reorders]; abel
  · rw [hsum hdup rfl, hc.duplicates]; abel
  · rw [hsum hmal rfl, hc.malformed]; abel
  · by_cases hk : k ∈ m.sources.map (·.1)
    · rw [getOrCreateSource_of_mem f hk, List.map_map]
      convert hc.nodup using 2
      funext e; by_cases he : e.1 = k <;> simp [he]
    · rw [getOrCreateSource_of_not_mem f hk, List.map_append]
      exact hc.nodup.append (by simp) (by simpa using hk)
  · by_cases hk : k ∈ m.sources.map (·.1)
    · rw [getOrCreateSource_of_mem f hk]
      simp only [List.mem_map]
      rintro _ ⟨e, he, rfl⟩
      by_cases hek : e.1 = k <;> simp [hek, hsrc, hc.keys e he]
    · rw [getOrCreateSource_of_not_mem f hk]
      simp only [List.mem_append, List.mem_singleton]
      rintro e (he | rfl)
      · exact hc.keys e he
      · simp [hsrc]

theorem consistent_empty : Consistent {} :=
  ⟨rfl, rfl, rfl, rfl, rfl, List.nodup_nil, fun _ h => absurd h (List.not_mem_nil _)⟩

/-- Every mutator keeps the state consistent. -/
theorem Consistent.apply {m : StatsManager} (hc : m.Consistent) (op : StatsOp) :
    (m.apply op).Consistent := by
  cases op
  case reset => exact consistent_empty
  all_goals
    exact hc.update _ _ _ (fun _ => rfl) (fun _ => by simp) (fun _ => by simp) (fun _ => by simp)
      (fun _ => by simp) (fun _ => by simp)

theorem Consistent.run {m : StatsManager} (hc : m.Consistent) (ops : List StatsOp) :
    (m.run ops).Consistent := by
  induction ops generalizing m with
  | nil => exact hc
  | cons op ops ih => exact ih (hc.apply op)

/-! ### Reading one source -/

theorem find?_map_update (l : List (UInt16 × SourceStats)) (k k' : UInt16)
    (f : SourceStats → SourceStats) :
    (l.map fun e => if e.1 = k then (e.1, f e.2) else e).find? (·.1 == k') =
      (l.find? (·.1 == k')).map fun e => if e.1 = k then (e.1, f e.2) else e := by
  induction l with
  | nil => rfl
  | cons e l ih =>
    have hfst : (if e.1 = k then (e.1, f e.2) else e).1 = e.1 := by split <;> rfl
    simp only [List.map_cons, List.find?_cons, hfst]
    cases e.1 == k' <;> simp [ih]

/-- After `get_or_create_source(k)` and the change `f`, `get_source_stats(k')` reads `f` of
the entry for `k` (a fresh one if there was none) when `k' = k`, and what it read before
otherwise. -/
theorem getSourceStats_getOrCreateSource (m : StatsManager) (g : GlobalStats) (k : UInt16)
    (f : SourceStats → SourceStats) (k' : UInt16) :
    ({ global := g, sources := m.getOrCreateSource k f } : StatsManager).getSourceStats k' =
      if k' = k then f (((m.sources.find? (·.1 == k)).map (·.2)).getD { srcId := k })
      else m.getSourceStats k' := by
  by_cases hk : k ∈ m.sources.map (·.1)
  · rw [getOrCreateSource_of_mem f hk]
    simp only [getSourceStats, find?_map_update]
    cases hfind : m.sources.find? (·.1 == k') with
    | none =>
      split_ifs with hkk
      · subst hkk
        obtain ⟨e, he, hek⟩ := List.mem_map.mp hk
        exact absurd (by simp [hek]) (List.find?_eq_none.mp hfind e he)
      · rfl
    | some e =>
      have he : e.1 = k' := by simpa using List.find?_some hfind
      split_ifs with hkk
      · subst hkk; simp [he, hfind]
      · simp [he, hkk]
  · have hnone : m.sources.find? (·.1 == k) = none :=
      List.find?_eq_none.mpr fun e he h => hk (List.mem_map.mpr ⟨e, he, by simpa using h⟩)
    rw [getOrCreateSource_of_not_mem f hk]
    simp only [getSourceStats, List.find?_append]
    split_ifs with hkk
    · subst hkk; simp [hnone]
    · simp [Ne.symm hkk]

/-- The same for source `0`, whose fresh entry is the default `SourceStats`. -/
theorem getSourceStats_getOrCreateSource_zero (m : StatsManager) (g : GlobalStats)
    (f : SourceStats → SourceStats) (k' : UInt16) :
    ({ global := g, sources := m.getOrCreateSource 0 f } : StatsManager).getSourceStats k' =
      if k' = 0 then f (m.getSourceStats 0) else m.getSourceStats k' :=
  getSourceStats_getOrCreateSource m g 0 f k'

/-- A change of `δ` to the `malformed` counter of source `k` shows in
`get_source_stats(0)` exactly when `k = 0`. -/
theorem malformed_zero_getOrCreateSource (m : StatsManager) (g : GlobalStats) (k : UInt16)
    {f : SourceStats → SourceStats} {δ : UInt64} (hf : ∀ s, (f s).malformed = s.malformed + δ) :
    (({ global := g, sources := m.getOrCreateSource k f } : StatsManager).getSourceStats 0).malformed =
      (m.getSourceStats 0).malformed + if k = 0 then δ else 0 := by
  rw [getSourceStats_getOrCreateSource]
  by_cases hk : k = 0
  · subst hk; simp only [if_true, hf]; rfl
  · simp [Ne.symm hk, hk]

end StatsManager

/-- After any sequence of mutators from construction, modulo `2^64`: the source counters add up
to the global ones, `malformed` to `malformed_total + crc_fail_total`; the entries of
`get_all_source_stats()` have pairwise distinct ids, each the key it is stored under. -/
theorem run_consistent (ops : List StatsOp) :
    let m := ({} : StatsManager).run ops
    ((m.getAllSourceStats.map (·.rxCount)).sum = m.getGlobalStats.rxTotal ∧
     (m.getAllSourceStats.map (·.gaps)).sum = m.getGlobalStats.gapTotal ∧
     (m.getAllSourceStats.map (·.reorders)).sum = m.getGlobalStats.reorderTotal ∧
     (m.getAllSourceStats.map (·.duplicates)).sum = m.getGlobalStats.duplicateTotal ∧
     (m.getAllSourceStats.map (·.malformed)).sum =
       m.getGlobalStats.malformedTotal + m.getGlobalStats.crcFailTotal) ∧
    (m.getAllSourceStats.map (·.srcId)).Nodup ∧ ∀ e ∈ m.sources, e.2.srcId = e.1 := by
  have hc := StatsManager.consistent_empty.run ops
  refine ⟨⟨hc.rx, hc.gaps, hc.reorders, hc.duplicates, hc.malformed⟩, ?_, hc.keys⟩
  have : (({} : StatsManager).run ops).getAllSourceStats.map (·.srcId) =
      (({} : StatsManager).run ops).sources.map (·.1) := by
    rw [StatsManager.getAllSourceStats, List.map_map]
    exact List.map_congr_left fun e he => hc.keys e he
  rw [this]
  exact hc.nodup

/-! ### Monotonicity -/

/-- The order of `get_health()`'s values, `OK < DEGRADED < ERROR`. -/
def HealthState.rank : HealthState → Nat
  | .ok => 0
  | .degraded => 1
  | .error => 2

/-- The health rule of the specification: `ERROR` when a frame was malformed or failed its CRC,
else `DEGRADED` when a gap or a reorder was seen, else `OK`. -/
def healthRule (g : GlobalStats) : HealthState :=
  if 0 < g.malformedTotal.toNat ∨ 0 < g.crcFailTotal.toNat then .error
  else if 0 < g.gapTotal.toNat ∨ 0 < g.reorderTotal.toNat then .degraded
  else .ok

/-- Every counter of `g` is at most the same counter of `g'`. -/
structure GlobalStats.Le (g g' : GlobalStats) : Prop where
  rxTotal : g.rxTotal.toNat ≤ g'.rxTotal.toNat
  malformedTotal : g.malformedTotal.toNat ≤ g'.malformedTotal.toNat
  gapTotal : g.gapTotal.toNat ≤ g'.gapTotal.toNat
  reorderTotal : g.reorderTotal.toNat ≤ g'.reorderTotal.toNat
  duplicateTotal : g.duplicateTotal.toNat ≤ g'.duplicateTotal.toNat
  crcFailTotal : g.crcFailTotal.toNat ≤ g'.crcFailTotal.toNat

theorem GlobalStats.Le.refl (g : GlobalStats) : g.Le g :=
  ⟨le_rfl, le_rfl, le_rfl, le_rfl, le_rfl, le_rfl⟩

theorem GlobalStats.Le.trans {g g' g'' : GlobalStats} (h : g.Le g') (h' : g'.Le g'') : g.Le g'' :=
  ⟨h.1.trans h'.1, h.2.trans h'.2, h.3.trans h'.3, h.4.trans h'.4, h.5.trans h'.5, h.6.trans h'.6⟩

/-- Larger counters never give a better health. -/
theorem GlobalStats.Le.rank_healthRule {g g' : GlobalStats} (h : g.Le g') :
    (healthRule g).rank ≤ (healthRule g').rank := by
  have := h.malformedTotal; have := h.crcFailTotal; have := h.gapTotal; have := h.reorderTotal
  unfold healthRule
  by_cases e' : 0 < g'.malformedTotal.toNat ∨ 0 < g'.crcFailTotal.toNat
  · rw [if_pos e']
    split_ifs <;> decide
  · rw [if_neg e', if_neg (by omega)]
    by_cases d' : 0 < g'.gapTotal.toNat ∨ 0 < g'.reorderTotal.toNat
    · rw [if_pos d']
      split <;> decide
    · rw [if_neg d', if_neg (by omega)]

namespace StatsManager

/-- The mutator `op` does not carry the counter it adds to past `2^64 - 1`. -/
def Fits (m : StatsManager) : StatsOp → Prop
  | .recordRx .. => m.global.rxTotal.toNat + 1 < 2 ^ 64
  | .recordMalformed _ => m.global.malformedTotal.toNat + 1 < 2 ^ 64
  | .recordGap _ gapSize => m.global.gapTotal.toNat + gapSize.toNat < 2 ^ 64
  | .recordReorder _ => m.global.reorderTotal.toNat + 1 < 2 ^ 64
  | .recordDuplicate _ => m.global.duplicateTotal.toNat + 1 < 2 ^ 64
  | .recordCrcFail _ => m.global.crcFailTotal.toNat + 1 < 2 ^ 64
  | .reset => True

/-- No mutator of the run carries its counter past `2^64 - 1`. -/
def NoWrap (m : StatsManager) : List StatsOp → Prop
  | [] => True
  | op :: ops => m.Fits op ∧ (m.apply op).NoWrap ops

instance decFits (m : StatsManager) : (op : StatsOp) → Decidable (m.Fits op)
  | .recordRx .. | .recordMalformed _ | .recordGap .. | .recordReorder _ | .recordDuplicate _
  | .recordCrcFail _ => inferInstanceAs (Decidable (_ < _))
  | .reset => inferInstanceAs (Decidable True)

instance decNoWrap : (m : StatsManager) → (ops : List StatsOp) → Decidable (m.NoWrap ops)
  | _, [] => inferInstanceAs (Decidable True)
  | m, op :: ops =>
    haveI := decNoWrap (m.apply op) ops
    inferInstanceAs (Decidable (m.Fits op ∧ (m.apply op).NoWrap ops))

theorem NoWrap.append {m : StatsManager} {a b : List StatsOp} (h : m.NoWrap (a ++ b)) :
    (m.run a).NoWrap b := by
  induction a generalizing m with
  | nil => exact h
  | cons op a ih => exact ih h.2

theorem toNat_le_add {x y : UInt64} (h : x.toNat + y.toNat < 2 ^ 64) : x.toNat ≤ (x + y).toNat := by
  rw [toNat_uint64_add, Nat.mod_eq_of_lt (by omega)]
  exact Nat.le_add_right _ _

/-- A mutator other than `reset` that does not wrap leaves every global counter at least where
it was: it adds to one counter and leaves the others. -/
theorem le_apply (m : StatsManager) {op : StatsOp} (hop : op ≠ .reset) (h : m.Fits op) :
    m.global.Le (m.apply op).global := by
  have hr := GlobalStats.Le.refl m.global
  cases op with
  | recordRx => exact { hr with rxTotal := toNat_le_add (y := 1) h }
  | recordMalformed => exact { hr with malformedTotal := toNat_le_add (y := 1) h }
  | recordGap _ gapSize =>
    have hg : gapSize.toUInt64.toNat = gapSize.toNat := by
      rw [toUInt64_eq_ofNat, toNat_uint64_ofNat]
      exact Nat.mod_eq_of_lt (lt_trans gapSize.toNat_lt_size (by decide))
    exact { hr with gapTotal := toNat_le_add (by rw [hg]; exact h) }
  | recordReorder => exact { hr with reorderTotal := toNat_le_add (y := 1) h }
  | recordDuplicate => exact { hr with duplicateTotal := toNat_le_add (y := 1) h }
  | recordCrcFail => exact { hr with crcFailTotal := toNat_le_add (y := 1) h }
  | reset => exact absurd rfl hop

theorem le_run (m : StatsManager) {ops : List StatsOp} (hr : StatsOp.reset ∉ ops)
    (h : m.NoWrap ops) : m.global.Le (m.run ops).global := by
  induction ops generalizing m with
  | nil => exact .refl _
  | cons op ops ih =>
    rw [List.mem_cons, not_or] at hr
    exact (m.le_apply (Ne.symm hr.1) h.1).trans (ih _ hr.2 h.2)

theorem run_append (m : StatsManager) (a b : List StatsOp) : m.run (a ++ b) = (m.run a).run b :=
  List.foldl_append _ _ _ _

theorem getHealth_eq_healthRule (m : StatsManager) : m.getHealth = healthRule m.getGlobalStats := by
  simp only [getHealth, healthRule, getGlobalStats, gt_iff_lt]
  rfl

end StatsManager

/-- **Counters never go backwards and health never improves without a reset**: along a run of
mutators with no `reset` and no counter carried past `2^64 - 1`, every global counter at a later
point is at least its value at an earlier one, `get_health()` is the specification's rule over
the counters, and its rank in `OK < DEGRADED < ERROR` never goes down. -/
theorem run_counters_monotone (m : StatsManager) (a b : List StatsOp)
    (hr : StatsOp.reset ∉ a ++ b) (hw : m.NoWrap (a ++ b)) :
    (m.run a).getGlobalStats.Le (m.run (a ++ b)).getGlobalStats ∧
      (∀ m' : StatsManager, m'.getHealth = healthRule m'.getGlobalStats) ∧
      (m.run a).getHealth.rank ≤ (m.run (a ++ b)).getHealth.rank := by
  have hle : (m.run a).global.Le ((m.run a).run b).global :=
    StatsManager.le_run _ (fun h => hr (List.mem_append_right a h)) hw.append
  rw [StatsManager.run_append]
  refine ⟨hle, StatsManager.getHealth_eq_healthRule, ?_⟩
  rw [StatsManager.getHealth_eq_healthRule, StatsManager.getHealth_eq_healthRule]
  exact hle.rank_healthRule

theorem run_counters_monotone_gap :
    StatsOp.reset ∉ [.recordRx 1 0 0] ++ [.recordGap 1 3, .recordMalformed 1] ∧
      ({} : StatsManager).NoWrap ([.recordRx 1 0 0] ++ [.recordGap 1 3, .recordMalformed 1]) ∧
      (({} : StatsManager).run [.recordRx 1 0 0]).getGlobalStats.Le
        (({} : StatsManager).run ([.recordRx 1 0 0] ++ [.recordGap 1 3, .recordMalformed 1])).getGlobalStats ∧
      (({} : StatsManager).run [.recordRx 1 0 0]).getHealth.rank ≤
        (({} : StatsManager).run ([.recordRx 1 0 0] ++ [.recordGap 1 3, .recordMalformed 1])).getHealth.rank :=
  have h := run_counters_monotone {} [.recordRx 1 0 0] [.recordGap 1 3, .recordMalformed 1]
    (by simp) (by decide)
  ⟨by simp, by decide, h.1, h.2.2⟩

end NetNodeGateway
