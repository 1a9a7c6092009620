import HuddleCluster.Lib.OrderStatistics
import HuddleCluster.Ring.Server

set_option autoImplicit false

namespace HuddleCluster.Ring

open Statistics

def lastThousand (latencies : List ℚ) : List ℚ := latencies.drop (latencies.length - 1000)

-- The order statistics of a window, with the last one repeated past the end.
def ranked (window : List ℚ) (i : Nat) : ℚ := (sorted window).getD (min i (window.length - 1)) 0

theorem ranked_mono (window : List ℚ) (nonempty : window ≠ []) : Monotone (ranked window) := by
  have positive := List.length_pos_iff.mpr nonempty
  intro i j le
  exact sorted_mono window _ _ (by omega) (by omega)

theorem ranked_mem (window : List ℚ) (nonempty : window ≠ []) (i : Nat) : ranked window i ∈ window := by
  have positive := List.length_pos_iff.mpr nonempty
  exact sorted_mem window _ (by omega)

theorem ranked_pointwise (window other : List ℚ) (nonempty : window ≠ []) (pointwise : List.Forall₂ (· ≤ ·) window other)
    (i : Nat) :
    ranked window i ≤ ranked other i := by
  have positive := List.length_pos_iff.mpr nonempty
  have length := pointwise.length_eq
  have sortedPointwise := sorted_pointwise window other pointwise
  have inside : min i (window.length - 1) < (sorted window).length := by
    rw [sorted_length]
    omega
  have otherInside : min i (window.length - 1) < (sorted other).length := by
    rw [sorted_length]
    omega
  rw [ranked, ranked, ← length, List.getD_eq_getElem _ _ inside, List.getD_eq_getElem _ _ otherInside]
  exact sortedPointwise.get inside otherInside

namespace ServerMetrics

def recordLatencies (m : ServerMetrics) (latencies : List ℚ) : ServerMetrics := latencies.foldl recordLatency m

theorem record_latencies_window (m : ServerMetrics) (latencies : List ℚ) :
    (m.recordLatencies latencies).histogramWindow = latencies.foldl (pushWindow 1000) m.histogramWindow := by
  induction latencies generalizing m with
  | nil => rfl
  | cons ms latencies ih =>
      have step : (m.recordLatency ms).histogramWindow = pushWindow 1000 m.histogramWindow ms := by rw [recordLatency]
      rw [recordLatencies, List.foldl_cons, List.foldl_cons, ← step]
      exact ih (m.recordLatency ms)

theorem recorded_window (m : ServerMetrics) (latencies : List ℚ) (fresh : m.histogramWindow = []) :
    (m.recordLatencies latencies).histogramWindow = lastThousand latencies := by
  rw [record_latencies_window, fresh, push_window_all 1000 [] latencies (by simp), List.nil_append, lastThousand]

theorem percentile_index (m : ServerMetrics) (p : ℚ) (nonempty : m.histogramWindow ≠ []) (nonneg : 0 ≤ p) :
    0 ≤ p / 100 * ((m.histogramWindow.length : ℚ) - 1) := by
  have whole : (1 : ℚ) ≤ m.histogramWindow.length := by exact_mod_cast List.length_pos_iff.mpr nonempty
  exact mul_nonneg (by positivity) (by linarith)

theorem percentile_interpolates (m : ServerMetrics) (p : ℚ) (nonempty : m.histogramWindow ≠ []) (nonneg : 0 ≤ p) (top : p ≤ 100) :
    m.percentile p = interpolate (ranked m.histogramWindow) (p / 100 * (m.histogramWindow.length - 1)) := by
  have positive := List.length_pos_iff.mpr nonempty
  have length := sorted_length m.histogramWindow
  by_cases single : m.histogramWindow.length = 1
  · have index : p / 100 * ((m.histogramWindow.length : ℚ) - 1) = 0 := by rw [single, Nat.cast_one, sub_self, mul_zero]
    rw [index, percentile]
    simp [length, single, interpolate, ranked]
  · have whole : (1 : ℚ) ≤ m.histogramWindow.length := by exact_mod_cast positive
    have indexNonneg := percentile_index m p nonempty nonneg
    have indexTop : p / 100 * ((m.histogramWindow.length : ℚ) - 1) ≤ m.histogramWindow.length - 1 :=
      mul_le_of_le_one_left (by linarith) (by linarith)
    obtain ⟨low, -⟩ := floor_to_nat _ indexNonneg
    have below : (p / 100 * ((m.histogramWindow.length : ℚ) - 1)).floor.toNat ≤ m.histogramWindow.length - 1 := by
      have cast : (((p / 100 * ((m.histogramWindow.length : ℚ) - 1)).floor.toNat + 1 : Nat) : ℚ) ≤ m.histogramWindow.length := by
        push_cast
        linarith
      have bound : (p / 100 * ((m.histogramWindow.length : ℚ) - 1)).floor.toNat + 1 ≤ m.histogramWindow.length := by exact_mod_cast cast
      omega
    rw [percentile]
    simp only [length, if_neg (Nat.pos_iff_ne_zero.mp positive), if_neg single, interpolate, ranked, Nat.min_eq_left below]

theorem percentile_empty (m : ServerMetrics) (p : ℚ) (empty : m.histogramWindow = []) : m.percentile p = 0 := by
  simp [percentile, empty, sorted]

theorem percentile_bounds (m : ServerMetrics) (p low high : ℚ) (nonempty : m.histogramWindow ≠ []) (nonneg : 0 ≤ p) (top : p ≤ 100)
    (least : ∀ v ∈ m.histogramWindow, low ≤ v) (most : ∀ v ∈ m.histogramWindow, v ≤ high) :
    low ≤ m.percentile p ∧ m.percentile p ≤ high := by
  have index := percentile_index m p nonempty nonneg
  obtain ⟨above, below⟩ := interpolate_between _ (ranked_mono _ nonempty) _ index
  rw [percentile_interpolates m p nonempty nonneg top]
  exact ⟨(least _ (ranked_mem _ nonempty _)).trans above, below.trans (most _ (ranked_mem _ nonempty _))⟩

theorem percentile_mono (m : ServerMetrics) (p q : ℚ) (nonneg : 0 ≤ p) (le : p ≤ q) (top : q ≤ 100) :
    m.percentile p ≤ m.percentile q := by
  by_cases empty : m.histogramWindow = []
  · rw [percentile_empty m p empty, percentile_empty m q empty]
  · have positive := List.length_pos_iff.mpr empty
    have whole : (1 : ℚ) ≤ m.histogramWindow.length := by exact_mod_cast positive
    rw [percentile_interpolates m p empty nonneg (le.trans top), percentile_interpolates m q empty (nonneg.trans le) top]
    apply interpolate_mono _ (ranked_mono _ empty) _ _ (percentile_index m p empty nonneg)
    exact mul_le_mul_of_nonneg_right (by linarith) (by linarith)

theorem percentile_pointwise (m other : ServerMetrics) (p : ℚ) (nonneg : 0 ≤ p) (top : p ≤ 100)
    (pointwise : List.Forall₂ (· ≤ ·) m.histogramWindow other.histogramWindow) : m.percentile p ≤ other.percentile p := by
  have length := pointwise.length_eq
  by_cases empty : m.histogramWindow = []
  · have otherEmpty : other.histogramWindow = [] := List.length_eq_zero_iff.mp (by rw [← length, empty, List.length_nil])
    rw [percentile_empty m p empty, percentile_empty other p otherEmpty]
  · have otherSome : other.histogramWindow ≠ [] := by
      intro otherEmpty
      rw [otherEmpty, List.length_nil] at length
      exact empty (List.length_eq_zero_iff.mp length)
    rw [percentile_interpolates m p empty nonneg top, percentile_interpolates other p otherSome nonneg top, ← length]
    exact interpolate_pointwise _ _ (ranked_pointwise _ _ empty pointwise) _ (percentile_index m p empty nonneg)

theorem percentile_reads (m other : ServerMetrics) (p : ℚ) (same : m.histogramWindow.Perm other.histogramWindow) :
    m.percentile p = other.percentile p := by
  simp only [percentile, sorted_same _ _ same]

end ServerMetrics

theorem set_pointwise (latencies : List ℚ) (i : Nat) (sample : ℚ) (inside : i < latencies.length) (larger : latencies[i] ≤ sample) :
    List.Forall₂ (· ≤ ·) latencies (latencies.set i sample) := by
  refine List.forall₂_iff_get.mpr ⟨by simp, ?_⟩
  intro j first second
  rw [List.get_eq_getElem, List.get_eq_getElem, List.getElem_set]
  split
  · next same =>
      subst same
      exact larger
  · exact le_refl _

theorem window_set_pointwise (latencies : List ℚ) (i : Nat) (sample : ℚ) (inside : i < latencies.length)
    (larger : latencies[i] ≤ sample) :
    List.Forall₂ (· ≤ ·) (lastThousand latencies) (lastThousand (latencies.set i sample)) := by
  rw [lastThousand, lastThousand, List.length_set]
  exact List.forall₂_drop _ (set_pointwise latencies i sample inside larger)

theorem percentile_laws (m : ServerMetrics) (latencies : List ℚ) (p q : ℚ) (fresh : m.histogramWindow = []) (nonneg : 0 ≤ p)
    (le : p ≤ q) (top : q ≤ 100) :
    (∀ low high, (lastThousand latencies).min? = some low → (lastThousand latencies).max? = some high →
      low ≤ (m.recordLatencies latencies).percentile p ∧ (m.recordLatencies latencies).percentile p ≤ high) ∧
    (m.recordLatencies latencies).percentile p ≤ (m.recordLatencies latencies).percentile q ∧
    (∀ others, (lastThousand latencies).Perm (lastThousand others) →
      (m.recordLatencies latencies).percentile p = (m.recordLatencies others).percentile p) ∧
    (∀ i sample, ∀ inside : i < latencies.length, latencies[i] ≤ sample →
      (m.recordLatencies latencies).percentile p ≤ (m.recordLatencies (latencies.set i sample)).percentile p) := by
  have window (samples : List ℚ) := ServerMetrics.recorded_window m samples fresh
  refine ⟨?_, ServerMetrics.percentile_mono _ p q nonneg le top, ?_, ?_⟩
  · intro low high least most
    have nonempty : (m.recordLatencies latencies).histogramWindow ≠ [] := by
      rw [window]
      intro empty
      rw [empty] at least
      cases least
    apply ServerMetrics.percentile_bounds _ p low high nonempty nonneg (le.trans top)
    · intro v member
      rw [window] at member
      exact (List.min?_eq_some_iff.mp least).2 v member
    · intro v member
      rw [window] at member
      exact (List.max?_eq_some_iff.mp most).2 v member
  · intro others same
    apply ServerMetrics.percentile_reads
    rw [window, window]
    exact same
  · intro i sample inside larger
    apply ServerMetrics.percentile_pointwise _ _ p nonneg (le.trans top)
    rw [window, window]
    exact window_set_pointwise latencies i sample inside larger

theorem percentile_laws_three :
    (({} : ServerMetrics).recordLatencies [30, 10, 20]).percentile 50 = 20 ∧
      10 ≤ (({} : ServerMetrics).recordLatencies [30, 10, 20]).percentile 50 ∧
      (({} : ServerMetrics).recordLatencies [30, 10, 20]).percentile 50 ≤
      (({} : ServerMetrics).recordLatencies [30, 10, 20]).percentile 95 := by
  have laws := percentile_laws {} [30, 10, 20] 50 95 rfl (by norm_num) (by norm_num) (by norm_num)
  exact ⟨by decide +kernel, (laws.1 10 30 (by decide +kernel) (by decide +kernel)).1, laws.2.1⟩

end HuddleCluster.Ring
