import LlmGateway.Lib.Runs
import Mathlib.Algebra.Order.Group.Defs
import Mathlib.Algebra.Order.Monoid.Unbundled.Pow

/-!
Admission against a counter that is read when an item enters and charged when
it leaves. Nothing is reserved in between, so every item that is pending was
let in against a counter that did not know of the others.
-/

namespace Admission

variable {State Event Amount : Type*} [AddCommMonoid Amount] [LinearOrder Amount]
  [IsOrderedCancelAddMonoid Amount]

structure Meter (State Amount : Type*) where
  spent : State → Amount
  pending : State → ℕ

inductive Moves (meter : Meter State Amount) (limit charge : Amount) (before after : State) : Prop
  | idles (spends : meter.spent after = meter.spent before)
      (leaves : meter.pending after ≤ meter.pending before)
  | admits (below : meter.spent before < limit) (spends : meter.spent after = meter.spent before)
      (enters : meter.pending after = meter.pending before + 1)
  | settles (spends : meter.spent after ≤ meter.spent before + charge)
      (leaves : meter.pending after + 1 ≤ meter.pending before)

def Meter.Covered (meter : Meter State Amount) (limit charge : Amount) (cap : ℕ)
    (state : State) : Prop :=
  meter.spent state + meter.pending state • charge < limit + cap • charge

variable (meter : Meter State Amount) (limit charge : Amount) (cap : ℕ)

theorem spent_bound (nonneg : 0 ≤ charge) (state : State)
    (covered : meter.Covered limit charge cap state) :
    meter.spent state < limit + cap • charge :=
  lt_of_le_of_lt (le_add_of_nonneg_right (nsmul_nonneg nonneg _)) covered

/-- The counter that lets an item in knows of no other pending item, so it is
the number of these that pays for the admission. -/
theorem covered_step (nonneg : 0 ≤ charge) (before after : State)
    (covered : meter.Covered limit charge cap before)
    (moves : Moves meter limit charge before after) (room : meter.pending after ≤ cap) :
    meter.Covered limit charge cap after := by
  unfold Meter.Covered at covered ⊢
  cases moves with
  | idles spends leaves =>
      rw [spends]
      exact lt_of_le_of_lt (add_le_add_right (nsmul_le_nsmul_left nonneg leaves) _) covered
  | admits below spends enters =>
      rw [spends]
      exact add_lt_add_of_lt_of_le below (nsmul_le_nsmul_left nonneg room)
  | settles spends leaves =>
      calc meter.spent after + meter.pending after • charge
          ≤ meter.spent before + charge + meter.pending after • charge :=
            add_le_add_left spends _
        _ = meter.spent before + (meter.pending after + 1) • charge := by
            rw [succ_nsmul, add_assoc, add_comm charge]
        _ ≤ meter.spent before + meter.pending before • charge :=
            add_le_add_right (nsmul_le_nsmul_left nonneg leaves) _
        _ < limit + cap • charge := covered

/-- While at most `cap` items are pending and none is charged more than
`charge`, the counter stays below the limit plus `cap` charges. -/
theorem always_bounded (step : State → Event → State) (allowed : State → Event → Prop)
    (background : State → Prop) (nonneg : 0 ≤ charge)
    (kept : ∀ state event, background state → background (step state event))
    (moves : ∀ state event, background state → allowed state event →
      Moves meter limit charge state (step state event))
    (room : ∀ state event, allowed state event → meter.pending (step state event) ≤ cap)
    (state : State) (events : List Event) (base : background state)
    (start : meter.Covered limit charge cap state)
    (guarded : Runs.Guarded step allowed state events) :
    Runs.Always step (fun state => meter.spent state < limit + cap • charge) state events := by
  have covered := Runs.always_of_guarded step
    (fun state => background state ∧ meter.Covered limit charge cap state) allowed
    (fun state event holds permits =>
      ⟨kept state event holds.1, covered_step meter limit charge cap nonneg state _ holds.2
        (moves state event holds.1 permits) (room state event permits)⟩)
    state events ⟨base, start⟩ guarded
  exact Runs.always_mono step _ _
    (fun state holds => spent_bound meter limit charge cap nonneg state holds.2) state events covered

end Admission
