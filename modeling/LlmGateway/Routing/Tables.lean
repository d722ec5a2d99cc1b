import LlmGateway.Routing.Orders
import LlmGateway.Routing.Service

/-!
The tables behind the router, as `chat.module.ts` wires it: a strategy, a
weight or a priority is looked up under the name it is asked for, whether or
not an alias of that name is registered.
-/

namespace LlmGateway.Routing

open Providers Service

/-- `alias_policy` and `alias_weights` next to the registry. Neither refers to
`alias_entries`. -/
structure RoutingTables where
  registry : ProviderRegistry
  policies : AList fun _ : String => RoutingStrategyKind
  weights : AList fun _ : String × ℕ => ℤ
  /-- `PRIMARY KEY (alias_name, position)`. -/
  positions : (registry.aliasEntries.map fun row => (row.aliasName, row.position)).Nodup
  /-- `CHECK (weight > 0)`. -/
  positive : ∀ key weight, weights.lookup key = some weight → 0 < weight

namespace RoutingTables

variable (tables : RoutingTables)

def getStrategy (aliasKey : String) : RoutingStrategyKind :=
  (tables.policies.lookup aliasKey).getD .primary

def getWeights (aliasKey : String) : List (ℕ × ℤ) :=
  ((tables.weights.entries.filter fun row => row.1.1 = aliasKey).map
    fun row => (row.1.2, row.2)).insertionSort fun left right => left.1 ≤ right.1

def routingService (cursor : RoundRobinCursor) : Router where
  strategyFor := tables.getStrategy
  weightRows := tables.getWeights
  cursor := cursor

def weightAt (aliasKey : String) (position : ℕ) : ℤ :=
  (tables.weights.lookup (aliasKey, position)).getD 1

theorem mem_getWeights (aliasKey : String) (position : ℕ) (weight : ℤ) :
    (position, weight) ∈ tables.getWeights aliasKey ↔
      tables.weights.lookup (aliasKey, position) = some weight := by
  rw [← Option.mem_def, AList.mem_lookup_iff]
  simp only [getWeights, List.mem_insertionSort, List.mem_map, List.mem_filter,
    decide_eq_true_eq]
  constructor
  · rintro ⟨⟨⟨owner, placed⟩, stored⟩, ⟨member, mine⟩, same⟩
    simp only [Prod.mk.injEq] at mine same
    obtain ⟨rfl, rfl⟩ := same
    rwa [← mine]
  · intro member
    exact ⟨_, ⟨member, rfl⟩, rfl⟩

theorem getWeights_positions (aliasKey : String) :
    ((tables.getWeights aliasKey).map Prod.fst).Nodup := by
  have keys : (tables.weights.entries.map Sigma.fst).Nodup := tables.weights.nodupKeys
  have sorted := (List.perm_insertionSort (fun left right : ℕ × ℤ => left.1 ≤ right.1)
    ((tables.weights.entries.filter fun row => row.1.1 = aliasKey).map
      fun row => (row.1.2, row.2))).map Prod.fst
  refine sorted.nodup_iff.mpr ?_
  rw [List.map_map]
  apply List.Nodup.map_on
  · intro left inLeft right inRight same
    have mineLeft : left.1.1 = aliasKey := by simpa using (List.mem_filter.mp inLeft).2
    have mineRight : right.1.1 = aliasKey := by simpa using (List.mem_filter.mp inRight).2
    apply List.inj_on_of_nodup_map keys (List.mem_filter.mp inLeft).1 (List.mem_filter.mp inRight).1
    exact Prod.ext (mineLeft.trans mineRight.symm) same
  · exact (List.Nodup.of_map _ keys).filter _

section Placing

/-- One row of the loop in `aliasWeightsFor`. -/
def placeWeight (chainLength : ℕ) (out : List Js.Number) (row : ℕ × ℤ) : List Js.Number :=
  if row.1 < chainLength then out.set row.1 (.finite row.2) else out

variable (chainLength : ℕ)

@[simp] theorem placeWeight_length (out : List Js.Number) (row : ℕ × ℤ) :
    (placeWeight chainLength out row).length = out.length := by
  unfold placeWeight
  split <;> simp

theorem placed_length (rows : List (ℕ × ℤ)) (out : List Js.Number) :
    (rows.foldl (placeWeight chainLength) out).length = out.length := by
  induction rows generalizing out with
  | nil => rfl
  | cons row rest ih => rw [List.foldl_cons, ih, placeWeight_length]

theorem placed_other (rows : List (ℕ × ℤ)) (out : List Js.Number) (position : ℕ)
    (absent : position ∉ rows.map Prod.fst) :
    (rows.foldl (placeWeight chainLength) out)[position]? = out[position]? := by
  induction rows generalizing out with
  | nil => rfl
  | cons row rest ih =>
      rw [List.map_cons, List.mem_cons, not_or] at absent
      rw [List.foldl_cons, ih _ absent.2]
      unfold placeWeight
      split
      · exact List.getElem?_set_ne (Ne.symm absent.1)
      · rfl

theorem placed_row (rows : List (ℕ × ℤ)) (out : List Js.Number) (position : ℕ) (weight : ℤ)
    (distinct : (rows.map Prod.fst).Nodup) (member : (position, weight) ∈ rows)
    (inside : position < chainLength) (long : chainLength = out.length) :
    (rows.foldl (placeWeight chainLength) out)[position]? = some (.finite weight) := by
  induction rows generalizing out with
  | nil => cases member
  | cons row rest ih =>
      obtain ⟨fresh, tail⟩ := List.nodup_cons.mp distinct
      rw [List.foldl_cons]
      rcases List.mem_cons.mp member with rfl | later
      · rw [placed_other _ _ _ _ fresh, placeWeight, if_pos inside]
        exact List.getElem?_set_self (long ▸ inside)
      · exact ih _ tail later (by simpa using long)

end Placing

structure Supplied (aliasKey : String) (chainLength : ℕ) (weights : List Js.Number) : Prop where
  length : weights.length = chainLength
  stored : ∀ position < chainLength, ∀ weight,
    tables.weights.lookup (aliasKey, position) = some weight →
      weights[position]? = some (.finite weight)
  missing : ∀ position < chainLength,
    tables.weights.lookup (aliasKey, position) = none → weights[position]? = some (.finite 1)

variable (cursor : RoundRobinCursor) (aliasKey : String) (chainLength : ℕ)

theorem aliasWeightsFor_none
    (empty : ∀ position, tables.weights.lookup (aliasKey, position) = none) :
    (tables.routingService cursor).aliasWeightsFor aliasKey chainLength = none := by
  have rows : tables.getWeights aliasKey = [] := by
    rw [List.eq_nil_iff_forall_not_mem]
    rintro ⟨position, weight⟩ member
    have stored := (tables.mem_getWeights aliasKey position weight).mp member
    rw [empty position] at stored
    cases stored
  unfold Router.aliasWeightsFor
  simp [routingService, rows]

theorem aliasWeightsFor_supplied (row : ℕ) (weight : ℤ)
    (stored : tables.weights.lookup (aliasKey, row) = some weight) :
    ∃ weights, (tables.routingService cursor).aliasWeightsFor aliasKey chainLength = some weights ∧
      tables.Supplied aliasKey chainLength weights := by
  have filled : (tables.getWeights aliasKey).isEmpty = false := by
    rw [List.isEmpty_eq_false_iff]
    exact List.ne_nil_of_mem ((tables.mem_getWeights aliasKey row weight).mpr stored)
  refine ⟨(tables.getWeights aliasKey).foldl (placeWeight chainLength)
    (List.replicate chainLength (.finite 1)), ?_, ?_⟩
  · unfold Router.aliasWeightsFor
    simp only [routingService, filled]
    rfl
  · constructor
    · rw [placed_length, List.length_replicate]
    · intro position inside weight stored
      exact placed_row _ _ _ _ _ (tables.getWeights_positions aliasKey)
        ((tables.mem_getWeights aliasKey position weight).mpr stored) inside (by simp)
    · intro position inside missing
      rw [placed_other]
      · simp [inside]
      · intro member
        obtain ⟨⟨_, weight⟩, listed, rfl⟩ := List.mem_map.mp member
        have stored := (tables.mem_getWeights aliasKey _ weight).mp listed
        rw [missing] at stored
        cases stored

theorem effectiveWeight_aliasWeightsFor (position : ℕ) (inside : position < chainLength) :
    effectiveWeight ((tables.routingService cursor).aliasWeightsFor aliasKey chainLength)
      position = tables.weightAt aliasKey position := by
  by_cases empty : ∀ position, tables.weights.lookup (aliasKey, position) = none
  · rw [tables.aliasWeightsFor_none cursor aliasKey chainLength empty, weightAt, empty position]
    rfl
  · push Not at empty
    obtain ⟨row, filled⟩ := empty
    obtain ⟨weight, stored⟩ := Option.ne_none_iff_exists'.mp filled
    obtain ⟨weights, supplies, agrees⟩ := tables.aliasWeightsFor_supplied cursor aliasKey
      chainLength row weight stored
    rw [supplies]
    cases found : tables.weights.lookup (aliasKey, position) with
    | none =>
        have here := agrees.missing position inside found
        simp [effectiveWeight, weightAt, here, found]
    | some weight =>
        have here := agrees.stored position inside weight found
        have some := tables.positive _ _ found
        simp [effectiveWeight, weightAt, here, found, some]

end RoutingTables

end LlmGateway.Routing
