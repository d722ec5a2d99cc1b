import LlmGateway.Admin.AliasInvariant

/-!
The laws of the alias operations over whole runs. Appending to a name that is
no alias gives it a first entry: weight rows written under that name before
then cover positions that the new chain does not have.
-/

namespace LlmGateway.Admin

open Effects Positions Providers Runs

namespace RegistryStore

section Columns

variable (store next : RegistryStore) (id : String)

theorem chain_length : (store.chain id).length = store.countEntries id := by
  rw [chain, List.length_map, Layout.column_length, countEntries]

theorem countEntries_next (column : List (String × String × ℤ))
    (same : entryLayout.column id next.entries = column) :
    next.countEntries id = column.length := by
  rw [← same, Layout.column_length, countEntries]

theorem countEntries_eq_zero (unregistered : ¬store.registry.AliasRegistered id) :
    store.countEntries id = 0 := by
  have empty := (registered_iff store id).not_left.mp unregistered
  rw [countEntries, empty, List.length_nil]

theorem effectiveWeights_range (n : ℕ) (weightAt : ℕ → Option WeightRow)
    (count : store.countEntries id = n)
    (found : ∀ i, i < n → weightLayout.find i (weightLayout.group id store.weights) = weightAt i) :
    store.effectiveWeights id =
      (List.range n).map fun i => (weightAt i).elim 1 WeightRow.weight := by
  unfold effectiveWeights
  rw [count]
  apply List.map_congr_left
  intro i inside
  rw [found i (List.mem_range.mp inside)]

theorem untouched_reads (untouched : Untouched store next id) :
    (next.registry.AliasRegistered id ↔ store.registry.AliasRegistered id) ∧
      (Covered next id ↔ Covered store id) := by
  constructor
  · rw [registered_iff, registered_iff, untouched.entries]
  · unfold Covered countEntries
    rw [untouched.entries, untouched.weights]

end Columns

section Appending

variable (store next : RegistryStore) (id entry : String)

theorem appendAliasEntry_weights (accepted : appendAliasEntry store id entry = .ok next) :
    weightLayout.group id next.weights =
      if weightLayout.group id store.weights = [] then []
      else ((weightLayout.group id store.weights).filter
          fun row => weightLayout.position row ≠ store.countEntries id) ++
        [⟨id, store.countEntries id, 1⟩] := by
  obtain ⟨_, weights⟩ := appendAliasEntry_ok store next id entry accepted
  rw [weights]
  split
  · assumption
  · rw [insertWeight, weightLayout.group_append, ← weightLayout.group_deleteAt]
    exact if_pos rfl

theorem appendAliasEntry_effect (catalogued : Catalogued store)
    (accepted : appendAliasEntry store id entry = .ok next) :
    next.chain id = store.chain id ++ [splitEntry entry] ∧
      next.priorities id = store.priorities id ++ [0] ∧
      next.effectiveWeights id = store.effectiveWeights id ++ [1] ∧
      next.countEntries id = store.countEntries id + 1 := by
  have column := (appendAliasEntry_column store next id entry catalogued accepted).1
  have weights := appendAliasEntry_weights store next id entry accepted
  have count : next.countEntries id = store.countEntries id + 1 := by
    rw [countEntries_next next id _ column, List.length_append, Layout.column_length]
    rfl
  refine ⟨?_, ?_, ?_, count⟩
  · rw [chain, column, List.map_append]
    rfl
  · rw [priorities, column, List.map_append]
    rfl
  · -- Positions below the count keep their rows, the new one counts as 1.
    have found : ∀ i, i < store.countEntries id + 1 →
        weightLayout.find i (weightLayout.group id next.weights) =
          if i = store.countEntries id then
            (if weightLayout.group id store.weights = [] then none
              else some ⟨id, store.countEntries id, 1⟩)
          else weightLayout.find i (weightLayout.group id store.weights) := by
      intro i _
      rw [weights]
      by_cases none : weightLayout.group id store.weights = []
      · simp [none, Layout.find]
      · rw [if_neg none, if_neg none]
        exact weightLayout.find_write _ _ i ⟨id, store.countEntries id, 1⟩ rfl
    rw [effectiveWeights_range next id _ _ count found, List.range_succ, List.map_append]
    congr 1
    · apply List.map_congr_left
      intro i inside
      have below := List.mem_range.mp inside
      rw [if_neg (by omega)]
    · by_cases none : weightLayout.group id store.weights = [] <;> simp [none]

/-- With dense positions no row is at the count, so the insert cannot fail. -/
theorem appendAliasEntry_succeeds (catalogued : Catalogued store) :
    ∃ written, appendAliasEntry store id entry = .ok written := by
  have fresh : ((entryLayout.group id store.entries).any
      fun row => row.position = store.countEntries id) = false := by
    apply List.any_eq_false.mpr
    intro row member here
    have held : row.position ∈ (entryLayout.group id store.entries).map entryLayout.position :=
      List.mem_map_of_mem (f := entryLayout.position) member
    have below := List.mem_range.mp ((catalogued.dense id).subset held)
    rw [of_decide_eq_true here, countEntries] at below
    omega
  unfold appendAliasEntry
  dsimp only
  rw [fresh]
  exact ⟨_, rfl⟩

theorem covered_append (catalogued : Catalogued store) (covered : Covered store id)
    (accepted : appendAliasEntry store id entry = .ok next) : Covered next id := by
  have weights := appendAliasEntry_weights store next id entry accepted
  have count := (appendAliasEntry_effect store next id entry catalogued accepted).2.2.2
  by_cases none : weightLayout.group id store.weights = []
  · rw [if_pos none] at weights
    exact .inl weights
  · have aligned := covered.resolve_left none
    -- No row is at the count yet.
    have kept : ((weightLayout.group id store.weights).filter
        fun row => weightLayout.position row ≠ store.countEntries id) =
        weightLayout.group id store.weights := by
      apply List.filter_eq_self.mpr
      intro row member
      have below := List.mem_range.mp (aligned.subset (List.mem_map_of_mem member))
      exact decide_eq_true (Nat.ne_of_lt below)
    right
    rw [weights, if_neg none, kept, count, List.map_append, List.range_succ]
    exact aligned.append_right [store.countEntries id]

theorem covered_first (catalogued : Catalogued store)
    (unregistered : ¬store.registry.AliasRegistered id)
    (accepted : appendAliasEntry store id entry = .ok next) :
    Covered next id ↔ ∀ row ∈ weightLayout.group id store.weights, row.position = 0 := by
  have weights := appendAliasEntry_weights store next id entry accepted
  have count := (appendAliasEntry_effect store next id entry catalogued accepted).2.2.2
  rw [countEntries_eq_zero store id unregistered] at weights count
  unfold Covered
  by_cases none : weightLayout.group id store.weights = []
  · simp [weights, none]
  · rw [if_neg none] at weights
    rw [weights, count]
    constructor
    · intro covered row member
      by_contra elsewhere
      -- A row at another position is left beside the new one.
      have left : row ∈ (weightLayout.group id store.weights).filter
          fun row => weightLayout.position row ≠ 0 :=
        List.mem_filter.mpr ⟨member, decide_eq_true elsewhere⟩
      rcases covered with empty | aligned
      · simp at empty
      · have held := aligned.subset (List.mem_map_of_mem (List.mem_append_left _ left))
        rw [List.mem_range] at held
        omega
    · intro first
      have gone : ((weightLayout.group id store.weights).filter
          fun row => weightLayout.position row ≠ 0) = [] := by
        apply List.filter_eq_nil_iff.mpr
        intro row member stays
        exact of_decide_eq_true stays (first row member)
      right
      rw [gone]
      exact List.Perm.refl _

end Appending

section Removing

variable (store : RegistryStore) (id : String) (index : ℕ)

theorem range_eraseIdx (n : ℕ) (inside : index < n) :
    (List.range n).eraseIdx index =
      (List.range (n - 1)).map fun i => if i < index then i else i + 1 := by
  apply List.ext_getElem
  · simp [List.length_eraseIdx, inside]
  · intro i _ _
    simp only [List.getElem_eraseIdx, List.getElem_map, List.getElem_range]
    split <;> rfl

theorem removeAliasEntry_effect (catalogued : Catalogued store)
    (inside : index < store.countEntries id) :
    (removeAliasEntry store id index).chain id = (store.chain id).eraseIdx index ∧
      (removeAliasEntry store id index).priorities id = (store.priorities id).eraseIdx index ∧
      (removeAliasEntry store id index).effectiveWeights id =
        (store.effectiveWeights id).eraseIdx index ∧
      (removeAliasEntry store id index).countEntries id = store.countEntries id - 1 := by
  have column := (removeAliasEntry_column store id index catalogued inside).1
  have count : (removeAliasEntry store id index).countEntries id = store.countEntries id - 1 := by
    rw [countEntries_next _ id _ column, List.length_eraseIdx, Layout.column_length]
    exact if_pos inside
  refine ⟨?_, ?_, ?_, count⟩
  · rw [chain, column, chain, List.eraseIdx_map]
  · rw [priorities, column, priorities, List.eraseIdx_map]
  · have found : ∀ i, i < store.countEntries id - 1 →
        weightLayout.find i
            (weightLayout.group id (removeAliasEntry store id index).weights) =
          (weightLayout.find (if i < index then i else i + 1)
            (weightLayout.group id store.weights)).map (weightLayout.lower index) := by
      intro i _
      have closed := weightLayout.group_deleteAt_shift id store.weights index
      rw [removeAliasEntry, closed]
      exact weightLayout.find_removeAt _ index i
    rw [effectiveWeights_range _ id _ _ count found, effectiveWeights, List.eraseIdx_map,
      range_eraseIdx index _ inside, List.map_map]
    apply List.map_congr_left
    intro i _
    -- Moving a row down keeps its weight.
    rw [Function.comp_apply, Option.elim_map]
    congr 1
    funext row
    exact weightLayout.lower_value index row

theorem removeAliasEntry_weights (catalogued : Catalogued store) (covered : Covered store id)
    (inside : index < store.countEntries id) :
    (removeAliasEntry store id index).storedWeights id = (store.storedWeights id).eraseIdx index ∧
      Covered (removeAliasEntry store id index) id := by
  have count := (removeAliasEntry_effect store id index catalogued inside).2.2.2
  have closed : weightLayout.group id (removeAliasEntry store id index).weights =
      weightLayout.removeAt index (weightLayout.group id store.weights) :=
    weightLayout.group_deleteAt_shift id store.weights index
  unfold storedWeights Covered Layout.column
  rw [closed, count]
  rcases covered with none | aligned
  · rw [none]
    exact ⟨rfl, .inl rfl⟩
  · obtain ⟨sorted, positions⟩ := weightLayout.ordered_removeAt _ index _ aligned inside
    refine ⟨?_, .inr positions⟩
    rw [sorted, List.map_map, List.eraseIdx_map]
    congr 1
    funext row
    exact weightLayout.lower_value index row

end Removing

section Writing

variable (store next : RegistryStore) (id : String)

theorem createAlias_effect (body : CreateAliasBody) (accepted : createAlias store body = .ok next) :
    next.chain body.id = body.chain.map splitEntry ∧
      next.priorities body.id = body.chain.map (fun _ => 0) ∧ next.storedWeights body.id = [] ∧
      Covered next body.id := by
  obtain ⟨column, _, weights⟩ := createAlias_column store next body accepted
  refine ⟨?_, ?_, ?_, .inl weights⟩
  · rw [chain, column, List.map_map]
    rfl
  · rw [priorities, column, List.map_map]
    rfl
  · rw [storedWeights, Layout.column, weights]
    rfl

theorem removeAlias_effect (accepted : removeAlias store id = .ok next) :
    next.chain id = [] ∧ next.storedWeights id = [] ∧ Covered next id := by
  cases removeAlias_ok store next id accepted
  have chains := entryLayout.group_deleteGroup id store.entries
  have weights := weightLayout.group_deleteGroup id store.weights
  refine ⟨?_, ?_, .inl weights⟩
  · unfold chain Layout.column
    exact congrArg (fun rows => ((entryLayout.ordered rows).map entryLayout.value).map
      fun value => (value.1, value.2.1)) chains
  · rw [storedWeights, Layout.column, weights]
    rfl

theorem setWeights_effect (weights : List ℤ) (accepted : setWeights store id weights = .ok next) :
    next.chain id = store.chain id ∧ next.priorities id = store.priorities id ∧
      next.storedWeights id = weights ∧
      (store.registry.AliasRegistered id → Covered next id) := by
  obtain ⟨_, length, rfl⟩ := setWeights_ok store next id weights accepted
  obtain ⟨column, positions⟩ := weightLayout.column_write id
    (weightLayout.deleteGroup id store.weights) weights (fun item => ⟨id, item.2, item.1⟩)
    (fun weight => weight) (weightLayout.group_deleteGroup id store.weights) (fun _ => rfl)
    (fun _ => rfl) (fun _ => rfl)
  refine ⟨rfl, rfl, ?_, ?_⟩
  · rw [storedWeights, column, List.map_id']
  · intro registered
    rw [length_registered store id registered] at length
    right
    have covers : (weightLayout.group id (weightLayout.deleteGroup id store.weights ++
        weights.zipIdx.map fun item => ⟨id, item.2, item.1⟩)).map WeightRow.position =
        List.range (store.countEntries id) := by
      rw [Option.some.inj length]
      exact positions
    exact List.Perm.of_eq covers

theorem setPriorities_effect (requested : AList fun _ : ℕ => ℕ) (catalogued : Catalogued store)
    (accepted : setPriorities store id requested = .ok next) :
    next.chain id = store.chain id ∧
      (∀ i, (next.priorities id)[i]? = ((store.priorities id)[i]?).map fun priority =>
        (requested.lookup i).elim priority fun asked => (asked : ℤ)) ∧
      next.storedWeights id = store.storedWeights id ∧ (Covered next id ↔ Covered store id) ∧
      (store.registry.AliasRegistered id →
        ∀ position ∈ requested.keys, position < (store.chain id).length) := by
  have column := (setPriorities_column store next id requested catalogued accepted).1
  obtain ⟨_, bounded, written⟩ := setPriorities_ok store next id requested accepted
  have weights : next.weights = store.weights := by
    rw [written]
    rfl
  have chains : next.chain id = store.chain id := by
    unfold chain
    apply List.ext_getElem?
    intro i
    rw [List.getElem?_map, column i, List.getElem?_map, Option.map_map]
    rfl
  have count : next.countEntries id = store.countEntries id := by
    rw [← chain_length, ← chain_length, chains]
  refine ⟨chains, ?_, ?_, ?_, ?_⟩
  · intro i
    unfold priorities
    rw [List.getElem?_map, column i, List.getElem?_map, Option.map_map, Option.map_map]
    rfl
  · rw [storedWeights, weights, storedWeights]
  · rw [Covered, weights, count, Covered]
  · intro registered position listed
    rw [chain_length]
    exact bounded position listed _ (length_registered store id registered)

end Writing

def Effect (store next : RegistryStore) : Operation → Prop
  | .createAlias body =>
      next.chain body.id = body.chain.map splitEntry ∧
        next.priorities body.id = body.chain.map (fun _ => 0) ∧ next.storedWeights body.id = []
  | .removeAlias id => next.chain id = [] ∧ next.storedWeights id = []
  | .appendEntry id entry =>
      next.chain id = store.chain id ++ [splitEntry entry] ∧
        next.priorities id = store.priorities id ++ [0] ∧
        next.effectiveWeights id = store.effectiveWeights id ++ [1]
  | .removeEntry id _ index => store.registry.AliasRegistered id →
      ∃ n, wholeIndex index = some n ∧ n < (store.chain id).length ∧
        next.chain id = (store.chain id).eraseIdx n ∧
        next.priorities id = (store.priorities id).eraseIdx n ∧
        next.storedWeights id = (store.storedWeights id).eraseIdx n ∧
        next.effectiveWeights id = (store.effectiveWeights id).eraseIdx n
  | .setWeights id weights =>
      next.chain id = store.chain id ∧ next.priorities id = store.priorities id ∧
        next.storedWeights id = weights
  | .setPriorities id requested =>
      next.chain id = store.chain id ∧
        (∀ i, (next.priorities id)[i]? = ((store.priorities id)[i]?).map fun priority =>
          (requested.lookup i).elim priority fun asked => (asked : ℤ)) ∧
        next.storedWeights id = store.storedWeights id ∧
        (store.registry.AliasRegistered id →
          ∀ position ∈ requested.keys, position < (store.chain id).length)
  | .malformed | .createProvider _ _ | .removeProvider _ | .createModel _ _
  | .removeModel _ _ => True

/-- The laws of one request: its effect on its own alias, none on the others,
and none at all when it is refused. -/
structure Lawful (store : RegistryStore) (operation : Operation) : Prop where
  effect : ∀ next, perform store operation = .ok next →
    step store operation = next ∧ Effect store next operation
  frame : ∀ id, target operation ≠ some id → Untouched store (step store operation) id
  refused : ∀ error, perform store operation = .error error → step store operation = store

/-- Every alias has entries at dense positions that refer to the catalogues,
and weights that are absent or cover them. -/
structure Sound (store : RegistryStore) : Prop where
  catalogued : Catalogued store
  nonempty : ∀ id, store.registry.AliasRegistered id → 1 ≤ store.countEntries id
  covered : ∀ id, store.registry.AliasRegistered id → Covered store id

/-- An accepted append to a name that is no alias finds no weight row of that
name past position 0. -/
def AppendsClean (store : RegistryStore) (operation : Operation) : Prop :=
  ∀ id entry, operation = .appendEntry id entry → appendRefusal store id entry = .ok () →
    ¬store.registry.AliasRegistered id →
    ∀ row ∈ weightLayout.group id store.weights, row.position = 0

section Laws

variable (store next : RegistryStore)

theorem sound_iff (catalogued : Catalogued store) :
    Sound store ↔ ∀ id, store.registry.AliasRegistered id → Covered store id := by
  constructor
  · intro sound
    exact sound.covered
  · intro covered
    refine ⟨catalogued, ?_, covered⟩
    intro id registered
    exact List.length_pos_iff.mpr ((registered_iff store id).mp registered)

theorem covered_target (operation : Operation) (sound : Sound store) (id : String)
    (about : target operation = some id) (accepted : perform store operation = .ok next)
    (registered : next.registry.AliasRegistered id)
    (clean : AppendsClean store operation) : Covered next id := by
  cases operation with
  | malformed | createProvider | removeProvider | createModel | removeModel => cases about
  | createAlias body =>
      cases about
      exact (createAlias_effect store next body accepted).2.2.2
  | removeAlias name =>
      cases about
      exact (removeAlias_effect store next id accepted).2.2
  | appendEntry name entry =>
      cases about
      obtain ⟨passes, written⟩ := appendEntry_ok store next id entry accepted
      by_cases known : store.registry.AliasRegistered id
      · exact covered_append store next id entry sound.catalogued (sound.covered id known) written
      · exact (covered_first store next id entry sound.catalogued known written).mpr
          (clean id entry rfl passes known)
  | removeEntry name position index =>
      cases about
      obtain ⟨n, _, rfl, inside⟩ := removeEntry_inside store next id position index accepted
      by_cases known : store.registry.AliasRegistered id
      · exact (removeAliasEntry_weights store id n sound.catalogued (sound.covered id known)
          (inside known)).2
      · -- A name that is no alias has not become one.
        have empty := removeAliasEntry_unregistered store id n known
        exact absurd empty ((registered_iff _ id).mp registered)
  | setWeights name weights =>
      cases about
      have same := setWeights_ok store next id weights accepted
      have known : store.registry.AliasRegistered id := by
        rw [same.2.2] at registered
        exact registered
      exact (setWeights_effect store next id weights accepted).2.2.2 known
  | setPriorities name requested =>
      cases about
      obtain ⟨chains, _, _, covered, _⟩ :=
        setPriorities_effect store next id requested sound.catalogued accepted
      have known : store.registry.AliasRegistered id := by
        apply (registered_iff store id).mpr
        apply List.length_pos_iff.mp
        have count := List.length_pos_iff.mpr ((registered_iff next id).mp registered)
        have same := congrArg List.length chains
        rw [chain_length, chain_length] at same
        unfold countEntries at same
        rwa [same] at count
      exact covered.mpr (sound.covered id known)

theorem sound_step (operation : Operation) (catalogued : Catalogued store) (sound : Sound store) :
    Sound (step store operation) ↔ AppendsClean store operation := by
  constructor
  · rintro after id entry rfl passes unregistered
    obtain ⟨written, inserted⟩ := appendAliasEntry_succeeds store id entry catalogued
    have accepted : perform store (.appendEntry id entry) = .ok written := by
      change appendEntry store id entry = .ok written
      exact except_bind_ok.mpr ⟨(), passes, inserted⟩
    have same : step store (.appendEntry id entry) = written := by
      rw [step, accepted]
    rw [same] at after
    have count := (appendAliasEntry_effect store written id entry catalogued inserted).2.2.2
    -- The name has an entry now, so its weight rows count.
    have registered : written.registry.AliasRegistered id := by
      apply (registered_iff written id).mpr
      apply List.length_pos_iff.mp
      change 0 < written.countEntries id
      omega
    exact (covered_first store written id entry catalogued unregistered inserted).mp
      (after.covered id registered)
  · intro clean
    apply (sound_iff _ (catalogued_step store operation catalogued)).mpr
    intro id registered
    rcases step_eq store operation with ⟨written, accepted, same⟩ | ⟨_, same⟩
    · rw [same] at registered ⊢
      by_cases about : target operation = some id
      · exact covered_target store written operation sound id about accepted registered clean
      · have untouched := untouched_perform store written id operation about accepted
        obtain ⟨known, covered⟩ := untouched_reads store written id untouched
        exact covered.mpr (sound.covered id (known.mp registered))
    · rw [same] at registered ⊢
      exact sound.covered id registered

theorem effect_perform (operation : Operation) (sound : Sound store)
    (accepted : perform store operation = .ok next) : Effect store next operation := by
  cases operation with
  | malformed | createProvider | removeProvider | createModel | removeModel => trivial
  | createAlias body =>
      obtain ⟨chain, priorities, weights, _⟩ := createAlias_effect store next body accepted
      exact ⟨chain, priorities, weights⟩
  | removeAlias id =>
      obtain ⟨chain, weights, _⟩ := removeAlias_effect store next id accepted
      exact ⟨chain, weights⟩
  | appendEntry id entry =>
      obtain ⟨_, written⟩ := appendEntry_ok store next id entry accepted
      obtain ⟨chain, priorities, weights, _⟩ :=
        appendAliasEntry_effect store next id entry sound.catalogued written
      exact ⟨chain, priorities, weights⟩
  | removeEntry id position index =>
      obtain ⟨n, whole, rfl, inside⟩ := removeEntry_inside store next id position index accepted
      intro registered
      have below := inside registered
      obtain ⟨chain, priorities, effective, _⟩ :=
        removeAliasEntry_effect store id n sound.catalogued below
      have stored := (removeAliasEntry_weights store id n sound.catalogued
        (sound.covered id registered) below).1
      exact ⟨n, whole, (chain_length store id).symm ▸ below, chain, priorities, stored, effective⟩
  | setWeights id weights =>
      obtain ⟨chain, priorities, stored, _⟩ := setWeights_effect store next id weights accepted
      exact ⟨chain, priorities, stored⟩
  | setPriorities id requested =>
      obtain ⟨chain, priorities, stored, _, bounded⟩ :=
        setPriorities_effect store next id requested sound.catalogued accepted
      exact ⟨chain, priorities, stored, bounded⟩

theorem lawful_step (operation : Operation) (sound : Sound store) : Lawful store operation := by
  constructor
  · intro next accepted
    have same : step store operation = next := by
      rw [step, accepted]
    exact ⟨same, effect_perform store next operation sound accepted⟩
  · intro id different
    rcases step_eq store operation with ⟨written, accepted, same⟩ | ⟨_, same⟩
    · rw [same]
      exact untouched_perform store written id operation different accepted
    · rw [same]
      exact ⟨rfl, rfl⟩
  · intro error refused
    rw [step, refused]

end Laws

end RegistryStore

def seedChain : List String :=
  ["nan/qwen", "nan/deepseek1", "nan/deepseek2", "nan/gemma", "nan/mimo"]

def seeded : RegistryStore where
  registry :=
    { providers := (∅ : AList fun _ : String => ProviderRow).insert "nan"
        ⟨"NAN_API_KEY", some "https://api.nan.builders/v1", some 180000⟩
      models := [("qwen", "qwen3.6"), ("deepseek1", "deepseek-v4-flash"),
          ("deepseek2", "deepseek-v4-flash-0731"), ("gemma", "gemma4"),
          ("mimo", "mimo-v2.5")].foldl
        (fun models row => models.insert ("nan", row.1) ⟨row.2, none, true, false⟩) ∅
      aliasEntries := seedChain.zipIdx.map (entryRow "coder")
      requestTimeoutMs := 120000 }
  weights := []

theorem seeded_catalogued : seeded.Catalogued where
  dense := by
    intro id
    by_cases coder : id = "coder"
    · subst coder
      exact List.Perm.refl _
    · apply entryLayout.dense_of_positions id _ 0
      have empty : entryLayout.group id seeded.entries = [] :=
        entryLayout.group_write_other "coder" id [] seedChain (entryRow "coder") coder fun _ => rfl
      rw [empty]
      rfl
  referenced := by decide
  owned := by
    have listed : ∀ key ∈ seeded.registry.models.keys,
        (seeded.registry.providers.lookup key.1).isSome = true := by
      decide
    intro key present
    exact listed key (AList.lookup_isSome.mp present)

theorem seeded_sound : seeded.Sound := by
  apply (RegistryStore.sound_iff seeded seeded_catalogued).mpr
  intro id _
  exact .inl rfl

open RegistryStore in
/-- Along a run the tables stay sound and every request keeps its laws exactly
when every append is clean. -/
theorem registry_sound_iff (operations : List Operation) :
    (Always step Sound seeded operations ∧ Guarded step Lawful seeded operations) ↔
      Guarded step AppendsClean seeded operations := by
  have exact_run := always_iff_guarded step Catalogued Sound AppendsClean catalogued_step
    sound_step seeded operations seeded_sound.catalogued seeded_sound
  constructor
  · intro holds
    exact exact_run.mp holds.1
  · intro clean
    have sound := exact_run.mpr clean
    exact ⟨sound, guarded_of_always step Sound Lawful lawful_step seeded operations sound⟩

def strayWeights : List Operation :=
  [.setWeights "__defineGetter__" [5, 7], .appendEntry "__defineGetter__" "nan/qwen"]

open RegistryStore in
/-- `__defineGetter__` is a function of two parameters: two weights are accepted
for it, and then its first entry. -/
theorem stray_weights :
    (run step seeded strayWeights).countEntries "__defineGetter__" = 1 ∧
      (weightLayout.group "__defineGetter__" (run step seeded strayWeights).weights).map
        WeightRow.position = [1, 0] ∧
      ¬(Always step Sound seeded strayWeights ∧ Guarded step Lawful seeded strayWeights) := by
  have count : (run step seeded strayWeights).countEntries "__defineGetter__" = 1 := by decide
  have positions : (weightLayout.group "__defineGetter__"
      (run step seeded strayWeights).weights).map WeightRow.position = [1, 0] := by decide
  refine ⟨count, positions, ?_⟩
  intro holds
  have last := always_last step Sound seeded strayWeights holds.1
  rcases last.covered "__defineGetter__" (by decide) with none | aligned
  · rw [none] at positions
    cases positions
  · rw [positions, count] at aligned
    exact absurd aligned.length_eq (by decide)

end LlmGateway.Admin
