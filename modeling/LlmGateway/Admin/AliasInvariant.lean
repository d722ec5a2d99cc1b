import LlmGateway.Admin.AliasRegistry
import LlmGateway.Lib.Effects

/-!
Chains, weights and catalogues stay aligned under the admin operations. What
each accepted operation writes is said once; the invariant, the laws of the
operations and the one way in which weights can lose their chain are read off
from that.
-/

namespace LlmGateway.Admin

open Effects Positions Providers Runs

namespace RegistryStore

section Accepted

variable (store next : RegistryStore)

theorem refuseIf_ok (condition : Bool) (error : AdminError) :
    refuseIf condition error = .ok () ↔ condition = false := by
  cases condition <;> simp [refuseIf, refuse]

theorem ensureAlias_ok (id : String) (passes : ensureAlias store id = .ok ()) :
    readAliases store.registry id ≠ .absent := by
  simpa using (refuseIf_ok _ _).mp passes

theorem createAlias_ok (body : CreateAliasBody) (accepted : createAlias store body = .ok next) :
    body.chain ≠ [] ∧ (∀ path ∈ body.chain, isChainEntry path = true) ∧
      readAliases store.registry body.id = .absent ∧
      (∀ path ∈ body.chain, entryExists store.registry path = true) ∧
      next = ⟨Admin.createAlias store.registry body.id body.chain,
        weightLayout.deleteGroup body.id store.weights⟩ := by
  unfold createAlias at accepted
  split at accepted
  · cases accepted
  · rename_i valid
    split at accepted
    · cases accepted
    · rename_i fresh
      split at accepted
      · rename_i existing
        cases accepted
        simp only [CreateAliasBody.isValid, Bool.not_eq_true', Bool.not_eq_false,
          Bool.and_eq_true, decide_eq_true_eq, List.all_eq_true] at valid
        refine ⟨?_, valid.2, by simpa using fresh, ?_, rfl⟩
        · intro empty
          simp [empty] at valid
        · simpa using existing
      · cases accepted

theorem removeAlias_ok (id : String) (accepted : removeAlias store id = .ok next) :
    next = ⟨deleteAlias store.registry id, weightLayout.deleteGroup id store.weights⟩ := by
  obtain ⟨_, _, written⟩ := except_bind_ok.mp accepted
  exact (Except.ok.inj written).symm

theorem appendEntry_ok (id entry : String) (accepted : appendEntry store id entry = .ok next) :
    appendRefusal store id entry = .ok () ∧ appendAliasEntry store id entry = .ok next := by
  obtain ⟨_, passes, written⟩ := except_bind_ok.mp accepted
  exact ⟨passes, written⟩

theorem appendRefusal_ok (id entry : String) (passes : appendRefusal store id entry = .ok ()) :
    entryExists store.registry entry = true := by
  obtain ⟨_, _, passes⟩ := except_bind_ok.mp passes
  obtain ⟨_, _, passes⟩ := except_bind_ok.mp passes
  obtain ⟨_, known, _⟩ := except_bind_ok.mp passes
  simpa using (refuseIf_ok _ _).mp known

theorem removeEntry_ok (id position : String) (index : Js.Number)
    (accepted : removeEntry store id position index = .ok next) :
    readAliases store.registry id ≠ .absent ∧
      ∃ n, wholeIndex index = some n ∧
        (∀ length, (readAliases store.registry id).length = some length → n < length ∧ 1 < length) ∧
        next = removeAliasEntry store id n := by
  obtain ⟨_, ensured, rest⟩ := except_bind_ok.mp accepted
  refine ⟨ensureAlias_ok store id ensured, ?_⟩
  dsimp only at rest
  split at rest
  · cases rest
  · rename_i n whole
    split at rest
    · cases rest
    · rename_i inside
      split at rest
      · cases rest
      · rename_i several
        refine ⟨n, whole, ?_, (Except.ok.inj rest).symm⟩
        intro length known
        rw [known] at inside several
        simp only [Option.any_some, decide_eq_true_eq, not_le] at inside several
        exact ⟨inside, several⟩

theorem setWeights_ok (id : String) (weights : List ℤ)
    (accepted : setWeights store id weights = .ok next) :
    readAliases store.registry id ≠ .absent ∧
      (readAliases store.registry id).length = some weights.length ∧
      next = { store with
        weights := weightLayout.deleteGroup id store.weights ++
          weights.zipIdx.map fun item => ⟨id, item.2, item.1⟩ } := by
  obtain ⟨_, _, accepted⟩ := except_bind_ok.mp accepted
  obtain ⟨_, ensured, accepted⟩ := except_bind_ok.mp accepted
  obtain ⟨_, same, written⟩ := except_bind_ok.mp accepted
  have lengths := (refuseIf_ok _ _).mp same
  exact ⟨ensureAlias_ok store id ensured, by simpa using lengths, (Except.ok.inj written).symm⟩

theorem setPriorities_ok (id : String) (priorities : AList fun _ : ℕ => ℕ)
    (accepted : setPriorities store id priorities = .ok next) :
    readAliases store.registry id ≠ .absent ∧
      (∀ position ∈ priorities.keys, ∀ length,
        (readAliases store.registry id).length = some length → position < length) ∧
      next = store.withEntries ((List.range ((readAliases store.registry id).length.getD 0)).foldl
        (replacePriority id ((store.registry.entriesOf id).map AliasEntryRow.priority) priorities)
        store.entries) := by
  obtain ⟨_, ensured, rest⟩ := except_bind_ok.mp accepted
  dsimp only at rest
  split at rest
  · cases rest
  · rename_i inside
    refine ⟨ensureAlias_ok store id ensured, ?_, (Except.ok.inj rest).symm⟩
    intro position listed length known
    have sorted : position ∈ priorities.keys.insertionSort (· ≤ ·) :=
      (List.mem_insertionSort _).mpr listed
    have within := List.find?_eq_none.mp inside position sorted
    simpa [known] using within

theorem createProvider_ok (id : String) (row : ProviderRow)
    (accepted : createProvider store id row = .ok next) :
    store.registry.providers.lookup id = none ∧
      next = { store with
        registry := { store.registry with
          providers := store.registry.providers.insert id row } } := by
  obtain ⟨_, _, accepted⟩ := except_bind_ok.mp accepted
  obtain ⟨_, fresh, written⟩ := except_bind_ok.mp accepted
  refine ⟨?_, (Except.ok.inj written).symm⟩
  have unknown := (refuseIf_ok _ _).mp fresh
  cases found : store.registry.providers.lookup id with
  | none => rfl
  | some row => simp [hasProvider, readProperty, found] at unknown

theorem removeProvider_ok (id : String) (accepted : removeProvider store id = .ok next) :
    store.aliasesUsing (·.providerId = id) = [] ∧ next = deleteProvider store id := by
  obtain ⟨_, _, rest⟩ := except_bind_ok.mp accepted
  split at rest
  · exact ⟨by assumption, (Except.ok.inj rest).symm⟩
  · cases rest

theorem createModel_ok (id : String) (body : CreateModelBody)
    (accepted : createModel store id body = .ok next) :
    (store.registry.providers.lookup id).isSome = true ∧
      next = { store with
        registry := { store.registry with
          models := store.registry.models.insert (id, body.modelKey) body.config } } := by
  obtain ⟨_, _, accepted⟩ := except_bind_ok.mp accepted
  obtain ⟨_, _, accepted⟩ := except_bind_ok.mp accepted
  obtain ⟨_, _, rest⟩ := except_bind_ok.mp accepted
  split at rest
  · cases rest
  · rename_i present
    exact ⟨Option.isSome_iff_ne_none.mpr (by simpa using present), (Except.ok.inj rest).symm⟩

theorem removeModel_ok (id modelKey : String) (accepted : removeModel store id modelKey = .ok next) :
    store.aliasesUsing (fun entry => entry.providerId = id ∧ entry.modelKey = modelKey) = [] ∧
      next = deleteModel store id modelKey := by
  obtain ⟨_, _, accepted⟩ := except_bind_ok.mp accepted
  obtain ⟨_, _, rest⟩ := except_bind_ok.mp accepted
  split at rest
  · exact ⟨by assumption, (Except.ok.inj rest).symm⟩
  · cases rest

end Accepted

def chain (store : RegistryStore) (id : String) : List (String × String) :=
  (entryLayout.column id store.entries).map fun value => (value.1, value.2.1)

def priorities (store : RegistryStore) (id : String) : List ℤ :=
  (entryLayout.column id store.entries).map fun value => value.2.2

/-- The rows of `getWeights`, in order; none means no configuration. -/
def storedWeights (store : RegistryStore) (id : String) : List ℤ :=
  weightLayout.column id store.weights

/-- The weights `toView` shows: a position without a row counts as 1. -/
def effectiveWeights (store : RegistryStore) (id : String) : List ℤ :=
  (List.range (store.countEntries id)).map fun position =>
    (weightLayout.find position (weightLayout.group id store.weights)).elim 1 WeightRow.weight

/-- Chains have dense positions and refer to rows of the catalogues. -/
structure Catalogued (store : RegistryStore) : Prop where
  dense : ∀ id, entryLayout.Dense id store.entries
  referenced : ∀ entry ∈ store.entries,
    (store.registry.providers.lookup entry.providerId).isSome = true ∧
      (store.registry.models.lookup (entry.providerId, entry.modelKey)).isSome = true
  owned : ∀ key, (store.registry.models.lookup key).isSome = true →
    (store.registry.providers.lookup key.1).isSome = true

/-- The weight rows of an alias are absent or cover its positions. -/
def Covered (store : RegistryStore) (id : String) : Prop :=
  weightLayout.group id store.weights = [] ∨
    ((weightLayout.group id store.weights).map WeightRow.position).Perm
      (List.range (store.countEntries id))

section Reading

variable (store : RegistryStore) (id : String)

theorem registered_iff :
    store.registry.AliasRegistered id ↔ entryLayout.group id store.entries ≠ [] := by
  constructor
  · intro registered empty
    obtain ⟨entry, member, named⟩ := List.mem_map.mp registered
    have held : entry ∈ entryLayout.group id store.entries :=
      List.mem_filter.mpr ⟨member, decide_eq_true named⟩
    rw [empty] at held
    cases held
  · intro held
    obtain ⟨entry, _, group⟩ := List.exists_cons_of_ne_nil held
    have member : entry ∈ entryLayout.group id store.entries := by simp [group]
    obtain ⟨inside, named⟩ := List.mem_filter.mp member
    exact List.mem_map.mpr ⟨entry, inside, of_decide_eq_true named⟩

theorem entriesOf_eq :
    store.registry.entriesOf id = entryLayout.ordered (entryLayout.group id store.entries) := by
  have same : (store.registry.aliasEntries.filter (·.aliasName == id)) =
      entryLayout.group id store.entries := by
    apply List.filter_congr
    intro entry _
    exact beq_eq_decide _ _
  unfold ProviderRegistry.entriesOf
  rw [same]
  rfl

theorem readAliases_registered (registered : store.registry.AliasRegistered id) :
    ∃ paths, readAliases store.registry id = .chain paths ∧
      paths = (store.chain id).map fun pair => pair.1 ++ "/" ++ pair.2 := by
  refine ⟨_, by simp [readAliases, ProviderRegistry.listAliases, registered]; rfl, ?_⟩
  rw [entriesOf_eq]
  simp only [chain, Layout.column, List.map_map]
  rfl

theorem length_registered (registered : store.registry.AliasRegistered id) :
    (readAliases store.registry id).length = some (store.countEntries id) := by
  obtain ⟨paths, read, same⟩ := readAliases_registered store id registered
  rw [read, same]
  simp [AliasRead.length, chain, countEntries, Layout.column_length]

end Reading

section Catalogues

variable (store next : RegistryStore)

theorem aliasesUsing_nil (uses : AliasEntryRow → Bool) (unused : store.aliasesUsing uses = []) :
    ∀ entry ∈ store.entries, uses entry = false := by
  intro entry member
  by_contra used
  have listed : entry.aliasName ∈ store.aliasesUsing uses := by
    simp only [aliasesUsing, List.mem_insertionSort, List.mem_dedup]
    exact List.mem_map_of_mem (List.mem_filter.mpr ⟨member, by simpa using used⟩)
  rw [unused] at listed
  cases listed

theorem lookup_eraseAll {Key Value : Type} [DecidableEq Key] (keys : List Key)
    (table : AList fun _ : Key => Value) (key : Key) :
    (eraseAll keys table).lookup key = if key ∈ keys then none else table.lookup key := by
  induction keys generalizing table with
  | nil => rfl
  | cons first rest ih =>
      have tail := ih (table.erase first)
      unfold eraseAll at tail ⊢
      rw [List.foldl_cons, tail]
      by_cases same : key = first
      · subst same
        simp
      · simp [same, AList.lookup_erase_ne]

theorem lookup_insert_grows {Key Value : Type} [DecidableEq Key]
    (table : AList fun _ : Key => Value) (key other : Key) (value : Value)
    (present : (table.lookup other).isSome = true) :
    ((table.insert key value).lookup other).isSome = true := by
  by_cases same : other = key
  · subst same
    simp
  · rwa [AList.lookup_insert_ne same]

theorem catalogued_grown (catalogued : Catalogued store) (entries : next.entries = store.entries)
    (providers : ∀ id, (store.registry.providers.lookup id).isSome = true →
      (next.registry.providers.lookup id).isSome = true)
    (models : ∀ key, (store.registry.models.lookup key).isSome = true →
      (next.registry.models.lookup key).isSome = true)
    (owned : ∀ key, (next.registry.models.lookup key).isSome = true →
      (next.registry.providers.lookup key.1).isSome = true) : Catalogued next where
  dense := by
    rw [entries]
    exact catalogued.dense
  referenced := by
    rw [entries]
    intro entry member
    obtain ⟨provider, model⟩ := catalogued.referenced entry member
    exact ⟨providers _ provider, models _ model⟩
  owned := owned

theorem catalogued_createProvider (id : String) (row : ProviderRow) (catalogued : Catalogued store)
    (accepted : createProvider store id row = .ok next) : Catalogued next := by
  obtain ⟨_, rfl⟩ := createProvider_ok store next id row accepted
  have grows := fun other => lookup_insert_grows store.registry.providers id other row
  exact catalogued_grown store _ catalogued rfl grows (fun _ present => present)
    (fun key present => grows key.1 (catalogued.owned key present))

theorem catalogued_createModel (id : String) (body : CreateModelBody)
    (catalogued : Catalogued store) (accepted : createModel store id body = .ok next) :
    Catalogued next := by
  obtain ⟨provider, rfl⟩ := createModel_ok store next id body accepted
  have grows := fun key =>
    lookup_insert_grows store.registry.models (id, body.modelKey) key body.config
  have owned : ∀ key,
      ((store.registry.models.insert (id, body.modelKey) body.config).lookup key).isSome = true →
      (store.registry.providers.lookup key.1).isSome = true := by
    intro key present
    by_cases same : key = (id, body.modelKey)
    · subst same
      exact provider
    · rw [AList.lookup_insert_ne same] at present
      exact catalogued.owned key present
  exact catalogued_grown store _ catalogued rfl (fun _ present => present) grows owned

/-- A provider is deleted only when no chain uses it, so the cascade reaches no chain. -/
theorem removeProvider_entries (id : String) (accepted : removeProvider store id = .ok next) :
    next.entries = store.entries ∧ ∀ entry ∈ store.entries, entry.providerId ≠ id := by
  obtain ⟨unused, rfl⟩ := removeProvider_ok store next id accepted
  have other : ∀ entry ∈ store.entries, entry.providerId ≠ id := fun entry member =>
    of_decide_eq_false (aliasesUsing_nil store _ unused entry member)
  refine ⟨?_, other⟩
  exact List.filter_eq_self.mpr fun entry member => decide_eq_true (other entry member)

theorem catalogued_removeProvider (id : String) (catalogued : Catalogued store)
    (accepted : removeProvider store id = .ok next) : Catalogued next := by
  obtain ⟨entries, unused⟩ := removeProvider_entries store next id accepted
  obtain ⟨_, rfl⟩ := removeProvider_ok store next id accepted
  have models : ∀ key, (deleteProvider store id).registry.models.lookup key =
      if key.1 = id then none else store.registry.models.lookup key := by
    intro key
    change (eraseAll _ _).lookup key = _
    rw [lookup_eraseAll]
    by_cases owned : key.1 = id
    · by_cases listed : key ∈ store.registry.models.keys
      · simp [listed, owned]
      · have missing := AList.lookup_eq_none.mpr listed
        simp [owned, missing]
    · simp [owned]
  constructor
  · rw [entries]
    exact catalogued.dense
  · rw [entries]
    intro entry member
    have other := unused entry member
    obtain ⟨provider, model⟩ := catalogued.referenced entry member
    constructor
    · change ((store.registry.providers.erase id).lookup entry.providerId).isSome = true
      rwa [AList.lookup_erase_ne other]
    · rw [models]
      simpa [other] using model
  · intro key present
    rw [models] at present
    by_cases gone : key.1 = id
    · simp [gone] at present
    · rw [if_neg gone] at present
      change ((store.registry.providers.erase id).lookup key.1).isSome = true
      rw [AList.lookup_erase_ne gone]
      exact catalogued.owned key present

theorem removeModel_entries (id modelKey : String)
    (accepted : removeModel store id modelKey = .ok next) :
    next.entries = store.entries ∧
      ∀ entry ∈ store.entries, (entry.providerId, entry.modelKey) ≠ (id, modelKey) := by
  obtain ⟨unused, rfl⟩ := removeModel_ok store next id modelKey accepted
  have other : ∀ entry ∈ store.entries,
      ¬(entry.providerId = id ∧ entry.modelKey = modelKey) := fun entry member =>
    of_decide_eq_false (aliasesUsing_nil store _ unused entry member)
  constructor
  · exact List.filter_eq_self.mpr fun entry member => decide_eq_true (other entry member)
  · intro entry member used
    exact other entry member (Prod.mk.inj used)

theorem catalogued_removeModel (id modelKey : String) (catalogued : Catalogued store)
    (accepted : removeModel store id modelKey = .ok next) : Catalogued next := by
  obtain ⟨entries, unused⟩ := removeModel_entries store next id modelKey accepted
  obtain ⟨_, rfl⟩ := removeModel_ok store next id modelKey accepted
  constructor
  · rw [entries]
    exact catalogued.dense
  · rw [entries]
    intro entry member
    obtain ⟨provider, model⟩ := catalogued.referenced entry member
    refine ⟨provider, ?_⟩
    change ((store.registry.models.erase (id, modelKey)).lookup _).isSome = true
    rwa [AList.lookup_erase_ne (unused entry member)]
  · intro key present
    change ((store.registry.models.erase (id, modelKey)).lookup key).isSome = true at present
    by_cases gone : key = (id, modelKey)
    · subst gone
      simp at present
    · rw [AList.lookup_erase_ne gone] at present
      exact catalogued.owned key present

end Catalogues

structure Untouched (store next : RegistryStore) (id : String) : Prop where
  entries : entryLayout.group id next.entries = entryLayout.group id store.entries
  weights : weightLayout.group id next.weights = weightLayout.group id store.weights

section Frames

variable (store next : RegistryStore) (id other : String)

theorem untouched_createAlias (body : CreateAliasBody) (different : other ≠ body.id)
    (accepted : createAlias store body = .ok next) : Untouched store next other := by
  obtain ⟨_, _, _, _, rfl⟩ := createAlias_ok store next body accepted
  constructor
  · calc entryLayout.group other
          (entryLayout.deleteGroup body.id store.entries ++
            body.chain.zipIdx.map (entryRow body.id))
        = entryLayout.group other (entryLayout.deleteGroup body.id store.entries) :=
          entryLayout.group_write_other body.id other _ body.chain (entryRow body.id) different
            fun _ => rfl
      _ = entryLayout.group other store.entries :=
          entryLayout.group_deleteGroup_other body.id other _ different
  · exact weightLayout.group_deleteGroup_other body.id other _ different

theorem untouched_removeAlias (different : other ≠ id)
    (accepted : removeAlias store id = .ok next) : Untouched store next other := by
  cases removeAlias_ok store next id accepted
  constructor
  · exact entryLayout.group_deleteGroup_other id other _ different
  · exact weightLayout.group_deleteGroup_other id other _ different

theorem untouched_removeAliasEntry (index : ℕ) (different : other ≠ id) :
    Untouched store (removeAliasEntry store id index) other where
  entries := entryLayout.group_deleteAt_shift_other id other _ index different
  weights := weightLayout.group_deleteAt_shift_other id other _ index different

theorem insertWeight_other (position : ℕ) (weight : ℤ) (weights : List WeightRow)
    (different : other ≠ id) :
    weightLayout.group other (insertWeight id position weight weights) =
      weightLayout.group other weights := by
  have apart : id ≠ other := fun same => different same.symm
  unfold insertWeight
  rw [weightLayout.group_append]
  exact (if_neg apart).trans (weightLayout.group_deleteAt_other id other _ position different)

theorem appendAliasEntry_ok (entry : String)
    (accepted : appendAliasEntry store id entry = .ok next) :
    next.registry = { store.registry with
        aliasEntries := store.entries ++ [entryRow id (entry, store.countEntries id)] } ∧
      next.weights = if weightLayout.group id store.weights = [] then store.weights
        else insertWeight id (store.countEntries id) 1 store.weights := by
  unfold appendAliasEntry at accepted
  dsimp only at accepted
  split at accepted
  · cases accepted
  · cases accepted
    constructor
    · rfl
    · simp only [List.isEmpty_iff]

theorem untouched_appendAliasEntry (entry : String) (different : other ≠ id)
    (accepted : appendAliasEntry store id entry = .ok next) : Untouched store next other := by
  obtain ⟨registry, weights⟩ := appendAliasEntry_ok store next id entry accepted
  have apart : id ≠ other := fun same => different same.symm
  constructor
  · rw [entries, registry]
    exact (entryLayout.group_append other _ _).trans (if_neg apart)
  · rw [weights]
    split
    · rfl
    · exact insertWeight_other id other _ 1 store.weights different

theorem untouched_setWeights (weights : List ℤ) (different : other ≠ id)
    (accepted : setWeights store id weights = .ok next) : Untouched store next other := by
  obtain ⟨_, _, rfl⟩ := setWeights_ok store next id weights accepted
  constructor
  · rfl
  · rw [weightLayout.group_write_other id other _ weights _ different fun _ => rfl]
    exact weightLayout.group_deleteGroup_other id other _ different

end Frames

section Priorities

variable (id : String) (current : List ℤ) (requested : AList fun _ : ℕ => ℕ)

def amend (position : ℕ) (value : String × String × ℤ) : String × String × ℤ :=
  (value.1, value.2.1, (requested.lookup position).elim value.2.2 fun priority => (priority : ℤ))

theorem updatePriority_column (position : ℕ) (priority : ℤ) (entries : List AliasEntryRow)
    (dense : entryLayout.Dense id entries) :
    entryLayout.column id (updatePriority id position priority entries) =
        (entryLayout.column id entries).modify position
          (fun value => (value.1, value.2.1, priority)) ∧
      entryLayout.Dense id (updatePriority id position priority entries) :=
  entryLayout.column_updateAt id entries position _ _ dense (fun _ => rfl) (fun _ => rfl)
    (fun _ => rfl)

theorem replacePriority_column (position : ℕ) (entries : List AliasEntryRow)
    (dense : entryLayout.Dense id entries)
    (known : ((entryLayout.column id entries)[position]?).map (fun value => value.2.2) =
      current[position]?) :
    (∀ i, (entryLayout.column id (replacePriority id current requested entries position))[i]? =
        ((entryLayout.column id entries)[i]?).map fun value =>
          if i = position then amend requested i value else value) ∧
      entryLayout.Dense id (replacePriority id current requested entries position) := by
  unfold replacePriority
  cases asked : requested.lookup position with
  | none =>
      refine ⟨?_, dense⟩
      intro i
      have same : (fun value => if i = position then amend requested i value else value) =
          fun value => value := by
        funext value
        by_cases here : i = position
        · subst here
          simp [amend, asked]
        · exact if_neg here
      rw [same, Option.map_id']
  | some priority =>
      dsimp only
      split
      · rename_i unchanged
        refine ⟨?_, dense⟩
        intro i
        cases found : (entryLayout.column id entries)[i]? with
        | none => rfl
        | some value =>
            by_cases here : i = position
            · -- The row has the requested priority already.
              subst here
              rw [found, unchanged] at known
              have already := Option.some.inj known
              simp [amend, asked, ← already]
            · simp [here]
      · obtain ⟨column, kept⟩ := updatePriority_column id position priority entries dense
        refine ⟨?_, kept⟩
        intro i
        rw [column, List.getElem?_modify]
        cases found : (entryLayout.column id entries)[i]? with
        | none => rfl
        | some value =>
            by_cases here : position = i
            · subst here
              simp [amend, asked]
            · have apart : ¬i = position := fun same => here same.symm
              simp [here, apart]

theorem replacePriorities_column (entries : List AliasEntryRow) (n : ℕ)
    (dense : entryLayout.Dense id entries)
    (known : (entryLayout.column id entries).map (fun value => value.2.2) = current) :
    (∀ i, (entryLayout.column id
          ((List.range n).foldl (replacePriority id current requested) entries))[i]? =
        ((entryLayout.column id entries)[i]?).map fun value =>
          if i < n then amend requested i value else value) ∧
      entryLayout.Dense id
        ((List.range n).foldl (replacePriority id current requested) entries) := by
  induction n with
  | zero => exact ⟨fun i => by simp, dense⟩
  | succ n ih =>
      obtain ⟨column, kept⟩ := ih
      rw [List.range_succ, List.foldl_append, List.foldl_cons, List.foldl_nil]
      -- No earlier round has touched position `n`.
      have untouched : ((entryLayout.column id ((List.range n).foldl
          (replacePriority id current requested) entries))[n]?).map (fun value => value.2.2) =
          current[n]? := by
        rw [column n, ← known, List.getElem?_map]
        simp
      obtain ⟨round, dense⟩ := replacePriority_column id current requested n _ kept untouched
      refine ⟨?_, dense⟩
      intro i
      rw [round i, column i]
      cases (entryLayout.column id entries)[i]? with
      | none => rfl
      | some value =>
          by_cases here : i = n
          · simp [here]
          · have same : i < n + 1 ↔ i < n := by omega
            simp [here, same]

theorem replacePriority_other (other : String) (different : other ≠ id)
    (entries : List AliasEntryRow) (position : ℕ) :
    entryLayout.group other (replacePriority id current requested entries position) =
      entryLayout.group other entries := by
  unfold replacePriority
  split
  · rfl
  · split
    · rfl
    · exact entryLayout.group_updateAt_other id other entries position _ different fun _ => rfl

theorem replacePriorities_other (other : String) (different : other ≠ id)
    (entries : List AliasEntryRow) (positions : List ℕ) :
    entryLayout.group other (positions.foldl (replacePriority id current requested) entries) =
      entryLayout.group other entries := by
  induction positions generalizing entries with
  | nil => rfl
  | cons position rest ih =>
      rw [List.foldl_cons, ih, replacePriority_other id current requested other different]

theorem mem_replacePriorities (entries : List AliasEntryRow) (positions : List ℕ)
    (entry : AliasEntryRow)
    (member : entry ∈ positions.foldl (replacePriority id current requested) entries) :
    ∃ old ∈ entries, (entry.providerId, entry.modelKey) = (old.providerId, old.modelKey) := by
  induction positions generalizing entries with
  | nil => exact ⟨entry, member, rfl⟩
  | cons position rest ih =>
      obtain ⟨between, inside, same⟩ := ih _ member
      unfold replacePriority at inside
      split at inside
      · exact ⟨between, inside, same⟩
      · split at inside
        · exact ⟨between, inside, same⟩
        · obtain ⟨old, held, rfl⟩ := List.mem_map.mp inside
          refine ⟨old, held, ?_⟩
          rw [same]
          split <;> rfl

end Priorities

def target : Operation → Option String
  | .createAlias body => some body.id
  | .removeAlias id | .appendEntry id _ | .removeEntry id _ _ | .setWeights id _
  | .setPriorities id _ => some id
  | .malformed | .createProvider _ _ | .removeProvider _ | .createModel _ _
  | .removeModel _ _ => none

section Operations

variable (store next : RegistryStore) (id : String)

theorem current_priorities :
    (entryLayout.column id store.entries).map (fun value => value.2.2) =
      (store.registry.entriesOf id).map AliasEntryRow.priority := by
  rw [entriesOf_eq, Layout.column, List.map_map]
  rfl

theorem untouched_perform (operation : Operation) (different : target operation ≠ some id)
    (accepted : perform store operation = .ok next) : Untouched store next id := by
  have apart : ∀ other, target operation = some other → id ≠ other := by
    intro other about same
    exact different (same ▸ about)
  cases operation with
  | malformed => cases accepted
  | createAlias body => exact untouched_createAlias store next id body (apart _ rfl) accepted
  | removeAlias name => exact untouched_removeAlias store next name id (apart _ rfl) accepted
  | appendEntry name entry =>
      obtain ⟨_, written⟩ := appendEntry_ok store next name entry accepted
      exact untouched_appendAliasEntry store next name id entry (apart _ rfl) written
  | removeEntry name position index =>
      obtain ⟨_, n, _, _, rfl⟩ := removeEntry_ok store next name position index accepted
      exact untouched_removeAliasEntry store name id n (apart _ rfl)
  | setWeights name weights =>
      exact untouched_setWeights store next name id weights (apart _ rfl) accepted
  | setPriorities name priorities =>
      obtain ⟨_, _, rfl⟩ := setPriorities_ok store next name priorities accepted
      exact ⟨replacePriorities_other name _ priorities id (apart _ rfl) _ _, rfl⟩
  | createProvider provider row =>
      obtain ⟨_, rfl⟩ := createProvider_ok store next provider row accepted
      exact ⟨rfl, rfl⟩
  | removeProvider provider =>
      obtain ⟨same, _⟩ := removeProvider_entries store next provider accepted
      obtain ⟨_, written⟩ := removeProvider_ok store next provider accepted
      exact ⟨by rw [same], by rw [written]; rfl⟩
  | createModel provider body =>
      obtain ⟨_, rfl⟩ := createModel_ok store next provider body accepted
      exact ⟨rfl, rfl⟩
  | removeModel provider modelKey =>
      obtain ⟨same, _⟩ := removeModel_entries store next provider modelKey accepted
      obtain ⟨_, written⟩ := removeModel_ok store next provider modelKey accepted
      exact ⟨by rw [same], by rw [written]; rfl⟩

theorem dense_perform (operation : Operation) (catalogued : Catalogued store)
    (accepted : perform store operation = .ok next)
    (own : target operation = some id → entryLayout.Dense id next.entries) :
    entryLayout.Dense id next.entries := by
  by_cases about : target operation = some id
  · exact own about
  · have untouched := untouched_perform store next id operation about accepted
    exact (entryLayout.dense_congr id _ _ untouched.entries).mpr (catalogued.dense id)

theorem createAlias_column (body : CreateAliasBody) (accepted : createAlias store body = .ok next) :
    entryLayout.column body.id next.entries =
        body.chain.map (fun path => ((splitEntry path).1, (splitEntry path).2, 0)) ∧
      entryLayout.Dense body.id next.entries ∧ weightLayout.group body.id next.weights = [] := by
  obtain ⟨_, _, _, _, rfl⟩ := createAlias_ok store next body accepted
  obtain ⟨column, positions⟩ := entryLayout.column_write body.id _ body.chain (entryRow body.id)
    (fun path => ((splitEntry path).1, (splitEntry path).2, 0))
    (entryLayout.group_deleteGroup body.id store.entries) (fun _ => rfl) (fun _ => rfl)
    (fun _ => rfl)
  exact ⟨column, entryLayout.dense_of_positions _ _ _ positions,
    weightLayout.group_deleteGroup body.id store.weights⟩

theorem appendAliasEntry_column (entry : String) (catalogued : Catalogued store)
    (accepted : appendAliasEntry store id entry = .ok next) :
    entryLayout.column id next.entries =
        entryLayout.column id store.entries ++ [((splitEntry entry).1, (splitEntry entry).2, 0)] ∧
      entryLayout.Dense id next.entries := by
  obtain ⟨registry, _⟩ := appendAliasEntry_ok store next id entry accepted
  rw [entries, registry]
  exact entryLayout.column_append id store.entries (entryRow id (entry, store.countEntries id))
    (catalogued.dense id) rfl rfl

theorem removeAliasEntry_column (index : ℕ) (catalogued : Catalogued store)
    (inside : index < store.countEntries id) :
    entryLayout.column id (removeAliasEntry store id index).entries =
        (entryLayout.column id store.entries).eraseIdx index ∧
      entryLayout.Dense id (removeAliasEntry store id index).entries :=
  entryLayout.column_remove id store.entries index (catalogued.dense id) inside

theorem setPriorities_column (priorities : AList fun _ : ℕ => ℕ) (catalogued : Catalogued store)
    (accepted : setPriorities store id priorities = .ok next) :
    (∀ i, (entryLayout.column id next.entries)[i]? =
        ((entryLayout.column id store.entries)[i]?).map (amend priorities i)) ∧
      entryLayout.Dense id next.entries := by
  obtain ⟨_, _, rfl⟩ := setPriorities_ok store next id priorities accepted
  obtain ⟨column, dense⟩ := replacePriorities_column id _ priorities store.entries
    ((readAliases store.registry id).length.getD 0) (catalogued.dense id)
    (current_priorities store id)
  refine ⟨?_, dense⟩
  intro i
  rw [withEntries, entries, column i]
  cases found : (entryLayout.column id store.entries)[i]? with
  | none => rfl
  | some value =>
      -- An index of the column is below the length that the controller read.
      obtain ⟨inside, _⟩ := List.getElem?_eq_some_iff.mp found
      rw [entryLayout.column_length] at inside
      have registered : store.registry.AliasRegistered id := by
        apply (registered_iff store id).mpr
        intro empty
        simp [empty] at inside
      have length := length_registered store id registered
      have below : i < (readAliases store.registry id).length.getD 0 := by
        rw [length]
        exact inside
      simp [below]

theorem removeEntry_inside (position : String) (index : Js.Number)
    (accepted : removeEntry store id position index = .ok next) :
    ∃ n, wholeIndex index = some n ∧ next = removeAliasEntry store id n ∧
      (store.registry.AliasRegistered id → n < store.countEntries id) := by
  obtain ⟨_, n, whole, bounded, written⟩ := removeEntry_ok store next id position index accepted
  refine ⟨n, whole, written, ?_⟩
  intro registered
  exact (bounded _ (length_registered store id registered)).1

theorem removeAliasEntry_unregistered (index : ℕ)
    (unregistered : ¬store.registry.AliasRegistered id) :
    entryLayout.group id (removeAliasEntry store id index).entries = [] := by
  have empty := (registered_iff store id).not_left.mp unregistered
  have closed := entryLayout.group_deleteAt_shift id store.entries index
  rw [empty] at closed
  exact closed

end Operations

section Steps

variable (store next : RegistryStore)

/-- Rewritten chains refer to the catalogues when every model has a row: the
schema gives each model its provider. -/
theorem catalogued_entries (entries : List AliasEntryRow) (weights : List WeightRow)
    (catalogued : Catalogued store) (dense : ∀ id, entryLayout.Dense id entries)
    (referenced : ∀ entry ∈ entries,
      (∃ old ∈ store.entries,
        (entry.providerId, entry.modelKey) = (old.providerId, old.modelKey)) ∨
      (store.registry.models.lookup (entry.providerId, entry.modelKey)).isSome = true) :
    Catalogued ⟨{ store.registry with aliasEntries := entries }, weights⟩ where
  dense := dense
  referenced := by
    intro entry member
    rcases referenced entry member with ⟨old, held, same⟩ | model
    · have before := (catalogued.referenced old held).2
      rw [← same] at before
      exact ⟨catalogued.owned _ before, before⟩
    · exact ⟨catalogued.owned _ model, model⟩
  owned := catalogued.owned

theorem entryExists_model (registry : ProviderRegistry) (path : String)
    (found : entryExists registry path = true) :
    (registry.models.lookup (splitEntry path)).isSome = true := by
  unfold entryExists at found
  simp only [Bool.and_eq_true] at found
  exact found.2

theorem catalogued_createAlias (body : CreateAliasBody) (catalogued : Catalogued store)
    (accepted : createAlias store body = .ok next) : Catalogued next := by
  have dense : ∀ id, entryLayout.Dense id next.entries := by
    intro id
    apply dense_perform store next id (.createAlias body) catalogued accepted
    intro about
    cases about
    exact (createAlias_column store next body accepted).2.1
  obtain ⟨_, _, _, existing, rfl⟩ := createAlias_ok store next body accepted
  apply catalogued_entries store _ _ catalogued dense
  intro entry member
  rcases List.mem_append.mp member with kept | written
  · exact .inl ⟨entry, (List.mem_filter.mp kept).1, rfl⟩
  · obtain ⟨item, listed, rfl⟩ := List.mem_map.mp written
    have path := existing item.1 (List.fst_mem_of_mem_zipIdx listed)
    exact .inr (entryExists_model store.registry item.1 path)

theorem catalogued_removeAlias (id : String) (catalogued : Catalogued store)
    (accepted : removeAlias store id = .ok next) : Catalogued next := by
  have dense : ∀ other, entryLayout.Dense other next.entries := by
    intro other
    apply dense_perform store next other (.removeAlias id) catalogued accepted
    intro about
    cases about
    apply entryLayout.dense_of_positions id next.entries 0
    cases removeAlias_ok store next id accepted
    have none := entryLayout.group_deleteGroup id store.entries
    exact congrArg (List.map entryLayout.position) none
  cases removeAlias_ok store next id accepted
  apply catalogued_entries store _ _ catalogued dense
  intro entry member
  exact .inl ⟨entry, (List.mem_filter.mp member).1, rfl⟩

theorem catalogued_appendEntry (id entry : String) (catalogued : Catalogued store)
    (accepted : appendEntry store id entry = .ok next) : Catalogued next := by
  obtain ⟨passes, written⟩ := appendEntry_ok store next id entry accepted
  have dense : ∀ other, entryLayout.Dense other next.entries := by
    intro other
    apply dense_perform store next other (.appendEntry id entry) catalogued accepted
    intro about
    cases about
    exact (appendAliasEntry_column store next id entry catalogued written).2
  obtain ⟨registry, _⟩ := appendAliasEntry_ok store next id entry written
  have shape : next = ⟨next.registry, next.weights⟩ := rfl
  rw [entries, registry] at dense
  rw [shape, registry]
  apply catalogued_entries store _ _ catalogued dense
  intro row member
  rcases List.mem_append.mp member with kept | last
  · exact .inl ⟨row, kept, rfl⟩
  · cases List.mem_singleton.mp last
    exact .inr (entryExists_model store.registry entry (appendRefusal_ok store id entry passes))

theorem catalogued_removeEntry (id position : String) (index : Js.Number)
    (catalogued : Catalogued store) (accepted : removeEntry store id position index = .ok next) :
    Catalogued next := by
  obtain ⟨n, _, rfl, inside⟩ := removeEntry_inside store next id position index accepted
  have dense : ∀ other, entryLayout.Dense other (removeAliasEntry store id n).entries := by
    intro other
    apply dense_perform store _ other (.removeEntry id position index) catalogued accepted
    intro about
    cases about
    by_cases registered : store.registry.AliasRegistered id
    · exact (removeAliasEntry_column store id n catalogued (inside registered)).2
    · apply entryLayout.dense_of_positions id _ 0
      rw [removeAliasEntry_unregistered store id n registered]
      rfl
  apply catalogued_entries store _ _ catalogued dense
  intro entry member
  obtain ⟨old, held, same⟩ := entryLayout.mem_removed id store.entries n entry member
  refine .inl ⟨old, held, ?_⟩
  exact Prod.ext (congrArg (·.1) same) (congrArg (·.2.1) same)

theorem catalogued_setWeights (id : String) (weights : List ℤ) (catalogued : Catalogued store)
    (accepted : setWeights store id weights = .ok next) : Catalogued next := by
  obtain ⟨_, _, rfl⟩ := setWeights_ok store next id weights accepted
  exact ⟨catalogued.dense, catalogued.referenced, catalogued.owned⟩

theorem catalogued_setPriorities (id : String) (priorities : AList fun _ : ℕ => ℕ)
    (catalogued : Catalogued store) (accepted : setPriorities store id priorities = .ok next) :
    Catalogued next := by
  have dense : ∀ other, entryLayout.Dense other next.entries := by
    intro other
    apply dense_perform store next other (.setPriorities id priorities) catalogued accepted
    intro about
    cases about
    exact (setPriorities_column store next id priorities catalogued accepted).2
  obtain ⟨_, _, rfl⟩ := setPriorities_ok store next id priorities accepted
  apply catalogued_entries store _ _ catalogued dense
  intro entry member
  exact .inl (mem_replacePriorities id _ priorities _ _ entry member)

theorem catalogued_perform (operation : Operation) (catalogued : Catalogued store)
    (accepted : perform store operation = .ok next) : Catalogued next := by
  cases operation with
  | malformed => cases accepted
  | createAlias body => exact catalogued_createAlias store next body catalogued accepted
  | removeAlias id => exact catalogued_removeAlias store next id catalogued accepted
  | appendEntry id entry => exact catalogued_appendEntry store next id entry catalogued accepted
  | removeEntry id position index =>
      exact catalogued_removeEntry store next id position index catalogued accepted
  | setWeights id weights => exact catalogued_setWeights store next id weights catalogued accepted
  | setPriorities id priorities =>
      exact catalogued_setPriorities store next id priorities catalogued accepted
  | createProvider id row => exact catalogued_createProvider store next id row catalogued accepted
  | removeProvider id => exact catalogued_removeProvider store next id catalogued accepted
  | createModel id body => exact catalogued_createModel store next id body catalogued accepted
  | removeModel id modelKey =>
      exact catalogued_removeModel store next id modelKey catalogued accepted

theorem step_eq (operation : Operation) :
    (∃ written, perform store operation = .ok written ∧ step store operation = written) ∨
      (∃ error, perform store operation = .error error) ∧ step store operation = store := by
  unfold step
  cases outcome : perform store operation with
  | ok written => exact .inl ⟨written, rfl, rfl⟩
  | error error => exact .inr ⟨⟨error, rfl⟩, rfl⟩

theorem catalogued_step (operation : Operation) (catalogued : Catalogued store) :
    Catalogued (step store operation) := by
  rcases step_eq store operation with ⟨written, accepted, same⟩ | ⟨_, same⟩
  · rw [same]
    exact catalogued_perform store written operation catalogued accepted
  · rwa [same]

end Steps

end RegistryStore

end LlmGateway.Admin
