import LlmGateway.Auth.PrefixScan

/-!
The scopes of a client between `ClientService.create` or `update` and the store,
where they are one text with commas. They come back as they were given when none
of them holds a comma; one that does comes back in pieces, or not at all.
-/

namespace LlmGateway.Auth

open Quota

def defaultScopes : List String := ["chat.read", "chat.write"]

/-- A write of the scopes of one client through `ClientService`. -/
inductive ScopeWrite where
  | create (input : ClientInput) (plaintext : String) (nowSeconds : ℤ)
  | patch (id : ClientId) (fields : ClientFields)

namespace ScopeWrite

def clientId : ScopeWrite → ClientId
  | create input _ _ => input.id
  | patch id _ => id

def listed : ScopeWrite → Option (List String)
  | create input _ _ => input.scopes
  | patch _ fields => fields.scopes

def run (crypto : Crypto) (pepper : String) (table : ClientTable) :
    ScopeWrite → Except ClientError ClientTable
  | create input plaintext nowSeconds =>
      ClientService.insert crypto pepper table input plaintext nowSeconds
  | patch id fields => ClientService.update table id fields

def requested (table : ClientTable) : ScopeWrite → List String
  | create input _ _ => input.scopes.getD defaultScopes
  | patch id fields => fields.scopes.getD (((table.findById id).map Client.scopes).getD [])

end ScopeWrite

/-- `z.array(z.string().min(1)).min(1).optional()`, the scopes of both schemas. -/
def SchemaScopes (listed : Option (List String)) : Prop :=
  ∀ scopes, listed = some scopes → scopes ≠ [] ∧ ∀ scope ∈ scopes, scope ≠ ""

/-- The client loaded from the store has the scopes that were asked for, at least one. -/
def Reloads (before after : ClientTable) (write : ScopeWrite) : Prop :=
  ∃ client, after.findById write.clientId = some client ∧
    client.scopes = write.requested before ∧ client.scopes ≠ []

section Splitting

theorem comma_not_mem_splitOn (text : List Char) :
    ∀ piece ∈ text.splitOn ',', ',' ∉ piece := by
  induction text with
  | nil => simp
  | cons first rest ih =>
      rw [List.splitOn_cons_eq_if_modifyHead]
      split
      next => exact List.forall_mem_cons.mpr ⟨List.not_mem_nil, ih⟩
      next other =>
        cases pieces : rest.splitOn ',' with
        | nil => simp
        | cons piece others =>
            rw [pieces] at ih
            obtain ⟨head, tail⟩ := List.forall_mem_cons.mp ih
            refine List.forall_mem_cons.mpr ⟨?_, tail⟩
            refine List.not_mem_cons_of_ne_of_not_mem ?_ head
            rintro rfl
            exact other (beq_self_eq_true ',')

theorem splitScopes_plain (text scope : String) (member : scope ∈ splitScopes text) :
    ',' ∉ scope.toList ∧ scope ≠ "" := by
  obtain ⟨piece, kept, rfl⟩ := List.mem_map.mp member
  obtain ⟨among, nonempty⟩ := List.mem_filter.mp kept
  rw [String.toList_ofList]
  refine ⟨comma_not_mem_splitOn _ piece among, fun empty => ?_⟩
  have characters := congrArg String.toList empty
  rw [String.toList_ofList] at characters
  exact of_decide_eq_true nonempty characters

theorem splitScopes_joinScopes_iff (scopes : List String) (several : scopes ≠ [])
    (each : ∀ scope ∈ scopes, scope ≠ "") :
    splitScopes (joinScopes scopes) = scopes ↔ ∀ scope ∈ scopes, ',' ∉ scope.toList := by
  constructor
  · intro same scope member
    rw [← same] at member
    exact (splitScopes_plain _ scope member).1
  · intro plain
    have pieces : (joinScopes scopes).toList.splitOn ',' = scopes.map String.toList := by
      unfold joinScopes
      rw [String.toList_intercalate]
      refine List.splitOn_intercalate ',' ?_ (by simpa using several)
      intro piece member
      obtain ⟨scope, among, rfl⟩ := List.mem_map.mp member
      exact plain scope among
    have kept : (scopes.map String.toList).filter (· ≠ []) = scopes.map String.toList := by
      refine List.filter_eq_self.mpr fun piece member => ?_
      obtain ⟨scope, among, rfl⟩ := List.mem_map.mp member
      simpa using each scope among
    unfold splitScopes
    rw [pieces, kept, List.map_map]
    exact (List.map_congr_left fun scope _ => String.ofList_toList).trans (List.map_id scopes)

end Splitting

section Writes

variable (crypto : Crypto) (pepper : String) (table after : ClientTable)

theorem findById_insert (row : ClientRow) (inserted : table.insert row = .ok after) :
    after.findById row.id = some (toClient row) := by
  unfold ClientTable.insert at inserted
  split at inserted
  next => cases inserted
  next fresh =>
    cases inserted
    have absent : table.rows.find? (fun other => other.id = row.id) = none := by
      refine List.find?_eq_none.mpr fun other member same => fresh ?_
      rw [← of_decide_eq_true same]
      exact List.mem_map_of_mem member
    unfold ClientTable.findById ClientTable.rowOf
    rw [List.find?_append, absent]
    simp

theorem findById_updateRow (id : ClientId) (change : ClientRow → ClientRow)
    (keepsId : ∀ row, (change row).id = row.id) :
    (table.updateRow id change keepsId).findById id =
      (table.rowOf id).map fun row => toClient (change row) := by
  unfold ClientTable.findById ClientTable.rowOf ClientTable.updateRow
  dsimp only
  induction table.rows with
  | nil => rfl
  | cons row rest ih =>
      by_cases same : row.id = id
      · simp [same, keepsId]
      · simp only [List.map_cons, List.find?_cons, same, ↓reduceIte, decide_false]
        exact ih

theorem update_ok (id : ClientId) (fields : ClientFields)
    (updated : ClientService.update table id fields = .ok after) :
    ∃ row, table.rowOf id = some row ∧ fields.scopes.getD (splitScopes row.scopes) ≠ [] ∧
      ∃ client, after.findById id = some client ∧
        client.scopes = splitScopes (joinScopes (fields.scopes.getD (splitScopes row.scopes))) := by
  unfold ClientService.update ClientTable.findById at updated
  cases found : table.rowOf id with
  | none =>
      rw [found] at updated
      cases updated
  | some row =>
      rw [found] at updated
      dsimp only [Option.map_some] at updated
      split at updated
      next => cases updated
      next several =>
        split at updated
        next =>
          split at updated
          next =>
            cases updated
            refine ⟨row, rfl, several, ?_⟩
            rw [findById_updateRow, found]
            exact ⟨_, rfl, rfl⟩
          next => cases updated
        next => cases updated

theorem requested_patch (id : ClientId) (fields : ClientFields) (row : ClientRow)
    (found : table.rowOf id = some row) :
    (ScopeWrite.patch id fields).requested table = fields.scopes.getD (splitScopes row.scopes) := by
  change fields.scopes.getD (((table.findById id).map Client.scopes).getD []) = _
  rw [ClientTable.findById, found]
  rfl

theorem reloaded (write : ScopeWrite) (written : write.run crypto pepper table = .ok after) :
    ∃ client, after.findById write.clientId = some client ∧
      client.scopes = splitScopes (joinScopes (write.requested table)) := by
  cases write with
  | create input plaintext nowSeconds =>
      unfold ScopeWrite.run ClientService.insert at written
      dsimp only at written
      split at written
      next => cases written
      next =>
        split at written
        next => exact ⟨_, findById_insert table after _ written, rfl⟩
        next => cases written
  | patch id fields =>
      obtain ⟨row, found, _, client, loaded, scopes⟩ := update_ok table after id fields written
      rw [requested_patch table id fields row found]
      exact ⟨client, loaded, scopes⟩

theorem requested_accepted (write : ScopeWrite) (accepted : SchemaScopes write.listed)
    (written : write.run crypto pepper table = .ok after) :
    write.requested table ≠ [] ∧ (∀ scope ∈ write.requested table, scope ≠ "") ∧
      ((∀ scope ∈ write.requested table, ',' ∉ scope.toList) ↔
        ∀ scope ∈ write.listed.getD [], ',' ∉ scope.toList) := by
  cases given : write.listed with
  | some scopes =>
      obtain ⟨several, each⟩ := accepted scopes given
      have same : write.requested table = scopes := by
        cases write <;> simp_all [ScopeWrite.listed, ScopeWrite.requested]
      rw [same]
      exact ⟨several, each, Iff.rfl⟩
  | none =>
      have kept : write.requested table ≠ [] ∧
          ∀ scope ∈ write.requested table, ',' ∉ scope.toList ∧ scope ≠ "" := by
        cases write with
        | create input plaintext nowSeconds =>
            have same : (ScopeWrite.create input plaintext nowSeconds).requested table =
                defaultScopes := by
              change input.scopes.getD defaultScopes = defaultScopes
              rw [show input.scopes = none from given]
              rfl
            rw [same]
            decide +kernel
        | patch id fields =>
            obtain ⟨row, found, several, _⟩ := update_ok table after id fields written
            rw [requested_patch table id fields row found]
            refine ⟨several, ?_⟩
            rw [show fields.scopes = none from given]
            exact fun scope member => splitScopes_plain row.scopes scope member
      exact ⟨kept.1, fun scope member => (kept.2 scope member).2,
        iff_of_true (fun scope member => (kept.2 scope member).1)
          fun scope member => absurd member List.not_mem_nil⟩

end Writes

def clientThree : ClientId where
  text := "three"
  nonempty := by decide
  noNul := by decide

/-- `POST /admin/clients` of a third client, with these scopes. -/
def scopesCreate (scopes : List String) : ScopeWrite :=
  .create
    { id := clientThree, name := "Acme", scopes := some scopes
      rateLimitRpm := none, rateLimitTpm := none }
    thirdKey 0

def scopesAfter (scopes : List String) : Option (List String) := do
  let after ← ((scopesCreate scopes).run exampleCrypto examplePepper
    (exampleTable secondKey)).toOption
  let client ← after.findById clientThree
  return client.scopes

end LlmGateway.Auth
