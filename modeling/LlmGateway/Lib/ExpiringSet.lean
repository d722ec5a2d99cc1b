import LlmGateway.Lib.ScoredSet

/-!
A sorted set under a key with a time to live. A key that expires, or whose set
becomes empty, is gone with its time to live.
-/

namespace ScoredSets

structure ExpiringSet where
  set : ScoredSet
  expiresAt : Option ℤ

namespace ExpiringSet

def missing : ExpiringSet where
  set := .empty
  expiresAt := none

variable (key : ExpiringSet) (time : ℤ)

def live : ExpiringSet :=
  if key.expiresAt.any (· ≤ time) then missing else key

def zadd (score : ℤ) (member : String) : ExpiringSet :=
  { key with set := key.set.zadd score member }

def zremrangebyscore (low high : ℤ) : ExpiringSet :=
  if (key.set.zremrangebyscore low high).zcard = 0 then missing
  else { key with set := key.set.zremrangebyscore low high }

def expire (deadline : ℤ) : ExpiringSet :=
  if key.set.zcard = 0 then key else { key with expiresAt := some deadline }

def SteadyUntil : Prop := ∀ deadline, key.expiresAt = some deadline → time ≤ deadline

theorem missing_steady : missing.SteadyUntil time := by
  intro deadline held
  cases held

theorem live_cases (now : ℤ) :
    key.live now = key ∨
      (key.live now = missing ∧ ∃ deadline, key.expiresAt = some deadline ∧ deadline ≤ now) := by
  unfold live
  split
  next expired =>
    obtain ⟨deadline, held, passed⟩ := (Option.any_eq_true _ _).mp expired
    exact Or.inr ⟨rfl, deadline, held, by simpa using passed⟩
  next => exact Or.inl rfl

theorem zremrangebyscore_set (low high : ℤ) :
    (key.zremrangebyscore low high).set.entries =
      (key.set.zremrangebyscore low high).entries := by
  unfold zremrangebyscore
  split
  next empty => exact (List.length_eq_zero_iff.mp empty).symm
  next => rfl

variable {key time}

theorem live_of_steady (steady : key.SteadyUntil time) (now : ℤ) (early : now < time) :
    key.live now = key := by
  unfold live
  cases held : key.expiresAt with
  | none => rfl
  | some deadline =>
      have later := steady deadline held
      have waits : ¬deadline ≤ now := by omega
      simp [waits]

theorem zremrangebyscore_steady (low high : ℤ)
    (steady : (key.set.zremrangebyscore low high).zcard ≠ 0 → key.SteadyUntil time) :
    (key.zremrangebyscore low high).SteadyUntil time := by
  unfold zremrangebyscore
  split
  next => exact missing_steady time
  next filled => exact steady filled

end ExpiringSet

end ScoredSets
