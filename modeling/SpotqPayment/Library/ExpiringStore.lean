import Mathlib.Logic.Function.Basic

/-! A key-value store whose entries may expire, with a clock of its own. An
entry past its expiry is as good as absent. -/

/-- A stored value and the time from which it no longer counts. -/
structure Expiring (Value : Type) where
  value : Value
  expiresAt : Option Int
  deriving DecidableEq

/-- The entry still counts. -/
def Expiring.Live {Value : Type} (entry : Expiring Value) (now : Int) : Prop :=
  ∀ expiry, entry.expiresAt = some expiry → now < expiry

instance {Value : Type} (entry : Expiring Value) (now : Int) : Decidable (entry.Live now) :=
  match h : entry.expiresAt with
  | none => isTrue fun expiry hExpiry => nomatch h.symm.trans hExpiry
  | some expiry =>
      if hLive : now < expiry then isTrue fun other hOther => by
        rw [h] at hOther
        cases hOther
        exact hLive
      else isFalse fun hAll => hLive (hAll expiry h)

structure ExpiringStore (Key Value : Type) where
  entries : Key → Option (Expiring Value)
  now : Int

namespace ExpiringStore

variable {Key Value : Type} [DecidableEq Key]

def empty : ExpiringStore Key Value where
  entries := fun _ => none
  now := 0

/-- The entry of a key, unless it has expired. -/
def find? (store : ExpiringStore Key Value) (key : Key) : Option (Expiring Value) :=
  (store.entries key).filter fun entry => entry.Live store.now

def get? (store : ExpiringStore Key Value) (key : Key) : Option Value :=
  (store.find? key).map Expiring.value

def put (store : ExpiringStore Key Value) (key : Key) (entry : Expiring Value) : ExpiringStore Key Value :=
  { store with entries := Function.update store.entries key (some entry) }

def delete (store : ExpiringStore Key Value) (key : Key) : ExpiringStore Key Value :=
  { store with entries := Function.update store.entries key none }

/-- Time passes. -/
def elapse (store : ExpiringStore Key Value) (duration : Nat) : ExpiringStore Key Value :=
  { store with now := store.now + duration }

variable {store : ExpiringStore Key Value} {key other : Key} {entry : Expiring Value}

omit [DecidableEq Key] in
theorem find?_eq_some : store.find? key = some entry ↔ store.entries key = some entry ∧ entry.Live store.now := by
  simp [find?, Option.filter_eq_some_iff]

theorem entries_put : (store.put key entry).entries other = if other = key then some entry else store.entries other :=
  Function.update_apply store.entries key (some entry) other

theorem entries_delete : (store.delete key).entries other = if other = key then none else store.entries other :=
  Function.update_apply store.entries key none other

theorem find?_put_self (hLive : entry.Live store.now) : (store.put key entry).find? key = some entry :=
  find?_eq_some.mpr ⟨entries_put.trans (if_pos rfl), hLive⟩

theorem find?_put_other (hOther : other ≠ key) : (store.put key entry).find? other = store.find? other := by
  rw [find?, entries_put, if_neg hOther]
  rfl

theorem find?_delete_self : (store.delete key).find? key = none := by
  rw [find?, entries_delete, if_pos rfl]
  rfl

theorem find?_delete_other (hOther : other ≠ key) : (store.delete key).find? other = store.find? other := by
  rw [find?, entries_delete, if_neg hOther]
  rfl

omit [DecidableEq Key] in
/-- Time brings no entry back. -/
theorem find?_elapse {duration : Nat} (h : (store.elapse duration).find? key = some entry) :
    store.find? key = some entry := by
  obtain ⟨hEntry, hLive⟩ := find?_eq_some.mp h
  refine find?_eq_some.mpr ⟨hEntry, fun expiry hExpiry => ?_⟩
  have hLater : store.now + duration < expiry := hLive expiry hExpiry
  omega

end ExpiringStore
