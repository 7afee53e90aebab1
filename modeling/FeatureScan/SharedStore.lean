import FeatureScan.Store

/-!
# The shared store

A store that all callers share. It is made once: by the first caller that sets it up, or with the
usual settings by the first that asks for it. A caller sets it up in three steps, between which
others may act: it looks whether the store is there, makes a store, and puts it in place unless
another one has come in between.

## Main results

* `SharedStore.put_of_some`: a store in place stays.
* `SharedStore.demand_of_some`: a caller that asks gets the store in place.
-/

namespace FeatureScan

/-- The place of the shared store. -/
structure SharedStore where
  /-- The store, once there is one. -/
  store? : Option Store := none
  deriving DecidableEq, Repr

namespace SharedStore

/-- The place before anybody has come. -/
def vacant : SharedStore := {}

/-- Whether the store is there. -/
def isSet (s : SharedStore) : Bool := s.store?.isSome

/-- Puts a store in place unless one is there; tells whether it did. -/
def put (s : SharedStore) (store : Store) : SharedStore × Bool :=
  if s.isSet then (s, false) else (⟨some store⟩, true)

/-- Sets the shared store up; tells whether it was this call that did. -/
def setUp (s : SharedStore) (f : Files) (c : Settings) : Logged (SharedStore × Bool) :=
  if s.isSet then ⟨(s, false), [.sharedAlready]⟩
  else do
    let store ← Store.ofSettings f c
    let r := s.put store
    Logged.note (if r.2 then [.sharedMade c.path] else [])
    return r

/-- The shared store, made with the usual settings if it is not there. -/
def demand (s : SharedStore) (f : Files) (override? : Option String) :
    Logged (SharedStore × Store) :=
  match s.store? with
  | some store => pure (s, store)
  | none => do
    Logged.note [.sharedOnDemand]
    let store ← Store.ofSettings f (.usual override?)
    return (⟨some store⟩, store)

theorem put_of_some {s : SharedStore} {store : Store} (h : s.store? = some store) (other : Store) :
    s.put other = (s, false) := by
  simp [put, isSet, h]

theorem demand_of_some {s : SharedStore} {store : Store} (h : s.store? = some store) (f : Files)
    (override? : Option String) : (s.demand f override?).value = (s, store) := by
  simp [demand, h]

end SharedStore

end FeatureScan
