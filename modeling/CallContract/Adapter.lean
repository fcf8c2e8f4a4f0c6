import CallContract.Schema.Annotation
import CallContract.Session
import CallContract.Value.Equality

/-!
# Adapters

To check values by a schema, an adapter is made from it. Adapters are kept in a store with a limited
number of places, the last used first, and an equal schema gets the adapter in store. A schema
that cannot be a key gets a new adapter each time. A schema from which no adapter can be made
leaves the store alone.
-/

namespace CallContract

/-- The number of adapters that are kept. -/
def adapterLimit : Nat := 1024

/-- A store of adapters by the schemas that they were made for, the last used first. -/
abbrev AdapterStore := List (Schema × Adapter)

namespace AdapterStore

/-- The adapter for a schema equal to `s`, and the store with that adapter in front. -/
def take? (s : Schema) : AdapterStore → Option (Adapter × AdapterStore)
  | [] => none
  | (t, a) :: rest =>
    if t.same s then some (a, (t, a) :: rest)
    else match take? s rest with
      | some (b, u :: others) => some (b, u :: (t, a) :: others)
      | _ => none

/-- The store with a new adapter in front; one too many drops out at the end. -/
def put (s : Schema) (a : Adapter) (store : AdapterStore) : AdapterStore :=
  ((s, a) :: store).take adapterLimit

end AdapterStore

namespace Schema

/-- A new adapter for a schema. -/
def newAdapter (s : Schema) : Run Adapter := do
  let rule ← Run.lift s.rule
  let session ← get
  set { session with adaptersMade := session.adaptersMade + 1 }
  return ⟨session.adaptersMade, rule⟩

/-- The adapter for a schema. -/
def adapter (s : Schema) : Run Adapter := do
  if s.isHashable then
    match AdapterStore.take? s (← get).adapters with
    | some (a, store) =>
      modify fun session => { session with adapters := store }
      return a
    | none =>
      let a ← s.newAdapter
      modify fun session => { session with adapters := AdapterStore.put s a session.adapters }
      return a
  else s.newAdapter

end Schema

/-- Drop all adapters in store. -/
def clearAdapters : Run Unit := modify fun session => { session with adapters := [] }

end CallContract
