import SorobanSas.Sdk.Publications
import SorobanSas.Registry.Ownership
import SorobanSas.Sas.Contract

namespace SorobanSas.Sdk

open Library
open Registry (okCrypto okSchemaUid okRegistered calledBy)
open Registry (step)

/-!
# The schema cache and the events that clear it

The client library caches what the registry answers about a schema.  A registration or a
deprecation makes the cached answer stale, so an application that follows the events of the
contracts hands each parsed event to `invalidate_for_event`.

That works for as long as the parser understands what the contracts publish.  It understands all
events of the attestation service and all of the registry, with one exception: the two ways to
deprecate a schema publish different payloads under one topic, and the parser knows only that of
`deprecate_schema`.
-/

/-- `CacheEntry`, with the encoded schema and the time at which it expires. -/
structure CacheEntry where
  value : Option String
  expiresAt : Nat
  deriving DecidableEq

/-- `CacheState`.  The maps are association lists, and the statistics are left out. -/
structure CacheState where
  entries : List (BytesN 32 × CacheEntry)
  /-- The keys in the order of their last use. -/
  lru : List (BytesN 32)
  /-- The tokens of the lookups in progress. -/
  refreshing : List (BytesN 32 × UInt64)
  deriving DecidableEq

namespace CacheState

variable (cache : CacheState)

/-- `remove_entry` tells whether there was an entry. -/
def removeEntry (uid : BytesN 32) : Bool × CacheState :=
  ((cache.entries.lookup uid).isSome, { cache with
    entries := cache.entries.filter fun entry => entry.1 ≠ uid
    lru := cache.lru.filter fun key => key ≠ uid })

def invalidate (uid : BytesN 32) : Bool × CacheState :=
  { cache with
    refreshing := cache.refreshing.filter fun entry => entry.1 ≠ uid }.removeEntry uid

def invalidateForEvent : SasEvent -> Bool × CacheState
  | .schemaRegistered event => cache.invalidate event.schemaUid
  | .schemaDeprecated event => cache.invalidate event.schemaUid
  | _ => (false, cache)

/-- Nothing in the cache is about the schema. -/
structure Forgets (uid : BytesN 32) : Prop where
  entries : cache.entries.lookup uid = none
  lru : uid ∉ cache.lru
  refreshing : cache.refreshing.lookup uid = none

theorem lookup_filter_ne {α : Type} (uid : BytesN 32) (entries : List (BytesN 32 × α)) :
    (entries.filter fun entry => entry.1 ≠ uid).lookup uid = none := by
  rw [List.lookup_eq_none_iff]
  intro entry member
  have different : entry.1 ≠ uid := by simpa using (List.mem_filter.mp member).2
  simpa using different.symm

theorem invalidate_forgets (uid : BytesN 32) : (cache.invalidate uid).2.Forgets uid where
  entries := lookup_filter_ne uid _
  lru := by simp [invalidate, removeEntry]
  refreshing := lookup_filter_ne uid _

end CacheState

/-- `parse_events` skips what it cannot parse. -/
def parseEvents (publications : List Publication) : List SasEvent :=
  publications.filterMap fun published => (parseEvent published.topics published.data).toOption

/-- The cache of an application that hands every parsed event to it. -/
def CacheState.follow (cache : CacheState) (publications : List Publication) : CacheState :=
  (parseEvents publications).foldl (fun cache event => (cache.invalidateForEvent event).2) cache

/-- Whatever the two contracts publish under a handled topic is parsed to what it says, exactly if it
is not the event of `deprecate`.  A deprecation by `deprecate_schema` clears the cache. -/
theorem published_events_understood (crypto : Crypto) :
    (forall event : Sas.Event, Understood event.publications event.meaning) ∧
    (forall event : Registry.Event, Understood event.publications event.meaning ↔
      forall schemaUid deprecatedBy, event ≠ .deprecated schemaUid deprecatedBy) ∧
    forall (state after : Registry.State) (env : Env) (sender : Address) (uid : UID),
      step crypto state (env, .deprecateSchema sender uid) = .ok after ->
      after.events = state.events ++ [.deprecatedBare uid sender] ∧
      parseEvents (Registry.Event.deprecatedBare uid sender).publications = [.schemaDeprecated ⟨uid.hash, sender⟩] ∧
      forall cache : CacheState, (cache.follow (Registry.Event.deprecatedBare uid sender).publications).Forgets
          uid.hash := by
  refine ⟨Sas.Event.understood, Registry.Event.understood_iff, ?_⟩
  intro state after env sender uid success
  have parsed : parseEvents (Registry.Event.deprecatedBare uid sender).publications =
      [.schemaDeprecated ⟨uid.hash, sender⟩] := by
    simp [parseEvents, Registry.Event.publications, publication, parse_deprecatedBare, Except.toOption]
  refine ⟨?_, parsed, ?_⟩
  · simp only [step, Registry.deprecateSchema, eq_ok] at success
    rcases success with ⟨_, -, record, -, _, -, rfl⟩
    rfl
  · intro cache
    rw [CacheState.follow, parsed]
    exact cache.invalidate_forgets uid.hash

/-- Account 2 deprecates its schema by `deprecate_schema`, and the cache drops it. -/
theorem published_events_understood_bare : ∃ after, step okCrypto
        (run (step okCrypto) Registry.State.deployed okRegistered)
        (calledBy 2 (.deprecateSchema (.accountOfNat 2) okSchemaUid)) = .ok after ∧
      parseEvents (Registry.Event.deprecatedBare okSchemaUid (.accountOfNat 2)).publications =
        [.schemaDeprecated ⟨okSchemaUid.hash, .accountOfNat 2⟩] := by
  rcases exists_of_isOk (show (step okCrypto (run (step okCrypto) Registry.State.deployed okRegistered)
      (calledBy 2 (.deprecateSchema (.accountOfNat 2) okSchemaUid))).isOk = true by decide)
    with ⟨after, success⟩
  exact ⟨after, success, ((published_events_understood okCrypto).2.2 _ after _ _ _ success).2.1⟩

def warmCache : CacheState where
  entries := [(okSchemaUid.hash, ⟨none, 100⟩)]
  lru := [okSchemaUid.hash]
  refreshing := []

/-- Account 2 deprecates its schema by `deprecate`.  The event has the handled topic, the parser
fails on it, and the cache keeps the schema after all that could be parsed. -/
theorem deprecate_event_unparsed : ∃ after, step okCrypto (run (step okCrypto) Registry.State.deployed okRegistered)
        (calledBy 2 (.deprecateKey okSchemaUid (.accountOfNat 2))) = .ok after ∧
      after.events = (run (step okCrypto) Registry.State.deployed okRegistered).events ++
        [.deprecated okSchemaUid (.accountOfNat 2)] ∧
      ∃ published, (Registry.Event.deprecated okSchemaUid (.accountOfNat 2)).publications =
          [published] ∧ published.Handled ∧
        parseEvent published.topics published.data = .error (.malformedPayload "field is not an address") ∧
        ¬ (warmCache.follow [published]).Forgets okSchemaUid.hash := by
  have before : (run (step okCrypto) Registry.State.deployed okRegistered).deprecated okSchemaUid = false := by decide
  rcases exists_of_isOk (show (step okCrypto (run (step okCrypto) Registry.State.deployed okRegistered)
      (calledBy 2 (.deprecateKey okSchemaUid (.accountOfNat 2)))).isOk = true by decide)
    with ⟨after, success⟩
  have unparsed := parse_deprecated okSchemaUid (.accountOfNat 2)
  refine ⟨after, success, ?_, _, rfl, ⟨"SCHDEP", by decide, _, rfl⟩, unparsed, ?_⟩
  · simp only [step, calledBy, Registry.deprecateKey, before, eq_ok, Bool.false_eq_true, if_false] at success
    rcases success with ⟨_, -, _, -, _, -, _, -, rfl⟩
    rfl
  · rintro forgets
    have gone := forgets.lru
    simp [CacheState.follow, parseEvents, publication, unparsed, Except.toOption, warmCache] at gone

end SorobanSas.Sdk
