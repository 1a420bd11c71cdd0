import PairedContacts.Proofs.Session.Effect

/-!
# Coherent caches

A cache is coherent if it has a timestamp for exactly the contacts that it has a vCard for, and if
the metadata of every vCard names the uID that it is filed under and that timestamp.  No step of a
session can break this, whatever packet it is given.
-/

set_option autoImplicit false

namespace PairedContacts

/-- The vCards of a cache, read in a namespace, are those of their contacts at their timestamps. -/
structure Cache.IsCoherent (space : String) (cache : Cache) : Prop where
  sameKeys : cache.cards.keys = KeyedList.keys cache.timestamps
  card : ∀ uid text timestamp, KeyedList.get? cache.cards uid = some text ->
    KeyedList.get? cache.timestamps uid = some timestamp -> VCard.IsCardOf space text uid timestamp

namespace Cache

variable {space : String} {cache : Cache}

theorem isCoherent_empty (space : String) : Cache.empty.IsCoherent space :=
  ⟨rfl, fun _ _ _ found => by cases found⟩

theorem IsCoherent.put (coherent : cache.IsCoherent space) {uid : Uid} {text : String}
    {timestamp : Int} (card : VCard.IsCardOf space text uid timestamp) :
    (cache.put uid text timestamp).IsCoherent space := by
  constructor
  · rw [Cache.put, KeyedList.keys_put, KeyedList.keys_put, coherent.sameKeys]
  · intro other content dated found told
    rw [Cache.put, KeyedList.get?_put] at found told
    by_cases same : other = uid
    · rw [if_pos same] at found told
      cases found
      cases told
      rw [same]
      exact card
    · rw [if_neg same] at found told
      exact coherent.card other content dated found told

theorem IsCoherent.store (coherent : cache.IsCoherent space)
    {accepted : List (Uid × String × Int)}
    (cards : ∀ entry ∈ accepted, VCard.IsCardOf space entry.2.1 entry.1 entry.2.2) :
    (Requester.store cache accepted).IsCoherent space := by
  induction accepted generalizing cache with
  | nil => exact coherent
  | cons entry rest ih =>
      rw [Requester.store, List.foldl_cons]
      exact ih (coherent.put (cards entry (by simp)))
        fun other member => cards other (List.mem_cons_of_mem _ member)

theorem IsCoherent.exists_card (coherent : cache.IsCoherent space) {uid : Uid}
    (cached : uid ∈ cache.cards.keys) :
    ∃ text timestamp, KeyedList.get? cache.cards uid = some text ∧
      KeyedList.get? cache.timestamps uid = some timestamp ∧
      VCard.IsCardOf space text uid timestamp := by
  have dated : uid ∈ KeyedList.keys cache.timestamps := by
    rwa [coherent.sameKeys] at cached
  obtain ⟨text, found⟩ := Option.isSome_iff_exists.mp (KeyedList.isSome_get?_iff.mpr cached)
  obtain ⟨timestamp, told⟩ := Option.isSome_iff_exists.mp (KeyedList.isSome_get?_iff.mpr dated)
  exact ⟨text, timestamp, found, told, coherent.card uid text timestamp found told⟩

end Cache

namespace Requester

/-- A requester whose cache is coherent in the namespace of its session. -/
structure IsCoherent (space : String) (requester : Requester) : Prop where
  inSpace : requester.session.space = space
  cache : requester.cache.IsCoherent space

end Requester

theorem SessionCall.Effect.isCoherent {call : SessionCall} {before after : Requester}
    {outcome : Except Failure Answer} {space : String} (effect : call.Effect before outcome after)
    (coherent : before.IsCoherent space) : after.IsCoherent space := by
  cases effect with
  | outOfOrder early => exact coherent
  | rejected ready => exact coherent
  | asked ready => exact ⟨coherent.inSpace, coherent.cache⟩
  | planned ready read => exact ⟨coherent.inSpace, coherent.cache⟩
  | upToDate ready nothing => exact ⟨coherent.inSpace, coherent.cache⟩
  | fetching ready wanted => exact ⟨coherent.inSpace, coherent.cache⟩
  | received ready judges =>
      refine ⟨coherent.inSpace, coherent.cache.store ?_⟩
      have sound := (Requester.areSound_of_judgeAll judges).cards
      rwa [coherent.inSpace] at sound

end PairedContacts
