/-
Persistent effects: permissions and markers that outlive the spell that made
them, each with the condition that ends it.
-/
import DeepScry.Card

namespace DeepScry

structure PersistentEffectId where
  raw : UInt32
deriving DecidableEq, Repr

inductive PersistentEffectKind where
  | mayPlayFromExile (trackedCard : CardId) (alternativeCost : ManaCost)
      (owner : PlayerId)
  | imprint (imprintedCard : CardId)
  | suspend (suspendedCard : CardId) (timeCounters : UInt8)
  | cantBeBlocked (creature : CardId)
  | mayPlayOneWithoutManaCost (trackedCards : List CardId)
      (beneficiary : PlayerId)
  | mayPlayFromGraveyard (owner : PlayerId) (maxPower maxToughness :
      Option Int32) (yourTurnOnly addFinalityCounter : Bool)
  | castTargetedSpellFromGraveyard (trackedCard : CardId) (owner : PlayerId)
      (exileOnResolution : Bool)
  | extraLandPlay (player : PlayerId) (amount : UInt8)
  | grantCastWithFlash (player : PlayerId) (validCard : TargetRestriction)
deriving DecidableEq

inductive CleanupCondition where
  | trackedCardLeavesZone (card : CardId) (zone : Zone)
  | sourceLeavesBattlefield (source : CardId)
  | trackedCardIsCast (card : CardId)
  | endOfTurn
  | never
  | any (conditions : List CleanupCondition)

/-- `should_cleanup_on_zone_change`. -/
def CleanupCondition.onZoneChange (card : CardId) (fromZone : Zone) :
    CleanupCondition → Bool
  | .trackedCardLeavesZone tracked zone => tracked == card && zone == fromZone
  | .sourceLeavesBattlefield source =>
      source == card && fromZone == .battlefield
  | .any conditions => anyOf conditions
  | .trackedCardIsCast _ => false
  | .endOfTurn => false
  | .never => false
where
  anyOf : List CleanupCondition → Bool
    | [] => false
    | condition :: rest =>
        condition.onZoneChange card fromZone || anyOf rest

structure PersistentEffect where
  id : PersistentEffectId
  sourceCard : CardId
  controller : PlayerId
  kind : PersistentEffectKind
  cleanupCondition : CleanupCondition

structure PersistentEffectStore where
  effects : List PersistentEffect := []
  nextId : UInt32 := 0

namespace PersistentEffectStore

/-- Take out the first effect with this id. -/
def remove (store : PersistentEffectStore) (id : PersistentEffectId) :
    PersistentEffectStore :=
  { store with effects := store.effects.eraseP fun effect => effect.id == id }

def removeMany (store : PersistentEffectStore)
    (ids : List PersistentEffectId) : PersistentEffectStore :=
  ids.foldl remove store

def findEffectsToCleanupOnZoneChange (store : PersistentEffectStore)
    (card : CardId) (fromZone : Zone) : List PersistentEffectId :=
  (store.effects.filter fun effect =>
    effect.cleanupCondition.onZoneChange card fromZone).map
      PersistentEffect.id

theorem removeMany_length_le (store : PersistentEffectStore)
    (ids : List PersistentEffectId) :
    (store.removeMany ids).effects.length ≤ store.effects.length := by
  induction ids generalizing store with
  | nil => exact Nat.le_refl _
  | cons id rest ih =>
      have hfirst : (store.remove id).effects.length ≤ store.effects.length :=
        List.length_eraseP_le
      exact (ih (store.remove id)).trans hfirst

/-- Taking out the effects of a kind does nothing exactly when there are
none. -/
theorem removeMany_filter_eq_self_iff (store : PersistentEffectStore)
    (ends : PersistentEffect → Bool) :
    store.removeMany ((store.effects.filter ends).map PersistentEffect.id) =
        store ↔
      (store.effects.filter ends).map PersistentEffect.id = [] := by
  constructor
  · intro heq
    cases hids : (store.effects.filter ends).map PersistentEffect.id with
    | nil => rfl
    | cons id rest =>
        exfalso
        -- The first id belongs to an effect of the store, which goes.
        have hmem : id ∈ (store.effects.filter ends).map
            PersistentEffect.id := by
          rw [hids]
          exact List.mem_cons_self
        rw [List.mem_map] at hmem
        obtain ⟨effect, heffect, rfl⟩ := hmem
        have hremoved : (store.remove effect.id).effects.length + 1 =
            store.effects.length :=
          List.length_eraseP_add_one (List.mem_of_mem_filter heffect)
            (by simp)
        have hrest := (store.remove effect.id).removeMany_length_le rest
        have hlength := congrArg (fun s => s.effects.length) heq
        simp only [hids, removeMany, List.foldl_cons] at hlength
        rw [removeMany] at hrest
        omega
  · intro hids
    rw [hids]
    rfl

/-- The clean-up of a zone change is none exactly when no effect ends. -/
theorem removeMany_cleanup_eq_self_iff (store : PersistentEffectStore)
    (card : CardId) (fromZone : Zone) :
    store.removeMany (store.findEffectsToCleanupOnZoneChange card fromZone) =
        store ↔
      store.findEffectsToCleanupOnZoneChange card fromZone = [] :=
  store.removeMany_filter_eq_self_iff _

end PersistentEffectStore

end DeepScry
