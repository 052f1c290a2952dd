/-
The per-player cache of mana sources, kept up to date by the battlefield
events.  The six colour lists and the six untapped totals are indexed by
`Color`, so each handler is written once for all six.
-/
import DeepScry.Card
import DeepScry.EntityStore

namespace DeepScry

open Saturating

/-- `sources` are the lists of simple sources, `complexSources` the list of
creatures, colour choosers, dual and any-colour sources. -/
structure ManaSourceCache where
  playerId : PlayerId
  sources : Color → List CardId := fun _ => []
  complexSources : List CardId := []
  untapped : Color → UInt32 := fun _ => 0
  needsRebuild : Bool := false

/-- The list a mana source is kept on: one colour, or the complex ones. -/
inductive SourceClass where
  | simple (color : Color)
  | complex
deriving DecidableEq

namespace Card

/-- How `on_card_entered` classifies a mana source. -/
def sourceClass (card : Card) : SourceClass :=
  if card.isCreature then .complex
  else if card.chosenColor.isSome then .complex
  else
    match card.manaProduction.kind with
    | .fixed color => .simple color.toColor
    | .colorless => .simple .colorless
    | .choice _ => .complex
    | .anyColor => .complex

/-- What one activation adds to the untapped total. -/
def sourceAmount (card : Card) : UInt32 :=
  (max card.manaProduction.amount 1).toUInt32

end Card

namespace ManaSourceCache

/-- `ManaSourceCache::new`. -/
def new (playerId : PlayerId) : ManaSourceCache where
  playerId := playerId

def markDirty (cache : ManaSourceCache) : ManaSourceCache :=
  { cache with needsRebuild := true }

def isEmpty (cache : ManaSourceCache) : Bool :=
  (Color.all.all fun color => (cache.sources color).isEmpty) &&
    cache.complexSources.isEmpty

/-- The filter in front of every handler. -/
def tracks (cache : ManaSourceCache) (card : Card) : Bool :=
  card.owner == cache.playerId && card.isManaSource

def onCardEntered (cache : ManaSourceCache) (id : CardId) (card : Card) :
    ManaSourceCache :=
  if cache.tracks card then
    match card.sourceClass with
    | .simple color =>
        { cache with
          sources := Function.update cache.sources color
            (cache.sources color ++ [id])
          untapped := if card.tapped then cache.untapped
            else Function.update cache.untapped color
              (cache.untapped color + card.sourceAmount) }
    | .complex =>
        { cache with complexSources := cache.complexSources ++ [id] }
  else cache

/-- Take the card off every list it is on; an untapped card also off the
total. -/
def onCardLeft (cache : ManaSourceCache) (id : CardId) (card : Card) :
    ManaSourceCache :=
  if cache.tracks card then
    { cache with
      sources := fun color => (cache.sources color).erase id
      complexSources := cache.complexSources.erase id
      untapped := fun color =>
        if (cache.sources color).contains id && !card.tapped then
          sub32 (cache.untapped color) card.sourceAmount
        else cache.untapped color }
  else cache

/-- The first colour whose list holds the card, in the order of the tests. -/
def colorOf (cache : ManaSourceCache) (id : CardId) : Option Color :=
  Color.all.find? fun color => (cache.sources color).contains id

def onTap (cache : ManaSourceCache) (id : CardId) (card : Card) :
    ManaSourceCache :=
  if cache.tracks card then
    match cache.colorOf id with
    | some color =>
        { cache with
          untapped := Function.update cache.untapped color
            (sub32 (cache.untapped color) card.sourceAmount) }
    | none => cache
  else cache

def onUntap (cache : ManaSourceCache) (id : CardId) (card : Card) :
    ManaSourceCache :=
  if cache.tracks card then
    match cache.colorOf id with
    | some color =>
        { cache with
          untapped := Function.update cache.untapped color
            (cache.untapped color + card.sourceAmount) }
    | none => cache
  else cache

section PlayerId

variable (cache : ManaSourceCache) (id : CardId) (card : Card)

@[simp]
theorem onCardEntered_playerId :
    (cache.onCardEntered id card).playerId = cache.playerId := by
  rw [onCardEntered]
  split
  · split <;> rfl
  · rfl

@[simp]
theorem onCardLeft_playerId :
    (cache.onCardLeft id card).playerId = cache.playerId := by
  rw [onCardLeft]
  split <;> rfl

@[simp]
theorem onTap_playerId : (cache.onTap id card).playerId = cache.playerId := by
  rw [onTap]
  split
  · split <;> rfl
  · rfl

@[simp]
theorem onUntap_playerId :
    (cache.onUntap id card).playerId = cache.playerId := by
  rw [onUntap]
  split
  · split <;> rfl
  · rfl

end PlayerId

/-- `clear`; the rebuild flag is dropped too. -/
def clear (cache : ManaSourceCache) : ManaSourceCache :=
  new cache.playerId

/-- Enter every battlefield card the store knows into an empty cache. -/
def rebuildFromBattlefield (cache : ManaSourceCache)
    (battlefield : List CardId) (cards : EntityStore Card) :
    ManaSourceCache :=
  battlefield.foldl
    (fun cache id =>
      match cards.tryGet id.raw with
      | some card => cache.onCardEntered id card
      | none => cache)
    (new cache.playerId)

end ManaSourceCache

end DeepScry
