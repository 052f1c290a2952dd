/-
The zones of a game: the shared battlefield and stack, and five zones for each
player.  A zone is the list of its card ids, bottom first for a library.
-/
import DeepScry.FirstMatch
import DeepScry.Types

namespace DeepScry

/-- The battlefield and the stack belong to no player. -/
def Zone.isShared : Zone → Bool
  | battlefield | stack => true
  | _ => false

structure PlayerZones where
  library : List CardId := []
  hand : List CardId := []
  graveyard : List CardId := []
  exile : List CardId := []
  command : List CardId := []
deriving DecidableEq

namespace PlayerZones

/-- `get_zone`; the shared zones are not per player. -/
def getZone (zones : PlayerZones) : Zone → Option (List CardId)
  | .library => some zones.library
  | .hand => some zones.hand
  | .graveyard => some zones.graveyard
  | .exile => some zones.exile
  | .command => some zones.command
  | .battlefield => none
  | .stack => none

/-- Write through `get_zone_mut`. -/
def modifyZone (zones : PlayerZones) (f : List CardId → List CardId) :
    Zone → PlayerZones
  | .library => { zones with library := f zones.library }
  | .hand => { zones with hand := f zones.hand }
  | .graveyard => { zones with graveyard := f zones.graveyard }
  | .exile => { zones with exile := f zones.exile }
  | .command => { zones with command := f zones.command }
  | .battlefield => zones
  | .stack => zones

theorem modifyZone_congr {zones : PlayerZones}
    {f g : List CardId → List CardId} {zone : Zone}
    (hfg : ∀ cards, zones.getZone zone = some cards → f cards = g cards) :
    zones.modifyZone f zone = zones.modifyZone g zone := by
  cases zone <;> first | rfl | simp only [modifyZone, hfg _ rfl]

end PlayerZones

/-- `CardZone::add_at`: past the end means at the end. -/
def addAt (cards : List CardId) (id : CardId) (position : Nat) : List CardId :=
  cards.insertIdx (min position cards.length) id

structure Zones where
  battlefield : List CardId := []
  stack : List CardId := []
  playerZones : List (PlayerId × PlayerZones) := []
deriving DecidableEq

open FirstMatch

namespace Zones

/-- `get_player_zones`: the first entry of the player. -/
def getPlayerZones (zones : Zones) (player : PlayerId) : Option PlayerZones :=
  (zones.playerZones.find? fun entry => entry.1 == player).map Prod.snd

/-- Change the first entry of the player, if there is one. -/
def modifyPlayerZones (zones : Zones) (player : PlayerId)
    (f : PlayerZones → PlayerZones) : Zones :=
  { zones with
    playerZones := modifyFirst (fun entry => entry.1 == player)
      (fun entry => (entry.1, f entry.2)) zones.playerZones }

/-- The cards of a zone; a player's zone may be missing. -/
def cardsIn (zones : Zones) (zone : Zone) (owner : PlayerId) :
    Option (List CardId) :=
  match zone with
  | .battlefield => some zones.battlefield
  | .stack => some zones.stack
  | zone => (zones.getPlayerZones owner).bind fun own => own.getZone zone

def modify (zones : Zones) (zone : Zone) (owner : PlayerId)
    (f : List CardId → List CardId) : Zones :=
  match zone with
  | .battlefield => { zones with battlefield := f zones.battlefield }
  | .stack => { zones with stack := f zones.stack }
  | zone => zones.modifyPlayerZones owner fun own => own.modifyZone f zone

/-- `position_of` in a zone of the owner. -/
def positionOf (zones : Zones) (zone : Zone) (owner : PlayerId)
    (id : CardId) : Option Nat :=
  (zones.cardsIn zone owner).bind fun cards => cards.idxOf? id

/-- Whether `CardZone::remove` would find the card. -/
def holds (zones : Zones) (zone : Zone) (owner : PlayerId) (id : CardId) :
    Bool :=
  (zones.cardsIn zone owner).any fun cards => cards.contains id

/-- A card leaves one zone and joins the other at its end. -/
def afterMove (zones : Zones) (id : CardId) (fromZone toZone : Zone)
    (owner : PlayerId) : Zones :=
  (zones.modify fromZone owner fun cards => cards.erase id).modify toZone
    owner fun cards => cards ++ [id]

/-- A card leaves the zone it joined and goes back to the saved position, or
to the end. -/
def putBack (zones : Zones) (id : CardId) (fromZone toZone : Zone)
    (owner : PlayerId) (position : Option UInt32) : Zones :=
  (zones.modify toZone owner fun cards => cards.erase id).modify fromZone
    owner fun cards =>
      match position with
      | some position => addAt cards id position.toNat
      | none => cards ++ [id]

theorem getPlayerZones_modifyPlayerZones (zones : Zones) (player : PlayerId)
    (f : PlayerZones → PlayerZones) :
    (zones.modifyPlayerZones player f).getPlayerZones player =
      (zones.getPlayerZones player).map f := by
  have hfind := find?_modifyFirst
    (p := fun entry : PlayerId × PlayerZones => entry.1 == player)
    (f := fun entry => (entry.1, f entry.2)) (fun _ => rfl) zones.playerZones
  rw [getPlayerZones, getPlayerZones, modifyPlayerZones, hfind]
  cases zones.playerZones.find? fun entry => entry.1 == player <;> rfl

theorem getPlayerZones_modifyPlayerZones_ne (zones : Zones)
    {player other : PlayerId} (hne : player ≠ other)
    (f : PlayerZones → PlayerZones) :
    (zones.modifyPlayerZones player f).getPlayerZones other =
      zones.getPlayerZones other := by
  rw [getPlayerZones, getPlayerZones, modifyPlayerZones,
    find?_modifyFirst_of_disjoint]
  intro entry hentry
  have hother : (entry.1 == other) = false := by
    rw [beq_iff_eq.mp hentry]
    exact beq_eq_false_iff_ne.mpr hne
  exact ⟨hother, hother⟩

theorem modifyPlayerZones_modifyPlayerZones (zones : Zones)
    (player : PlayerId) (f g : PlayerZones → PlayerZones) :
    (zones.modifyPlayerZones player f).modifyPlayerZones player g =
      zones.modifyPlayerZones player (g ∘ f) := by
  simp only [modifyPlayerZones]
  rw [modifyFirst_modifyFirst]
  · rfl
  · exact fun _ => rfl

theorem modifyPlayerZones_congr {zones : Zones} {player : PlayerId}
    {f g : PlayerZones → PlayerZones}
    (hfg : ∀ own, zones.getPlayerZones player = some own → f own = g own) :
    zones.modifyPlayerZones player f = zones.modifyPlayerZones player g := by
  rw [modifyPlayerZones, modifyPlayerZones, modifyFirst_congr]
  intro entry hentry
  rw [hfg entry.2 (by rw [getPlayerZones, hentry]; rfl)]

/-- What a change of one zone does to the same zone. -/
theorem cardsIn_modify (zones : Zones) (zone : Zone) (owner : PlayerId)
    (f : List CardId → List CardId) :
    (zones.modify zone owner f).cardsIn zone owner =
      (zones.cardsIn zone owner).map f := by
  cases zone <;>
    first
    | rfl
    | simp only [modify, cardsIn, getPlayerZones_modifyPlayerZones]
      cases zones.getPlayerZones owner <;> rfl

/-- The other zones of the same owner stay. -/
theorem cardsIn_modify_ne (zones : Zones) {zone other : Zone}
    (hne : zone ≠ other) (owner : PlayerId) (f : List CardId → List CardId) :
    (zones.modify zone owner f).cardsIn other owner =
      zones.cardsIn other owner := by
  cases zone <;> cases other <;>
    first
    | rfl
    | exact absurd rfl hne
    | simp only [modify, cardsIn, getPlayerZones_modifyPlayerZones]
      cases zones.getPlayerZones owner <;> rfl

/-- What a write to one zone does to any zone of any player. -/
theorem cardsIn_modify_eq (zones : Zones) (zone other : Zone)
    (owner player : PlayerId) (f : List CardId → List CardId) :
    (zones.modify zone owner f).cardsIn other player =
      if zone = other ∧ (zone.isShared = true ∨ owner = player) then
        (zones.cardsIn other player).map f
      else zones.cardsIn other player := by
  by_cases hzone : zone = other
  · subst hzone
    by_cases howner : owner = player
    · subst howner
      rw [cardsIn_modify, if_pos ⟨rfl, .inr rfl⟩]
    · cases zone <;>
        first
        | rfl
        | rw [if_neg fun hsame => howner (hsame.2.resolve_left nofun)]
          simp only [modify, cardsIn,
            getPlayerZones_modifyPlayerZones_ne _ howner]
  · rw [if_neg fun hsame => hzone hsame.1]
    by_cases howner : owner = player
    · subst howner
      exact cardsIn_modify_ne zones hzone owner f
    · cases zone <;> cases other <;>
        first
        | rfl
        | exact absurd rfl hzone
        | simp only [modify, cardsIn,
            getPlayerZones_modifyPlayerZones_ne _ howner]

theorem modify_modify (zones : Zones) (zone : Zone) (owner : PlayerId)
    (f g : List CardId → List CardId) :
    (zones.modify zone owner f).modify zone owner g =
      zones.modify zone owner (g ∘ f) := by
  cases zone <;>
    first
    | rfl
    | simp only [modify, modifyPlayerZones_modifyPlayerZones]
      rfl

theorem modify_comm (zones : Zones) {zone other : Zone} (hne : zone ≠ other)
    (owner : PlayerId) (f g : List CardId → List CardId) :
    (zones.modify zone owner f).modify other owner g =
      (zones.modify other owner g).modify zone owner f := by
  cases zone <;> cases other <;>
    first
    | rfl
    | exact absurd rfl hne
    | simp only [modify, modifyPlayerZones_modifyPlayerZones]
      rfl

/-- Only the cards that are in the zone decide what a change does. -/
theorem modify_congr {zones : Zones} {zone : Zone} {owner : PlayerId}
    {f g : List CardId → List CardId}
    (hfg : ∀ cards, zones.cardsIn zone owner = some cards →
      f cards = g cards) :
    zones.modify zone owner f = zones.modify zone owner g := by
  cases zone <;>
    first
    | simp only [modify, hfg _ rfl]
    | simp only [modify]
      apply modifyPlayerZones_congr
      intro own hown
      apply PlayerZones.modifyZone_congr
      intro cards hcards
      apply hfg
      simp only [cardsIn, hown, Option.bind_some, hcards]

theorem modify_id (zones : Zones) (zone : Zone) (owner : PlayerId) :
    zones.modify zone owner id = zones := by
  have hplayer : ∀ player, zones.modifyPlayerZones player id = zones := by
    intro player
    rw [modifyPlayerZones]
    exact congrArg (fun entries => { zones with playerZones := entries })
      (modifyFirst_id _ _)
  cases zone <;> first | rfl | exact hplayer owner

/-- A change is none exactly when the cards of the zone stay. -/
theorem modify_eq_self_iff {zones : Zones} {zone : Zone} {owner : PlayerId}
    {f : List CardId → List CardId} :
    zones.modify zone owner f = zones ↔
      ∀ cards, zones.cardsIn zone owner = some cards → f cards = cards := by
  constructor
  · intro heq cards hcards
    have hmap := zones.cardsIn_modify zone owner f
    rw [heq, hcards] at hmap
    exact (Option.some.inj hmap).symm
  · intro hkeep
    rw [modify_congr hkeep]
    exact zones.modify_id zone owner

end Zones

end DeepScry
