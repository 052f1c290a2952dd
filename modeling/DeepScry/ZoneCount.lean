/-
The cards of all zones together.  Zones are alike when each zone holds the
same cards in any order; undoing an action from zones that are alike gives
zones that are alike.
-/
import DeepScry.CardFlow
import Mathlib.Data.List.Count
import Mathlib.Data.List.Forall2
import Mathlib.Data.List.Perm.Basic

namespace DeepScry

open FirstMatch

/-- All cards of a player. -/
def PlayerZones.allCards (own : PlayerZones) : List CardId :=
  own.library ++ own.hand ++ own.graveyard ++ own.exile ++ own.command

/-- The battlefield, the stack, then the zones of each player. -/
def Zones.allCards (zones : Zones) : List CardId :=
  zones.battlefield ++ zones.stack ++
    zones.playerZones.flatMap fun entry => entry.2.allCards

/-- The players that have zones. -/
def Zones.owners (zones : Zones) : List PlayerId :=
  zones.playerZones.map Prod.fst

namespace PlayerZones

structure Alike (own other : PlayerZones) : Prop where
  library : own.library.Perm other.library
  hand : own.hand.Perm other.hand
  graveyard : own.graveyard.Perm other.graveyard
  exile : own.exile.Perm other.exile
  command : own.command.Perm other.command

theorem Alike.refl (own : PlayerZones) : own.Alike own :=
  ⟨.refl _, .refl _, .refl _, .refl _, .refl _⟩

theorem Alike.symm {own other : PlayerZones} (halike : own.Alike other) :
    other.Alike own :=
  ⟨halike.library.symm, halike.hand.symm, halike.graveyard.symm,
    halike.exile.symm, halike.command.symm⟩

theorem Alike.trans {own other third : PlayerZones}
    (hfirst : own.Alike other) (hsecond : other.Alike third) :
    own.Alike third :=
  ⟨hfirst.library.trans hsecond.library, hfirst.hand.trans hsecond.hand,
    hfirst.graveyard.trans hsecond.graveyard,
    hfirst.exile.trans hsecond.exile, hfirst.command.trans hsecond.command⟩

theorem Alike.allCards {own other : PlayerZones} (halike : own.Alike other) :
    own.allCards.Perm other.allCards :=
  (((halike.library.append halike.hand).append halike.graveyard).append
    halike.exile).append halike.command

theorem Alike.modifyZone {own other : PlayerZones} (halike : own.Alike other)
    {f g : List CardId → List CardId}
    (hfg : ∀ l l', l.Perm l' → (f l).Perm (g l')) (zone : Zone) :
    (own.modifyZone f zone).Alike (other.modifyZone g zone) := by
  rcases halike with ⟨hlibrary, hhand, hgraveyard, hexile, hcommand⟩
  cases zone <;> constructor <;> first | assumption | exact hfg _ _ ‹_›

theorem Alike.getZone {own other : PlayerZones} (halike : own.Alike other)
    (zone : Zone) : Option.Rel List.Perm (own.getZone zone)
      (other.getZone zone) := by
  rcases halike with ⟨hlibrary, hhand, hgraveyard, hexile, hcommand⟩
  cases zone <;> first | exact .none | exact .some ‹_›

/-- What a change of one zone does to the number of times a card occurs. -/
theorem count_allCards_modifyZone {own : PlayerZones} {zone : Zone}
    {cards : List CardId} (hcards : own.getZone zone = some cards)
    (f : List CardId → List CardId) (id : CardId) :
    (own.modifyZone f zone).allCards.count id + cards.count id =
      own.allCards.count id + (f cards).count id := by
  cases zone <;> cases hcards <;>
    simp only [allCards, modifyZone, List.count_append] <;> omega

end PlayerZones

namespace Zones

/-- Each zone holds the same cards, in any order. -/
structure Alike (zones other : Zones) : Prop where
  battlefield : zones.battlefield.Perm other.battlefield
  stack : zones.stack.Perm other.stack
  playerZones : List.Forall₂
    (fun entry entry' => entry.1 = entry'.1 ∧ entry.2.Alike entry'.2)
    zones.playerZones other.playerZones

theorem Alike.refl (zones : Zones) : zones.Alike zones :=
  ⟨.refl _, .refl _, List.forall₂_same.mpr fun entry _ =>
    ⟨rfl, .refl entry.2⟩⟩

theorem Alike.symm {zones other : Zones} (halike : zones.Alike other) :
    other.Alike zones where
  battlefield := halike.battlefield.symm
  stack := halike.stack.symm
  playerZones := (halike.playerZones.imp fun _ _ hentry =>
    (⟨hentry.1.symm, hentry.2.symm⟩ : _ ∧ _)).flip

theorem Alike.trans {zones other third : Zones} (hfirst : zones.Alike other)
    (hsecond : other.Alike third) : zones.Alike third := by
  obtain ⟨hbattlefield, hstack, hplayers⟩ := hfirst
  refine ⟨hbattlefield.trans hsecond.battlefield, hstack.trans hsecond.stack,
    ?_⟩
  have hplayers' := hsecond.playerZones
  revert hplayers'
  generalize third.playerZones = entries''
  generalize zones.playerZones = entries at hplayers ⊢
  generalize other.playerZones = entries' at hplayers ⊢
  induction hplayers generalizing entries'' with
  | nil =>
      rintro (- | -)
      exact .nil
  | cons hentry _ ih =>
      rintro (- | ⟨hentry', hrest⟩)
      exact .cons ⟨hentry.1.trans hentry'.1, hentry.2.trans hentry'.2⟩
        (ih _ hrest)

theorem Alike.allCards {zones other : Zones} (halike : zones.Alike other) :
    zones.allCards.Perm other.allCards := by
  obtain ⟨hbattlefield, hstack, hplayers⟩ := halike
  apply (hbattlefield.append hstack).append
  generalize zones.playerZones = entries at hplayers ⊢
  generalize other.playerZones = entries' at hplayers ⊢
  induction hplayers with
  | nil => exact .refl _
  | cons hentry _ ih =>
      rw [List.flatMap_cons, List.flatMap_cons]
      exact hentry.2.allCards.append ih

theorem Alike.getPlayerZones {zones other : Zones}
    (halike : zones.Alike other) (player : PlayerId) :
    Option.Rel PlayerZones.Alike (zones.getPlayerZones player)
      (other.getPlayerZones player) := by
  obtain ⟨-, -, hplayers⟩ := halike
  rw [Zones.getPlayerZones, Zones.getPlayerZones]
  generalize zones.playerZones = entries at hplayers ⊢
  generalize other.playerZones = entries' at hplayers ⊢
  induction hplayers with
  | nil => exact .none
  | @cons entry entry' rest rest' hentry _ ih =>
      rw [List.find?_cons, List.find?_cons, ← hentry.1]
      cases entry.1 == player with
      | true => exact .some hentry.2
      | false => exact ih

/-- The players without an entry change nothing. -/
theorem modifyPlayerZones_of_none {zones : Zones} {player : PlayerId}
    (hnone : zones.getPlayerZones player = none)
    (f : PlayerZones → PlayerZones) :
    zones.modifyPlayerZones player f = zones := by
  have hself : modifyFirst (fun entry : PlayerId × PlayerZones =>
      entry.1 == player) (fun entry => (entry.1, f entry.2))
        zones.playerZones = zones.playerZones := by
    apply modifyFirst_eq_self
    intro entry hentry
    rw [Zones.getPlayerZones, hentry] at hnone
    cases hnone
  rw [modifyPlayerZones, hself]

theorem Alike.modifyPlayerZones {zones other : Zones}
    (halike : zones.Alike other) {f g : PlayerZones → PlayerZones}
    (hfg : ∀ own own', own.Alike own' → (f own).Alike (g own'))
    (player : PlayerId) :
    (zones.modifyPlayerZones player f).Alike
      (other.modifyPlayerZones player g) := by
  obtain ⟨hbattlefield, hstack, hplayers⟩ := halike
  refine ⟨hbattlefield, hstack, ?_⟩
  simp only [Zones.modifyPlayerZones]
  generalize zones.playerZones = entries at hplayers ⊢
  generalize other.playerZones = entries' at hplayers ⊢
  induction hplayers with
  | nil => exact .nil
  | @cons entry entry' rest rest' hentry hrest ih =>
      rw [modifyFirst, modifyFirst, ← hentry.1]
      cases entry.1 == player with
      | true => exact .cons ⟨rfl, hfg _ _ hentry.2⟩ hrest
      | false => exact .cons hentry ih

theorem Alike.modify {zones other : Zones} (halike : zones.Alike other)
    {f g : List CardId → List CardId}
    (hfg : ∀ l l', l.Perm l' → (f l).Perm (g l')) (zone : Zone)
    (owner : PlayerId) :
    (zones.modify zone owner f).Alike (other.modify zone owner g) := by
  cases zone <;>
    first
    | exact ⟨hfg _ _ halike.battlefield, halike.stack, halike.playerZones⟩
    | exact ⟨halike.battlefield, hfg _ _ halike.stack, halike.playerZones⟩
    | exact halike.modifyPlayerZones
        (fun _ _ hown => hown.modifyZone hfg _) owner

theorem Alike.cardsIn {zones other : Zones} (halike : zones.Alike other)
    (zone : Zone) (owner : PlayerId) :
    Option.Rel List.Perm (zones.cardsIn zone owner)
      (other.cardsIn zone owner) := by
  cases zone <;>
    first
    | exact .some halike.battlefield
    | exact .some halike.stack
    | simp only [Zones.cardsIn]
      have hown := halike.getPlayerZones owner
      generalize zones.getPlayerZones owner = own at hown ⊢
      generalize other.getPlayerZones owner = own' at hown ⊢
      rcases hown with hown | -
      · rw [Option.bind_some, Option.bind_some]
        exact hown.getZone _
      · exact .none

theorem Alike.holds {zones other : Zones} (halike : zones.Alike other)
    (zone : Zone) (owner : PlayerId) (id : CardId) :
    zones.holds zone owner id = other.holds zone owner id := by
  have hcards := halike.cardsIn zone owner
  rw [Zones.holds, Zones.holds]
  generalize zones.cardsIn zone owner = cards at hcards ⊢
  generalize other.cardsIn zone owner = cards' at hcards ⊢
  rcases hcards with hperm | -
  · rw [Option.any_some, Option.any_some, Bool.eq_iff_iff,
      List.contains_iff_mem, List.contains_iff_mem, hperm.mem_iff]
  · rfl

@[simp]
theorem owners_modifyPlayerZones (zones : Zones) (player : PlayerId)
    (f : PlayerZones → PlayerZones) :
    (zones.modifyPlayerZones player f).owners = zones.owners := by
  simp only [owners, modifyPlayerZones]
  apply map_modifyFirst
  intro entry
  rfl

@[simp]
theorem owners_modify (zones : Zones) (zone : Zone) (owner : PlayerId)
    (f : List CardId → List CardId) :
    (zones.modify zone owner f).owners = zones.owners := by
  cases zone <;> first | rfl | exact zones.owners_modifyPlayerZones owner _

theorem mem_owners_iff {zones : Zones} {player : PlayerId} :
    player ∈ zones.owners ↔ (zones.getPlayerZones player).isSome := by
  simp [owners, getPlayerZones, List.find?_isSome]

/-- A change of a player's zones changes the count of a card by what it changes
in these zones. -/
theorem count_allCards_modifyPlayerZones {zones : Zones} {player : PlayerId}
    {own : PlayerZones} (hown : zones.getPlayerZones player = some own)
    (f : PlayerZones → PlayerZones) (id : CardId) :
    (zones.modifyPlayerZones player f).allCards.count id +
        own.allCards.count id =
      zones.allCards.count id + (f own).allCards.count id := by
  have hentries : ∀ entries : List (PlayerId × PlayerZones),
      (entries.find? fun entry => entry.1 == player).map Prod.snd =
        some own →
      ((modifyFirst (fun entry => entry.1 == player)
          (fun entry => (entry.1, f entry.2)) entries).flatMap
            fun entry => entry.2.allCards).count id + own.allCards.count id =
        (entries.flatMap fun entry => entry.2.allCards).count id +
          (f own).allCards.count id := by
    intro entries
    induction entries with
    | nil => intro hfind; cases hfind
    | cons entry rest ih =>
        intro hfind
        rw [List.find?_cons] at hfind
        rw [modifyFirst]
        cases hplayer : entry.1 == player with
        | true =>
            rw [hplayer] at hfind
            obtain rfl : entry.2 = own := Option.some.inj hfind
            simp only [↓reduceIte, List.flatMap_cons, List.count_append]
            omega
        | false =>
            rw [hplayer] at hfind
            have hrest := ih hfind
            simp only [Bool.false_eq_true, ↓reduceIte, List.flatMap_cons,
              List.count_append]
            omega
  have hplayers := hentries zones.playerZones hown
  simp only [allCards, modifyPlayerZones, List.count_append]
  omega

/-- The same for a change of one zone. -/
theorem count_allCards_modify {zones : Zones} {zone : Zone} {owner : PlayerId}
    {cards : List CardId} (hcards : zones.cardsIn zone owner = some cards)
    (f : List CardId → List CardId) (id : CardId) :
    (zones.modify zone owner f).allCards.count id + cards.count id =
      zones.allCards.count id + (f cards).count id := by
  have hplayer : ∀ own, zones.getPlayerZones owner = some own →
      own.getZone zone = some cards →
      (zones.modifyPlayerZones owner fun own =>
          own.modifyZone f zone).allCards.count id + cards.count id =
        zones.allCards.count id + (f cards).count id := by
    intro own hown hzone
    have hentry := count_allCards_modifyPlayerZones hown
      (fun own => own.modifyZone f zone) id
    have hcount := PlayerZones.count_allCards_modifyZone hzone f id
    omega
  cases zone with
  | battlefield | stack =>
      cases hcards
      simp only [allCards, modify, List.count_append]
      omega
  | library | hand | graveyard | exile | command =>
      obtain ⟨own, hown, hzone⟩ := Option.bind_eq_some_iff.mp hcards
      exact hplayer own hown hzone

end Zones

end DeepScry
