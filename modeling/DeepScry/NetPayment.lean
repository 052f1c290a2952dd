/-
Activation costs in the greedy search.  The bounds check counts them over all
sources, the tapping loops not at all; so they are paid for whenever every
selection that covers the cost also makes what its own activations cost.
-/
import DeepScry.BoundsCheck
import DeepScry.PaymentPhases

namespace DeepScry

open Drawing Supply

/-- What activating the source costs in mana. -/
def ManaSource.upkeep (source : ManaSource) : Nat :=
  source.production.activationDemand.total

namespace GreedyManaResolver

/-- The sources in a tap order. -/
def tappedBy (sources : List ManaSource) (tapOrder : List CardId) :
    List ManaSource :=
  sources.filter fun source => tapOrder.contains source.cardId

/-- The mana of the sources is enough for the cost and for their own
activation. -/
def NetsEnough (cost : ManaCost) (taps : List ManaSource) : Prop :=
  cost.total + load ManaSource.upkeep taps ≤ load ManaSource.worth taps

instance (cost : ManaCost) (taps : List ManaSource) :
    Decidable (NetsEnough cost taps) :=
  inferInstanceAs (Decidable (_ ≤ _))

/-- Whatever selection covers the cost can also afford its activations. -/
def SelfSufficient (cost : ManaCost) (sources : List ManaSource) : Prop :=
  ∀ plan, IsPlan sources plan → Covers (produced plan) cost.demand →
    NetsEnough cost (plan.map Activation.source)

theorem tappedBy_perm {sources : List ManaSource} {plan : List Activation}
    (hids : (sources.map ManaSource.cardId).Nodup)
    (hplan : IsPlan sources plan) :
    (tappedBy sources (plan.map fun a => a.source.cardId)).Perm
      (plan.map Activation.source) := by
  have hactive : (plan.map Activation.source).Nodup := by
    have hnodup := hplan.nodup
    rw [← Function.comp_def ManaSource.cardId, ← List.map_map] at hnodup
    exact hnodup.of_map _
  rw [tappedBy, List.perm_ext_iff_of_nodup
    ((hids.of_map _).filter _) hactive]
  intro source
  rw [List.mem_filter, List.contains_iff_mem, List.mem_map, List.mem_map]
  constructor
  · rintro ⟨hmem, a, ha, hid⟩
    exact ⟨a, ha, List.inj_on_of_nodup_map hids (hplan.mem a ha) hmem hid⟩
  · rintro ⟨a, ha, rfl⟩
    exact ⟨hplan.mem a ha, a, ha, rfl⟩

/-- A source of two mana that asks for one. -/
def filterSource : ManaSource :=
  { cardId := ⟨1⟩
    production :=
      { kind := .colorless
        activationCost := some { generic := 1 }
        amount := 2 } }

end GreedyManaResolver

end DeepScry
