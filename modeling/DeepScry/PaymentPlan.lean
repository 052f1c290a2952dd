/-
Payment plans: which sources are activated and which colour each one makes.
This is what a verdict of the solver is about; nothing here is computed by the
program.
-/
import DeepScry.ManaPayment

namespace DeepScry

open Supply

structure Activation where
  source : ManaSource
  color : Color
deriving DecidableEq

/-- A subset of the usable sources with one producible colour for each. -/
structure IsPlan (sources : List ManaSource) (plan : List Activation) :
    Prop where
  nodup : (plan.map fun a => a.source.cardId).Nodup
  mem : ∀ a ∈ plan, a.source ∈ sources
  usable : ∀ a ∈ plan, a.source.usable = true
  makes : ∀ a ∈ plan, a.source.production.kind.makes a.color = true

/-- The mana of one colour that a plan makes, activation costs aside. -/
def produced (plan : List Activation) (color : Color) : Nat :=
  (plan.map fun a =>
    if a.color = color then a.source.production.amount.toNat else 0).sum

/-- What the plan has to cover: the cost and its own activation costs. -/
def planDemand (cost : ManaCost) (plan : List Activation) : Demand Color where
  typed color := cost.demand.typed color +
    (plan.map fun a => a.source.production.activationDemand.typed color).sum
  wild := cost.demand.wild +
    (plan.map fun a => a.source.production.activationDemand.wild).sum

/-- The plan covers the cost after paying its activation costs. -/
def Pays (cost : ManaCost) (plan : List Activation) : Prop :=
  Covers (produced plan) (planDemand cost plan)

/-- The usable sources that the plan does not activate. -/
def idle (sources : List ManaSource) (plan : List Activation) :
    List ManaSource :=
  sources.filter fun source =>
    source.usable && !(plan.map fun a => a.source.cardId).contains source.cardId

theorem produced_append (plan rest : List Activation) :
    produced (plan ++ rest) =
      fun color => produced plan color + produced rest color := by
  funext color
  simp [produced]

theorem sum_produced (plan : List Activation) :
    ∑ color, produced plan color =
      (plan.map fun a => a.source.production.amount.toNat).sum := by
  induction plan with
  | nil => simp [produced]
  | cons a rest ih =>
      have hcons : ∀ color, produced (a :: rest) color =
          (if a.color = color then a.source.production.amount.toNat else 0) +
            produced rest color := by
        intro color
        simp [produced]
      simp only [hcons, Finset.sum_add_distrib, ih, List.map_cons,
        List.sum_cons]
      rw [Finset.sum_ite_eq]
      simp

/-- Activations that all make one colour. -/
theorem produced_same (taps : List ManaSource) (color : Color) :
    produced (taps.map fun s => ⟨s, color⟩) = fun c =>
      if c = color then (taps.map fun s => s.production.amount.toNat).sum
      else 0 := by
  funext c
  by_cases hc : c = color
  · subst hc
    simp [produced, Function.comp_def]
  · simp [produced, Function.comp_def, Ne.symm hc, hc]

theorem planDemand_total (cost : ManaCost) (plan : List Activation) :
    (planDemand cost plan).total = cost.total +
      (plan.map fun a => a.source.production.activationDemand.total).sum := by
  induction plan with
  | nil => simp [planDemand, ManaCost.total, Demand.total]
  | cons a rest ih =>
      simp only [planDemand, Demand.total, Finset.sum_add_distrib,
        List.map_cons, List.sum_cons] at ih ⊢
      omega

/-- The usable sources are the activated ones and the idle ones. -/
theorem usable_perm {sources : List ManaSource} {plan : List Activation}
    (hids : (sources.map ManaSource.cardId).Nodup)
    (hplan : IsPlan sources plan) :
    (sources.filter ManaSource.usable).Perm
      (plan.map Activation.source ++ idle sources plan) := by
  have hsources : sources.Nodup := hids.of_map ManaSource.cardId
  have hactive : (plan.map Activation.source).Nodup := by
    have hnodup := hplan.nodup
    rw [show (plan.map fun a => a.source.cardId) =
      (plan.map Activation.source).map ManaSource.cardId by simp] at hnodup
    exact hnodup.of_map ManaSource.cardId
  rw [List.perm_ext_iff_of_nodup (hsources.filter _)]
  · intro source
    simp only [List.mem_filter, List.mem_append, List.mem_map, idle,
      Bool.and_eq_true, Bool.not_eq_true', List.contains_eq_mem,
      decide_eq_false_iff_not]
    constructor
    · rintro ⟨hmem, husable⟩
      by_cases hid : ∃ a ∈ plan, a.source.cardId = source.cardId
      · obtain ⟨a, ha, heq⟩ := hid
        exact Or.inl ⟨a, ha,
          List.inj_on_of_nodup_map hids (hplan.mem a ha) hmem heq⟩
      · exact Or.inr ⟨hmem, husable, hid⟩
    · rintro (⟨a, ha, rfl⟩ | ⟨hmem, husable, -⟩)
      · exact ⟨hplan.mem a ha, hplan.usable a ha⟩
      · exact ⟨hmem, husable⟩
  · rw [List.nodup_append]
    refine ⟨hactive, hsources.filter _, ?_⟩
    intro source hmem source' hidle heq
    subst heq
    obtain ⟨a, ha, rfl⟩ := List.mem_map.mp hmem
    simp only [idle, List.mem_filter, Bool.and_eq_true, Bool.not_eq_true',
      List.contains_eq_mem, decide_eq_false_iff_not] at hidle
    exact hidle.2.2 (List.mem_map.mpr ⟨a, ha, rfl⟩)

theorem IsPlan.nil (sources : List ManaSource) : IsPlan sources [] := by
  constructor <;> simp

end DeepScry
