/-
One choice, three parties: the indices that the client sends are read by the
server and by the opponent, and both get the choice of the client's player.
-/
import DeepScry.ClientControllers

namespace DeepScry

/-- A choice that is offered, with its options; the index is the type of the
answer. -/
inductive OfferedChoice : Type → Type where
  | chooseTargets (spell : CardId) (validTargets : List CardId)
      (maxTargets : Nat) : OfferedChoice (List CardId)
  | chooseAttackers (availableCreatures : List CardId) :
      OfferedChoice (List CardId)
  | chooseBlockers (availableBlockers attackers : List CardId) :
      OfferedChoice (List (CardId × CardId))
  | chooseDamageAssignmentOrder (attacker : CardId) (blockers : List CardId) :
      OfferedChoice (List CardId)
  | chooseCardsToDiscard (hand : List CardId) (count : Nat) :
      OfferedChoice (List CardId)
  | chooseFromLibrary (validCards : List String) : OfferedChoice (Option Nat)
  | choosePermanentsToSacrifice (validPermanents : List CardId) (count : Nat)
      (cardTypeDescription : String) : OfferedChoice (List CardId)

namespace OfferedChoice

variable {α : Type}

/-- What the client sends for an answer of its inner controller. -/
def submit : OfferedChoice α → ChoiceInfo → ChoiceResult α →
    Option ChoiceResponse
  | .chooseTargets _ validTargets _, info, answer =>
      NetworkLocalController.chooseTargets info validTargets answer
  | .chooseAttackers availableCreatures, info, answer =>
      NetworkLocalController.chooseAttackers info availableCreatures answer
  | .chooseBlockers availableBlockers attackers, info, answer =>
      NetworkLocalController.chooseBlockers info availableBlockers attackers
        answer
  | .chooseDamageAssignmentOrder _ blockers, info, answer =>
      NetworkLocalController.chooseDamageAssignmentOrder info blockers answer
  | .chooseCardsToDiscard hand _, info, answer =>
      NetworkLocalController.chooseCardsToDiscard info hand answer
  | .chooseFromLibrary validCards, info, answer =>
      NetworkLocalController.chooseFromLibrary info validCards answer
  | .choosePermanentsToSacrifice validPermanents _ _, info, answer =>
      NetworkLocalController.choosePermanentsToSacrifice info validPermanents
        answer

def serve : OfferedChoice α → NetworkController → Network → Served α
  | .chooseTargets spell validTargets maxTargets, server, network =>
      server.chooseTargets network spell validTargets maxTargets
  | .chooseAttackers availableCreatures, server, network =>
      server.chooseAttackers network availableCreatures
  | .chooseBlockers availableBlockers attackers, server, network =>
      server.chooseBlockers network availableBlockers attackers
  | .chooseDamageAssignmentOrder attacker blockers, server, network =>
      server.chooseDamageAssignmentOrder network attacker blockers
  | .chooseCardsToDiscard hand count, server, network =>
      server.chooseCardsToDiscard network hand count
  | .chooseFromLibrary validCards, server, network =>
      server.chooseFromLibrary network validCards
  | .choosePermanentsToSacrifice validPermanents count description, server,
      network =>
      server.choosePermanentsToSacrifice network validPermanents count
        description

def replay : OfferedChoice α → ChoicePayload → ChoiceResult α
  | .chooseTargets _ validTargets _, payload =>
      RemoteController.chooseTargets payload validTargets
  | .chooseAttackers availableCreatures, payload =>
      RemoteController.chooseAttackers payload availableCreatures
  | .chooseBlockers availableBlockers attackers, payload =>
      RemoteController.chooseBlockers payload availableBlockers attackers
  | .chooseDamageAssignmentOrder _ blockers, payload =>
      RemoteController.chooseDamageAssignmentOrder payload blockers
  | .chooseCardsToDiscard hand _, payload =>
      RemoteController.chooseCardsToDiscard payload hand
  | .chooseFromLibrary _, payload => RemoteController.chooseFromLibrary payload
  | .choosePermanentsToSacrifice validPermanents _ _, payload =>
      RemoteController.choosePermanentsToSacrifice payload validPermanents

/-- The client whose player answers so. -/
def client (offer : OfferedChoice α) (answer : α) : Network := fun request =>
  match offer.submit request.info (.ok answer) with
  | some response => .ok response
  | none => .error "receiving on a closed channel"

/-- The opponent's replay of what the client sent for a request. -/
def replayed (offer : OfferedChoice α) (request : ChoiceRequest)
    (answer : α) : Option (ChoiceResult α) :=
  (offer.submit request.info (.ok answer)).map fun response =>
    offer.replay (request.payload response)

/-- Options without duplicates, and an answer of distinct options. -/
def Legal : {α : Type} → OfferedChoice α → α → Prop
  | _, .chooseTargets _ validTargets _, chosen =>
      validTargets.Nodup ∧ chosen.Nodup ∧ ∀ card ∈ chosen, card ∈ validTargets
  | _, .chooseAttackers availableCreatures, chosen =>
      availableCreatures.Nodup ∧ chosen.Nodup ∧
        ∀ card ∈ chosen, card ∈ availableCreatures
  | _, .chooseBlockers availableBlockers attackers, chosen =>
      availableBlockers.Nodup ∧ attackers.Nodup ∧ chosen.Nodup ∧
        ∀ block ∈ chosen, block.1 ∈ availableBlockers ∧ block.2 ∈ attackers
  | _, .chooseDamageAssignmentOrder _ blockers, chosen =>
      blockers.Nodup ∧ chosen.Nodup ∧ ∀ card ∈ chosen, card ∈ blockers
  | _, .chooseCardsToDiscard hand _, chosen =>
      hand.Nodup ∧ chosen.Nodup ∧ ∀ card ∈ chosen, card ∈ hand
  | _, .chooseFromLibrary validCards, chosen =>
      validCards.Nodup ∧ ∀ index ∈ chosen, index < validCards.length
  | _, .choosePermanentsToSacrifice validPermanents _ _, chosen =>
      validPermanents.Nodup ∧ chosen.Nodup ∧
        ∀ card ∈ chosen, card ∈ validPermanents

/-- A damage assignment order includes all blockers. -/
def Complete : {α : Type} → OfferedChoice α → α → Prop
  | _, .chooseDamageAssignmentOrder _ blockers, chosen =>
      chosen.length = blockers.length
  | _, _, _ => True

/-- The server and the opponent both get the answer. -/
structure DecodedAlike (offer : OfferedChoice α)
    (server : NetworkController) (answer : α) : Prop where
  byServer : (offer.serve server (offer.client answer)).result = .ok answer
  byOpponent : ∀ request,
    offer.replayed request answer = some (.ok answer)

end OfferedChoice

namespace NetworkController

variable {self : NetworkController} {α : Type}

theorem invalidIndex_eq_none {request : ChoiceRequest} {indices : List Nat}
    (hvalid : ∀ index ∈ indices, index < request.optionCount) :
    invalidIndex request indices = none := by
  rw [invalidIndex, List.find?_eq_none]
  intro index hindex
  have hmem : index ∈ indices := by
    split at hindex
    · exact List.mem_of_mem_take hindex
    · exact hindex
  rw [decide_eq_true_eq, Nat.not_le]
  exact hvalid index hmem

/-- A valid response with the right number is read. -/
theorem ask_result (network : Network) (request : ChoiceRequest)
    {response : ChoiceResponse} (hnetwork : network request = .ok response)
    (hseq : response.choiceSeq = self.choiceSeq + 1)
    (hvalid : invalidIndex request response.choiceIndices = none)
    (read : ChoiceResponse → ChoiceResult α) :
    (self.ask network request read).result = read response := by
  have hrequest : self.requestChoice network request = .ok response := by
    rw [requestChoice, hnetwork]
    dsimp only
    rw [if_neg (not_not_intro hseq), hvalid]
  rw [ask, hrequest]

end NetworkController

section Cards

variable {options chosen : List CardId}
  (hchosen : ∀ card ∈ chosen, card ∈ options)
include hchosen

theorem positions_lt :
    ∀ index ∈ NetworkLocalController.positions options chosen,
      index < options.length := by
  apply Positions.forall_mem_filterMap
  intro card hcard position hposition
  obtain ⟨found, hfound, -, hlt⟩ := Positions.exists_idxOf? (hchosen card hcard)
  rw [hfound, Option.some.injEq] at hposition
  exact hposition ▸ hlt

theorem positions_length :
    (NetworkLocalController.positions options chosen).length =
      chosen.length := by
  apply Positions.length_filterMap
  intro card hcard
  obtain ⟨position, hposition, -⟩ := Positions.exists_idxOf? (hchosen card hcard)
  exact ⟨position, hposition⟩

theorem readOptions_positions (message : Nat → String) :
    NetworkController.readOptions options message
        (NetworkLocalController.positions options chosen) = .ok chosen := by
  rw [NetworkController.readOptions, NetworkLocalController.positions,
    Positions.collect_filterMap]
  · rfl
  · intro card hcard
    obtain ⟨position, hposition, hget, -⟩ :=
      Positions.exists_idxOf? (hchosen card hcard)
    refine ⟨position, hposition, ?_⟩
    rw [hget]

theorem remote_readOptions_positions {payload : ChoicePayload}
    (hindices : payload.choiceIndices =
      NetworkLocalController.positions options chosen) :
    RemoteController.readOptions payload options = .ok chosen := by
  rw [RemoteController.readOptions, hindices, NetworkLocalController.positions,
    Positions.filterMap_filterMap]
  intro card hcard
  obtain ⟨position, hposition, hget, -⟩ :=
    Positions.exists_idxOf? (hchosen card hcard)
  exact ⟨position, hposition, hget⟩

end Cards

section Shifted

variable {α : Type} {index : α → Option Nat} {chosen : List α}

/-- The indices that are sent, each one higher, or 0 for an empty choice. -/
def shiftedIndices (index : α → Option Nat) (chosen : List α) : List Nat :=
  let indices := chosen.filterMap fun a => (index a).map (· + 1)
  if indices.isEmpty then [0] else indices

/-- Read back, the shifted indices give the choice. -/
theorem shiftedIndices_cases
    (hsome : ∀ a ∈ chosen, ∃ position, index a = some position) :
    (chosen = [] ∧ shiftedIndices index chosen = [0]) ∨
      (shiftedIndices index chosen =
          chosen.filterMap (fun a => (index a).map (· + 1)) ∧
        shiftedIndices index chosen ≠ [] ∧
        (shiftedIndices index chosen).head? ≠ some 0) := by
  cases chosen with
  | nil => exact .inl ⟨rfl, rfl⟩
  | cons a rest =>
      obtain ⟨position, hposition⟩ := hsome a List.mem_cons_self
      have hindices : (a :: rest).filterMap (fun a => (index a).map (· + 1)) =
          (position + 1) :: rest.filterMap fun a => (index a).map (· + 1) :=
        List.filterMap_cons_some (by rw [hposition]; rfl)
      have hshifted : shiftedIndices index (a :: rest) =
          (position + 1) :: rest.filterMap fun a => (index a).map (· + 1) := by
        rw [shiftedIndices, hindices]
        rfl
      right
      rw [hshifted, hindices]
      exact ⟨rfl, List.cons_ne_nil _ _, fun heq => nomatch heq⟩

theorem shiftedIndices_lt {bound : Nat}
    (hlt : ∀ a ∈ chosen, ∀ position, index a = some position →
      position < bound) :
    ∀ position ∈ shiftedIndices index chosen, position < bound + 1 := by
  rw [shiftedIndices]
  split
  · intro position hposition
    rw [List.mem_singleton.mp hposition]
    exact Nat.succ_pos bound
  · apply Positions.forall_mem_filterMap
    intro a ha position hposition
    obtain ⟨below, hbelow, rfl⟩ := Option.map_eq_some_iff.mp hposition
    exact Nat.succ_lt_succ (hlt a ha below hbelow)

/-- The server's reading of shifted indices. -/
theorem collect_shiftedIndices {pick : Nat → Except String (Option α)}
    (hround : ∀ a ∈ chosen, ∃ position, index a = some position ∧
      pick (position + 1) = .ok (some a)) :
    (if shiftedIndices index chosen = [] ∨
        shiftedIndices index chosen = [0] then .ok []
      else .ofExcept (Positions.collect pick (shiftedIndices index chosen))) =
        ChoiceResult.ok chosen := by
  rcases shiftedIndices_cases fun a ha =>
      (hround a ha).imp fun _ => And.left with
    ⟨rfl, hzero⟩ | ⟨hindices, hne, hhead⟩
  · rw [if_pos (.inr hzero)]
  · rw [if_neg, hindices]
    · rw [Positions.collect_filterMap]
      · rfl
      · intro a ha
        obtain ⟨position, hindex, hpick⟩ := hround a ha
        refine ⟨position + 1, ?_, hpick⟩
        rw [hindex]
        rfl
    · rintro (hnil | hzero)
      · exact hne hnil
      · rw [hzero] at hhead
        exact hhead rfl

/-- The opponent's reading of shifted indices. -/
theorem filterMap_shiftedIndices {get : Nat → Option α}
    (hround : ∀ a ∈ chosen, ∃ position, index a = some position ∧
      get (position + 1) = some a) :
    (if (shiftedIndices index chosen).head? = some 0 then .ok []
      else .ok ((shiftedIndices index chosen).filterMap get)) =
        ChoiceResult.ok chosen := by
  rcases shiftedIndices_cases fun a ha =>
      (hround a ha).imp fun _ => And.left with
    ⟨rfl, hzero⟩ | ⟨hindices, -, hhead⟩
  · rw [hzero]
    rfl
  · rw [if_neg hhead, hindices]
    apply congrArg ChoiceResult.ok
    apply Positions.filterMap_filterMap
    intro a ha
    obtain ⟨position, hindex, hget⟩ := hround a ha
    refine ⟨position + 1, ?_, hget⟩
    rw [hindex]
    rfl

end Shifted

namespace OfferedChoice

variable {server : NetworkController}

theorem chooseTargets_alike {spell : CardId} {validTargets chosen : List CardId}
    {maxTargets : Nat} (hchosen : ∀ card ∈ chosen, card ∈ validTargets) :
    (chooseTargets spell validTargets maxTargets).DecodedAlike server
      chosen where
  byServer := by
    rw [serve, NetworkController.chooseTargets]
    split
    · next hempty =>
      rw [List.isEmpty_iff] at hempty
      subst hempty
      rw [List.eq_nil_iff_forall_not_mem.mpr fun card hcard =>
        nomatch hchosen card hcard]
    · exact (NetworkController.ask_result _ _ rfl rfl
        (NetworkController.invalidIndex_eq_none (positions_lt hchosen)) _).trans
          (readOptions_positions hchosen _)
  byOpponent _ := rfl

theorem chooseCardsToDiscard_alike {hand chosen : List CardId} {count : Nat}
    (hchosen : ∀ card ∈ chosen, card ∈ hand) :
    (chooseCardsToDiscard hand count).DecodedAlike server chosen where
  byServer := (NetworkController.ask_result _ _ rfl rfl
    (NetworkController.invalidIndex_eq_none (positions_lt hchosen)) _).trans
      (readOptions_positions hchosen _)
  byOpponent _ := congrArg some (remote_readOptions_positions hchosen rfl)

/-- Without duplicates nothing is dropped. -/
theorem foldl_kept_eq (kept : List CardId) {chosen : List CardId}
    (hnodup : (kept ++ chosen).Nodup) :
    chosen.foldl (fun kept card =>
      if kept.contains card then kept else kept ++ [card]) kept =
        kept ++ chosen := by
  induction chosen generalizing kept with
  | nil => exact (List.append_nil kept).symm
  | cons card rest ih =>
      have hnew : kept.contains card = false := by
        rw [List.contains_eq_mem, decide_eq_false_iff_not]
        intro hmem
        exact (List.nodup_append.mp hnodup).2.2 card hmem card
          List.mem_cons_self rfl
      rw [List.append_cons] at hnodup
      rw [List.foldl_cons, hnew, if_neg Bool.false_ne_true, ih _ hnodup,
        ← List.append_cons]

theorem choosePermanentsToSacrifice_alike
    {validPermanents chosen : List CardId} {count : Nat}
    {description : String} (hnodup : chosen.Nodup)
    (hchosen : ∀ card ∈ chosen, card ∈ validPermanents) :
    (choosePermanentsToSacrifice validPermanents count
      description).DecodedAlike server chosen where
  byServer := by
    refine (NetworkController.ask_result _ _ rfl rfl
      (NetworkController.invalidIndex_eq_none (positions_lt hchosen))
        _).trans ?_
    dsimp only
    rw [readOptions_positions hchosen]
    exact congrArg ChoiceResult.ok (foldl_kept_eq [] hnodup)
  byOpponent _ := congrArg some (remote_readOptions_positions hchosen rfl)

/-- The server completes an order that leaves blockers out, the opponent does
not. -/
theorem chooseDamageAssignmentOrder_alike_iff {attacker : CardId}
    {blockers chosen : List CardId}
    (hchosen : ∀ card ∈ chosen, card ∈ blockers) :
    (chooseDamageAssignmentOrder attacker blockers).DecodedAlike server
      chosen ↔ chosen.length = blockers.length := by
  have hlength := positions_length hchosen
  have hresult (read : ChoiceResponse → ChoiceResult (List CardId)) :=
    NetworkController.ask_result
      ((chooseDamageAssignmentOrder attacker blockers).client chosen)
      (server.request (.damageOrder attacker blockers.length)
        blockers.length) rfl rfl
      (NetworkController.invalidIndex_eq_none (positions_lt hchosen)) read
  constructor
  · intro halike
    apply Classical.byContradiction
    intro hpartial
    have hserved := halike.byServer
    rw [serve, NetworkController.chooseDamageAssignmentOrder, hresult] at hserved
    dsimp only at hserved
    rw [if_neg (by rw [hlength]; exact hpartial)] at hserved
    split at hserved
    · next blocker hfront =>
      have heq := congrArg List.length (ChoiceResult.ok.inj hserved)
      obtain ⟨hlt, -⟩ := List.getElem?_eq_some_iff.mp hfront
      rw [List.length_cons, List.length_eraseIdx_of_lt hlt,
        Nat.sub_add_cancel (Nat.zero_lt_of_lt hlt)] at heq
      exact hpartial heq.symm
    · cases hserved
  · intro hall
    constructor
    · rw [serve, NetworkController.chooseDamageAssignmentOrder, hresult]
      dsimp only
      rw [if_pos (by rw [hlength]; exact hall)]
      exact readOptions_positions hchosen _
    · intro request
      exact congrArg some (remote_readOptions_positions hchosen rfl)

theorem chooseAttackers_alike {availableCreatures chosen : List CardId}
    (hchosen : ∀ card ∈ chosen, card ∈ availableCreatures) :
    (chooseAttackers availableCreatures).DecodedAlike server chosen := by
  have hlt : ∀ card ∈ chosen, ∀ position,
      availableCreatures.idxOf? card = some position →
        position < availableCreatures.length := by
    intro card _ position hposition
    obtain ⟨hlt, -⟩ := List.idxOf?_eq_some_iff.mp hposition
    exact hlt
  constructor
  · refine (NetworkController.ask_result _ _ rfl rfl
      (NetworkController.invalidIndex_eq_none (shiftedIndices_lt hlt))
        _).trans ?_
    apply collect_shiftedIndices
    intro card hcard
    obtain ⟨position, hposition, hget, -⟩ :=
      Positions.exists_idxOf? (hchosen card hcard)
    refine ⟨position, hposition, ?_⟩
    dsimp only
    rw [hget]
  · intro request
    apply congrArg some
    apply filterMap_shiftedIndices
    intro card hcard
    obtain ⟨position, hposition, hget, -⟩ :=
      Positions.exists_idxOf? (hchosen card hcard)
    exact ⟨position, hposition, hget⟩

theorem chooseBlockers_alike {availableBlockers attackers : List CardId}
    {chosen : List (CardId × CardId)}
    (hchosen : ∀ block ∈ chosen,
      block.1 ∈ availableBlockers ∧ block.2 ∈ attackers) :
    (chooseBlockers availableBlockers attackers).DecodedAlike server
      chosen := by
  have hpair (block : CardId × CardId) (hblock : block ∈ chosen) :=
    Positions.exists_pairIndex (hchosen block hblock).1
      (hchosen block hblock).2
  have hlt : ∀ block ∈ chosen, ∀ position,
      Positions.pairIndex availableBlockers attackers block = some position →
        position < availableBlockers.length * attackers.length := by
    intro block hblock position hposition
    obtain ⟨found, hfound, -, -, hlt⟩ := hpair block hblock
    rw [hfound, Option.some.injEq] at hposition
    exact hposition ▸ hlt
  constructor
  · refine (NetworkController.ask_result _ _ rfl rfl
      (NetworkController.invalidIndex_eq_none (shiftedIndices_lt hlt))
        _).trans ?_
    apply collect_shiftedIndices
    intro block hblock
    obtain ⟨position, hposition, hblocker, hattacker, -⟩ := hpair block hblock
    refine ⟨position, hposition, ?_⟩
    dsimp only
    rw [hblocker, hattacker]
  · intro request
    apply congrArg some
    apply filterMap_shiftedIndices
    intro block hblock
    obtain ⟨position, hposition, hblocker, hattacker, -⟩ := hpair block hblock
    refine ⟨position, hposition, ?_⟩
    dsimp only
    rw [hblocker, hattacker]
    rfl

theorem chooseFromLibrary_alike {validCards : List String}
    {chosen : Option Nat} (hchosen : ∀ index ∈ chosen,
      index < validCards.length) :
    (chooseFromLibrary validCards).DecodedAlike server chosen := by
  cases chosen with
  | none =>
      constructor
      · refine (NetworkController.ask_result _ _ rfl rfl ?_ _).trans rfl
        rfl
      · intro request
        rfl
  | some index =>
      have hlt := hchosen index rfl
      constructor
      · refine (NetworkController.ask_result _ _ rfl rfl ?_ _).trans ?_
        · show List.find? _ [index + 1] = none
          rw [List.find?_singleton, if_neg]
          rw [decide_eq_true_eq, Nat.not_le]
          exact Nat.succ_lt_succ hlt
        · exact if_pos hlt
      · intro request
        rfl

/-- Server and opponent decode a legal choice to the same answer, the one the
player gave, just when a damage assignment order is complete. -/
theorem decodedAlike_iff {α : Type} (offer : OfferedChoice α) {answer : α}
    (hlegal : offer.Legal answer) :
    offer.DecodedAlike server answer ↔ offer.Complete answer := by
  cases offer with
  | chooseTargets => exact iff_of_true (chooseTargets_alike hlegal.2.2) trivial
  | chooseAttackers =>
      exact iff_of_true (chooseAttackers_alike hlegal.2.2) trivial
  | chooseBlockers =>
      exact iff_of_true (chooseBlockers_alike hlegal.2.2.2) trivial
  | chooseDamageAssignmentOrder =>
      exact chooseDamageAssignmentOrder_alike_iff hlegal.2.2
  | chooseCardsToDiscard =>
      exact iff_of_true (chooseCardsToDiscard_alike hlegal.2.2) trivial
  | chooseFromLibrary =>
      exact iff_of_true (chooseFromLibrary_alike hlegal.2) trivial
  | choosePermanentsToSacrifice =>
      exact iff_of_true
        (choosePermanentsToSacrifice_alike hlegal.2.1 hlegal.2.2) trivial

/-- Two blockers, each blocking another attacker. -/
theorem decodedAlike_blockers :
    (chooseBlockers [⟨1⟩, ⟨2⟩] [⟨7⟩, ⟨8⟩, ⟨9⟩]).DecodedAlike
      { player := ⟨0⟩ } [(⟨2⟩, ⟨7⟩), (⟨1⟩, ⟨9⟩)] :=
  (decodedAlike_iff (chooseBlockers [⟨1⟩, ⟨2⟩] [⟨7⟩, ⟨8⟩, ⟨9⟩])
    ⟨by decide, by decide, by decide, by decide⟩).mpr trivial

/-- The server puts the missing blocker last, the opponent leaves it out. -/
theorem partial_order_not_alike :
    (chooseDamageAssignmentOrder ⟨0⟩ [⟨1⟩, ⟨2⟩]).Legal [⟨2⟩] ∧
      ((chooseDamageAssignmentOrder ⟨0⟩ [⟨1⟩, ⟨2⟩]).serve { player := ⟨0⟩ }
        ((chooseDamageAssignmentOrder ⟨0⟩ [⟨1⟩, ⟨2⟩]).client [⟨2⟩])).result =
          .ok [⟨2⟩, ⟨1⟩] ∧
      (∀ request, (chooseDamageAssignmentOrder ⟨0⟩ [⟨1⟩, ⟨2⟩]).replayed
        request [⟨2⟩] = some (.ok [⟨2⟩])) ∧
      ¬(chooseDamageAssignmentOrder ⟨0⟩ [⟨1⟩, ⟨2⟩]).DecodedAlike
        { player := ⟨0⟩ } [⟨2⟩] := by
  refine ⟨⟨by decide, by decide, by decide⟩, by decide, fun _ => rfl, ?_⟩
  intro halike
  have hserved := halike.byServer
  revert hserved
  decide

end OfferedChoice

end DeepScry
