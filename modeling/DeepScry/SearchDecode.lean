/-
A library search by an index from the network: the card that the game loop
moves and the card that the coordinator names to the observer.
-/
import DeepScry.ChoiceCodec
import DeepScry.ContinuousEffects

namespace DeepScry

namespace GameState

/-- The names of the definitions of the valid cards; a card without an entity
is left out. -/
def validCardDefinitions (game : GameState) (validCards : List CardId) :
    List String :=
  validCards.filterMap fun card => (game.getCard card).map (·.definition.name)

/-- `choose_from_library_with_hook` for a server's controller, which replays
nothing.  The lookup of a found card is consulted where no card is valid. -/
def chooseFromLibraryWithHook (game : GameState)
    (searchedCardLookup : Option CardId) (controller : NetworkController)
    (network : Network) (validCards : List CardId) :
    Served (Option CardId) :=
  let served := (controller.setPendingLibrarySearchCardIds validCards)
    |>.chooseFromLibrary network (game.validCardDefinitions validCards)
  { request := served.request
    controller := served.controller
    result :=
      match served.result with
      | .ok choice =>
          match choice.bind (validCards[·]?) with
          | some card => .ok (some card)
          | none =>
              if validCards.isEmpty then .ok searchedCardLookup else .ok none
      | .exitGame => .exitGame
      | .undoRequest n => .undoRequest n
      | .error message => .error message
      | .needInput => .needInput }

end GameState

namespace NetworkController

variable {self : NetworkController} {network : Network}

theorem ask_request {α : Type} (request : ChoiceRequest)
    (read : ChoiceResponse → ChoiceResult α) :
    (self.ask network request read).request = some request := by
  rw [ask]
  split <;> rfl

/-- The request that a library search sends. -/
def searchRequest (self : NetworkController) (validCards : List String) :
    ChoiceRequest :=
  { self.request (.librarySearchByName validCards
      (List.replicate validCards.length 1) "matching cards")
      (validCards.length + 1) with
    librarySearchCards := self.pendingLibrarySearchCardIds }

theorem chooseFromLibrary_request (validCards : List String) :
    (self.chooseFromLibrary network validCards).request =
      some (self.searchRequest validCards) :=
  ask_request _ _

variable {validCards : List String} {response : ChoiceResponse}

theorem invalidIndex_searchRequest (indices : List Nat) :
    invalidIndex (self.searchRequest validCards) indices =
      (indices.take 1).find? fun index => validCards.length + 1 ≤ index := rfl

/-- An index among the options is read as a name, or as declining. -/
theorem chooseFromLibrary_ok
    (hnetwork : network (self.searchRequest validCards) = .ok response)
    (hseq : response.choiceSeq = self.choiceSeq + 1)
    (hvalid : response.choiceIndices.head?.getD 0 ≤ validCards.length) :
    (self.chooseFromLibrary network validCards).result =
      match response.choiceIndices.head?.getD 0 with
      | 0 => .ok none
      | name + 1 => .ok (some name) := by
  have hindex : invalidIndex (self.searchRequest validCards)
      response.choiceIndices = none := by
    rw [invalidIndex_searchRequest]
    cases hindices : response.choiceIndices with
    | nil => rfl
    | cons first rest =>
      simp only [hindices, List.head?_cons, Option.getD_some] at hvalid
      simpa using Nat.lt_succ_of_le hvalid
  have hask (read : ChoiceResponse → ChoiceResult (Option Nat)) :
      (({ self with pendingLibrarySearchCardIds := none } :
        NetworkController).ask network (self.searchRequest validCards)
          read).result = read response :=
    ask_result network _ hnetwork (by exact hseq) hindex read
  refine (hask _).trans ?_
  cases hraw : response.choiceIndices.head?.getD 0 with
  | zero => rfl
  | succ name =>
    rw [hraw] at hvalid
    simp only [if_pos (Nat.lt_of_succ_le hvalid)]

/-- An index that is no option ends the search with an error. -/
theorem chooseFromLibrary_error
    (hnetwork : network (self.searchRequest validCards) = .ok response)
    (hseq : response.choiceSeq = self.choiceSeq + 1)
    (hinvalid : validCards.length < response.choiceIndices.head?.getD 0) :
    ∃ message, (self.chooseFromLibrary network validCards).result =
      .error message := by
  have hindex : invalidIndex (self.searchRequest validCards)
      response.choiceIndices = some (response.choiceIndices.head?.getD 0) := by
    rw [invalidIndex_searchRequest]
    cases hindices : response.choiceIndices with
    | nil => simp [hindices] at hinvalid
    | cons first rest =>
      simp only [hindices, List.head?_cons, Option.getD_some] at hinvalid
      simpa using Nat.succ_le_of_lt hinvalid
  obtain ⟨message, hrequest⟩ : ∃ message,
      ({ self with pendingLibrarySearchCardIds := none } :
        NetworkController).requestChoice network
          (self.searchRequest validCards) = .error (.desyncError message) := by
    simp only [requestChoice, hnetwork, hseq, ne_eq, not_true_eq_false,
      if_false, hindex]
    exact ⟨_, rfl⟩
  refine ⟨(NetworkError.desyncError message).display, ?_⟩
  have hask (read : ChoiceResponse → ChoiceResult (Option Nat)) :
      (({ self with pendingLibrarySearchCardIds := none } :
        NetworkController).ask network (self.searchRequest validCards)
          read).result =
        .error (NetworkError.desyncError message).display := by
    rw [ask, hrequest]
  exact hask _

end NetworkController

namespace GameState

variable {game : GameState} {controller : NetworkController}
  {network : Network} {validCards : List CardId} {response : ChoiceResponse}

/-- The request that the game loop's search sends. -/
def librarySearchRequest (game : GameState) (controller : NetworkController)
    (validCards : List CardId) : ChoiceRequest :=
  (controller.setPendingLibrarySearchCardIds validCards).searchRequest
    (game.validCardDefinitions validCards)

/-- The coordinator counts every card as a name of its own. -/
theorem librarySearchResult_eq (game : GameState)
    (controller : NetworkController) (validCards : List CardId)
    (response : ChoiceResponse) :
    ((game.librarySearchRequest controller validCards).payload
        response).librarySearchResult =
      match response.choiceIndices.head?.getD 0 with
      | 0 => none
      | name + 1 =>
          validCards[min name (game.validCardDefinitions validCards).length +
            response.choiceIndices[1]?.getD 0]? := by
  rw [ChoiceRequest.payload]
  cases hraw : response.choiceIndices.head?.getD 0 with
  | zero => rfl
  | succ name =>
    simp [librarySearchRequest, NetworkController.searchRequest,
      NetworkController.request,
      NetworkController.setPendingLibrarySearchCardIds]

theorem length_validCardDefinitions_le :
    (game.validCardDefinitions validCards).length ≤ validCards.length :=
  List.length_filterMap_le _ _

/-- The game loop and the coordinator read the response alike. -/
def SearchAgrees (game : GameState) (controller : NetworkController)
    (validCards : List CardId) (response : ChoiceResponse) : Prop :=
  ∀ network : Network,
    network (game.librarySearchRequest controller validCards) =
      .ok response →
    (game.chooseFromLibraryWithHook none controller network
      validCards).result =
    .ok ((game.librarySearchRequest controller validCards).payload
      response).librarySearchResult

/-- The server's game loop moves the card that the coordinator names, and both
find none alike, exactly for the indices that decline and for those of an
offered card without an instance index. -/
theorem searchAgrees_iff (game : GameState) (controller : NetworkController)
    (validCards : List CardId) (hnodup : validCards.Nodup)
    (response : ChoiceResponse)
    (hseq : response.choiceSeq = controller.choiceSeq + 1) :
    game.SearchAgrees controller validCards response ↔
      response.choiceIndices.head?.getD 0 = 0 ∨
        (response.choiceIndices.head?.getD 0 ≤
            (game.validCardDefinitions validCards).length ∧
          response.choiceIndices[1]?.getD 0 = 0) := by
  have hsame : response.choiceSeq =
      (controller.setPendingLibrarySearchCardIds validCards).choiceSeq + 1 :=
    hseq
  constructor
  · intro hagrees
    have hagrees := hagrees (fun _ => .ok response) rfl
    by_contra hneither
    simp only [not_or, not_and] at hneither
    obtain ⟨hraw, hinstance⟩ := hneither
    obtain ⟨name, hname⟩ := Nat.exists_eq_succ_of_ne_zero hraw
    by_cases hvalid : response.choiceIndices.head?.getD 0 ≤
        (game.validCardDefinitions validCards).length
    · rw [chooseFromLibraryWithHook, librarySearchResult_eq,
        NetworkController.chooseFromLibrary_ok rfl hsame hvalid] at hagrees
      rw [hname] at hagrees hvalid
      have hlong : name < validCards.length :=
        Nat.lt_of_lt_of_le (Nat.lt_of_succ_le hvalid)
          length_validCardDefinitions_le
      simp only [Option.bind_some, List.getElem?_eq_getElem hlong,
        Nat.min_eq_left (Nat.le_of_succ_le hvalid)] at hagrees
      have hcard := ChoiceResult.ok.inj hagrees
      rw [← List.getElem?_eq_getElem hlong] at hcard
      have hindex := (List.getElem?_inj hlong hnodup).mp hcard
      omega
    · obtain ⟨message, herror⟩ : ∃ message,
          ((controller.setPendingLibrarySearchCardIds validCards)
            |>.chooseFromLibrary (fun _ => .ok response)
              (game.validCardDefinitions validCards)).result =
            .error message :=
        NetworkController.chooseFromLibrary_error rfl hsame
          (Nat.not_le.mp hvalid)
      rw [chooseFromLibraryWithHook, herror] at hagrees
      cases hagrees
  · intro hcases network hnetwork
    have hvalid : response.choiceIndices.head?.getD 0 ≤
        (game.validCardDefinitions validCards).length := by
      rcases hcases with hzero | hcases
      · omega
      · exact hcases.1
    rw [chooseFromLibraryWithHook, librarySearchResult_eq,
      NetworkController.chooseFromLibrary_ok hnetwork hsame hvalid]
    cases hraw : response.choiceIndices.head?.getD 0 with
    | zero => simp
    | succ name =>
      rw [hraw] at hcases hvalid
      have hinstance : response.choiceIndices[1]?.getD 0 = 0 := by
        rcases hcases with hzero | hcases
        · cases hzero
        · exact hcases.2
      have hlong : name < validCards.length :=
        Nat.lt_of_lt_of_le (Nat.lt_of_succ_le hvalid)
          length_validCardDefinitions_le
      simp only [Option.bind_some, List.getElem?_eq_getElem hlong, hinstance,
        Nat.min_eq_left (Nat.le_of_succ_le hvalid), Nat.add_zero]

/-- A library of two Forests and a Swamp. -/
def twoForests : GameState where
  cards := ⟨["Forest", "Forest", "Swamp"].zipIdx.map fun entry => some
    { id := ⟨entry.2⟩, owner := ⟨0⟩, controller := ⟨0⟩, name := entry.1
      definition := { name := entry.1 } }⟩
  turn := { activePlayer := ⟨0⟩ }

/-- The second Forest, by its own index. -/
theorem searchAgrees_secondForest :
    twoForests.SearchAgrees { player := ⟨0⟩ } [⟨0⟩, ⟨1⟩, ⟨2⟩]
      { choiceSeq := 1, choiceIndices := [2, 0] } :=
  (searchAgrees_iff twoForests { player := ⟨0⟩ } [⟨0⟩, ⟨1⟩, ⟨2⟩] (by decide)
    { choiceSeq := 1, choiceIndices := [2, 0] } rfl).mpr
      (.inr ⟨by decide, rfl⟩)

/-- The second instance of the first name: the loop moves the first Forest and
the observer is told the second one. -/
theorem not_searchAgrees_instance :
    ¬ twoForests.SearchAgrees { player := ⟨0⟩ } [⟨0⟩, ⟨1⟩, ⟨2⟩]
      { choiceSeq := 1, choiceIndices := [1, 1] } := by
  intro hagrees
  have hcard := hagrees (fun _ => .ok
    { choiceSeq := 1, choiceIndices := [1, 1] }) rfl
  revert hcard
  decide +kernel

end GameState

end DeepScry
