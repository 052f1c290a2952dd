/-
Scry and surveil: where the revealed cards end up, that the log leads back, and
when a server in network mode queues the changed library.
-/
import DeepScry.Conserved
import DeepScry.TurnUndo

namespace DeepScry

namespace GameState

/-- From `game` to `after` the zones of one player are rearranged as told, the
logged actions lead back, and a server in network mode queues a changed
library. -/
structure Rearranges (game after : GameState) (player : PlayerId)
    (arrange : PlayerZones → PlayerZones) : Prop where
  zones : after.zones = game.zones.modifyPlayerZones player arrange
  cards : after.cards = game.cards
  undone : game.undoLog.enabled = true →
    (after.undoTo game.undoLog.actions.length).zones = game.zones
  queued : game.skipReveals = false → game.isShadowGame = false →
    ∀ own, game.zones.getPlayerZones player = some own →
      (arrange own).library ≠ own.library →
        after.pendingLibraryReorders = game.pendingLibraryReorders ++
          [(player, after.undoLog.actions.length)]

/-- The cards below the top `count` of a library. -/
def untouchedRest (library : List CardId) (count : UInt8) : List CardId :=
  library.take (library.length - count.toNat)

/-- What a scry is to make of the zones. -/
def scryArrange (count : UInt8) (decision : ScryDecision)
    (own : PlayerZones) : PlayerZones :=
  { own with
    library := decision.bottom ++ untouchedRest own.library count ++
      decision.top }

/-- What a surveil is to make of the zones. -/
def surveilArrange (count : UInt8) (decision : SurveilDecision)
    (own : PlayerZones) : PlayerZones :=
  { own with
    library := untouchedRest own.library count ++ decision.top
    graveyard := own.graveyard ++ decision.graveyard }

theorem untouchedRest_append (library : List CardId) (count : UInt8) :
    untouchedRest library count ++
      (library.reverse.take count.toNat).reverse = library := by
  rw [List.take_reverse, List.reverse_reverse]
  exact List.take_append_drop _ _

/-- Taking the top cards of a library out leaves the rest in its order. -/
theorem diff_snapshot {library taken : List CardId} {count : UInt8}
    (hdistinct : library.Nodup)
    (htaken : taken.Perm (library.reverse.take count.toNat)) :
    taken.foldl List.erase library = untouchedRest library count := by
  have hparts := untouchedRest_append library count
  have hdisjoint : (untouchedRest library count).Disjoint taken := by
    rw [← hparts, List.nodup_append'] at hdistinct
    intro card hrest hmem
    exact hdistinct.2.2 hrest (List.mem_reverse.mpr (htaken.mem_iff.mp hmem))
  rw [← List.diff_eq_foldl, hdistinct.sdiff_eq_filter]
  nth_rewrite 1 [← hparts]
  rw [List.filter_append]
  have hrest : (untouchedRest library count).filter (fun card => card ∉ taken) =
      untouchedRest library count := by
    simp only [List.filter_eq_self, decide_eq_true_eq]
    exact fun card hrest hmem => hdisjoint hrest hmem
  have htop : (library.reverse.take count.toNat).reverse.filter
      (fun card => card ∉ taken) = [] := by
    simp only [List.filter_eq_nil_iff, decide_eq_true_eq, not_not]
    exact fun card hmem => htaken.mem_iff.mpr (List.mem_reverse.mp hmem)
  rw [hrest, htop, List.append_nil]

section Reorder

variable {game : GameState} {player : PlayerId} {own : PlayerZones}
  {arrange : PlayerZones → PlayerZones}

/-- An arrangement that leaves the zones as they are needs no step. -/
theorem rearranges_self
    (hsame : ∀ own, game.zones.getPlayerZones player = some own →
      arrange own = own) : Rearranges game game player arrange := by
  refine ⟨(Zones.modifyPlayerZones_eq_self hsame).symm, rfl, ?_, ?_⟩
  · intro _
    rw [undoTo_of_length_eq rfl]
  · intro _ _ other hother hchanged
    rw [hsame other hother] at hchanged
    exact absurd rfl hchanged

/-- The steps that scry and surveil share once there are cards to move. -/
def reordered (game : GameState) (player : PlayerId)
    (includeGraveyard changed : Bool) (reorder : PlayerZones → PlayerZones) :
    GameState :=
  let logged := game.message.logLibraryReorder player includeGraveyard
  { logged with
    zones := logged.zones.modifyPlayerZones player reorder
    : GameState }.queueLibraryReorder player changed

theorem reordered_eq (hown : game.zones.getPlayerZones player = some own)
    (includeGraveyard changed : Bool) (reorder : PlayerZones → PlayerZones) :
    ∃ pending, game.reordered player includeGraveyard changed reorder =
        { game.message.logAction (.reorderLibrary player own.library
            (if includeGraveyard then some own.graveyard else none))
              game.message.logger.logCount with
          zones := game.zones.modifyPlayerZones player reorder
          pendingLibraryReorders := pending } := by
  have hlog := @Conserved.logLibraryReorder_of_some game.message _ _ hown
    includeGraveyard
  rw [reordered, hlog]
  exact queueLibraryReorder_eq _ player changed

theorem queueLibraryReorder_queued_iff (game : GameState) (player : PlayerId)
    (changed : Bool) (hskip : game.skipReveals = false)
    (hshadow : game.isShadowGame = false) :
    let after := game.queueLibraryReorder player changed
    after.pendingLibraryReorders = game.pendingLibraryReorders ++
        [(player, after.undoLog.actions.length)] ↔ changed = true := by
  cases changed <;> simp [queueLibraryReorder, hskip, hshadow]

theorem reordered_queued_iff (includeGraveyard changed : Bool)
    (reorder : PlayerZones → PlayerZones)
    (hskip : game.skipReveals = false) (hshadow : game.isShadowGame = false) :
    let after := game.reordered player includeGraveyard changed reorder
    after.pendingLibraryReorders = game.pendingLibraryReorders ++
        [(player, after.undoLog.actions.length)] ↔ changed = true := by
  have hlogged : ∃ undoLog, game.message.logLibraryReorder player
      includeGraveyard = { game.message with undoLog } := by
    rw [logLibraryReorder]
    split
    · exact ⟨_, rfl⟩
    · exact ⟨game.undoLog, rfl⟩
  obtain ⟨undoLog, hlogged⟩ := hlogged
  dsimp only [reordered]
  rw [hlogged]
  exact queueLibraryReorder_queued_iff _ player changed hskip hshadow

/-- A reorder that logs the old library, and the old graveyard where it changes
one, rearranges exactly when it reports each change to the server's queue. -/
theorem rearranges_iff (hown : game.zones.getPlayerZones player = some own)
    {reorder : PlayerZones → PlayerZones} (hreorder : reorder own = arrange own)
    {includeGraveyard changed : Bool}
    (hback : { arrange own with
      library := own.library
      graveyard := (if includeGraveyard then some own.graveyard else none).getD
        (arrange own).graveyard } = own) :
    Rearranges game
        (game.reordered player includeGraveyard changed reorder) player
        arrange ↔
      (game.skipReveals = false → game.isShadowGame = false →
        (arrange own).library ≠ own.library → changed = true) := by
  obtain ⟨pending, hafter⟩ :=
    reordered_eq hown includeGraveyard changed reorder
  constructor
  · intro hrearranges hskip hshadow hchanged
    exact (reordered_queued_iff includeGraveyard changed reorder hskip
      hshadow).mp (hrearranges.queued hskip hshadow own hown hchanged)
  · intro hreported
    refine ⟨?_, ?_, ?_, ?_⟩
    · rw [hafter]
      apply Zones.modifyPlayerZones_congr
      intro other hother
      cases hown.symm.trans hother
      exact hreorder
    · rw [hafter]
      rfl
    · intro henabled
      obtain ⟨manaCaches, spellTargets, hundo⟩ := undoTo_of_log henabled
        (congrArg GameState.undoLog hafter)
      rw [hundo, hafter]
      simp only [GameAction.undo]
      rw [Zones.modifyPlayerZones_modifyPlayerZones]
      apply Zones.modifyPlayerZones_eq_self
      intro other hother
      cases hown.symm.trans hother
      rw [Function.comp_apply, hreorder]
      exact hback
    · intro hskip hshadow other hother hchanged
      cases hown.symm.trans hother
      exact (reordered_queued_iff includeGraveyard changed reorder hskip
        hshadow).mpr (hreported hskip hshadow hchanged)

/-- The changes that are not reported are those in which every card stays on
top, in another order. -/
theorem reported_iff {library after moved top : List CardId} {count : UInt8}
    (hafter : moved = [] → after = untouchedRest library count ++ top) :
    (after ≠ library → (!moved.isEmpty) = true) ↔
      (moved = [] → top = (library.reverse.take count.toNat).reverse) := by
  have hrest : untouchedRest library count ++ top = library ↔
      top = (library.reverse.take count.toNat).reverse := by
    nth_rewrite 2 [← untouchedRest_append library count]
    exact List.append_right_inj _
  cases moved with
  | nil => simp [hafter rfl, hrest]
  | cons card moved => simp

/-- A reorder that reports itself when some card leaves the top rearranges
exactly when, with every card kept on top, the order is kept. -/
theorem rearranges_moved_iff
    (hown : game.zones.getPlayerZones player = some own)
    {reorder : PlayerZones → PlayerZones} (hreorder : reorder own = arrange own)
    {includeGraveyard : Bool} {moved top : List CardId} {count : UInt8}
    (hback : { arrange own with
      library := own.library
      graveyard := (if includeGraveyard then some own.graveyard else none).getD
        (arrange own).graveyard } = own)
    (hkept : moved = [] →
      (arrange own).library = untouchedRest own.library count ++ top) :
    Rearranges game
        (game.reordered player includeGraveyard (!moved.isEmpty) reorder)
        player arrange ↔
      (game.skipReveals = false → game.isShadowGame = false → moved = [] →
        top = (own.library.reverse.take count.toNat).reverse) := by
  rw [rearranges_iff hown hreorder hback]
  exact imp_congr_right fun _ => imp_congr_right fun _ => reported_iff hkept

end Reorder

section Decision

variable {game : GameState} {player : PlayerId} {count : UInt8}

theorem eq_of_snapshot_nil (hnil : game.scrySnapshotTopN player count = [])
    {own : PlayerZones} (hown : game.zones.getPlayerZones player = some own) :
    untouchedRest own.library count = own.library := by
  rw [scrySnapshotTopN, hown] at hnil
  have happend := untouchedRest_append own.library count
  rwa [show own.library.reverse.take count.toNat = [] from hnil,
    List.reverse_nil, List.append_nil] at happend

theorem scryApplyDecision_rearranges_iff {decision : ScryDecision}
    (hdistinct : ∀ own, game.zones.getPlayerZones player = some own →
      own.library.Nodup)
    (hparts : (decision.top ++ decision.bottom).Perm
      (game.scrySnapshotTopN player count)) :
    Rearranges game
        (game.scryApplyDecision player (game.scrySnapshotTopN player count)
          decision) player (scryArrange count decision) ↔
      (game.skipReveals = false → game.isShadowGame = false →
        decision.bottom = [] →
          decision.top = (game.scrySnapshotTopN player count).reverse) := by
  rw [scryApplyDecision]
  by_cases hnil : game.scrySnapshotTopN player count = []
  · rw [hnil, List.perm_nil, List.append_eq_nil_iff] at hparts
    rw [hnil, List.isEmpty_nil, if_pos rfl]
    refine iff_of_true (rearranges_self ?_) fun _ _ _ => hparts.1
    intro own hown
    simp [scryArrange, hparts, eq_of_snapshot_nil hnil hown]
  · rw [if_neg (by rwa [List.isEmpty_iff])]
    cases hown : game.zones.getPlayerZones player with
    | none => simp [scrySnapshotTopN, hown] at hnil
    | some own =>
        rw [scrySnapshotTopN, hown] at hparts ⊢
        have hreorder : own.applyScry (own.library.reverse.take count.toNat)
            decision = scryArrange count decision own := by
          rw [PlayerZones.applyScry,
            diff_snapshot (hdistinct own hown) (List.Perm.refl _)]
          rfl
        apply rearranges_moved_iff hown hreorder rfl
        intro hmoved
        simp [scryArrange, hmoved]

theorem surveilApplyDecision_rearranges_iff {decision : SurveilDecision}
    (hdistinct : ∀ own, game.zones.getPlayerZones player = some own →
      own.library.Nodup)
    (hparts : (decision.top ++ decision.graveyard).Perm
      (game.surveilSnapshotTopN player count)) :
    Rearranges game
        (game.surveilApplyDecision player
          (game.surveilSnapshotTopN player count) decision) player
        (surveilArrange count decision) ↔
      (game.skipReveals = false → game.isShadowGame = false →
        decision.graveyard = [] →
          decision.top = (game.surveilSnapshotTopN player count).reverse) := by
  rw [surveilSnapshotTopN] at hparts ⊢
  rw [surveilApplyDecision]
  by_cases hnil : game.scrySnapshotTopN player count = []
  · rw [hnil, List.perm_nil, List.append_eq_nil_iff] at hparts
    rw [hnil, List.isEmpty_nil, if_pos rfl]
    refine iff_of_true (rearranges_self ?_) fun _ _ _ => hparts.1
    intro own hown
    simp [surveilArrange, hparts, eq_of_snapshot_nil hnil hown]
  · rw [if_neg (by rwa [List.isEmpty_iff])]
    cases hown : game.zones.getPlayerZones player with
    | none => simp [scrySnapshotTopN, hown] at hnil
    | some own =>
        rw [scrySnapshotTopN, hown] at hparts ⊢
        have hreorder : own.applySurveil decision =
            surveilArrange count decision own := by
          rw [PlayerZones.applySurveil, ← List.foldl_append,
            diff_snapshot (hdistinct own hown)
              (List.perm_append_comm.trans hparts)]
          rfl
        apply rearranges_moved_iff hown hreorder rfl
        intro _
        rfl

/-- On a library without doubles, a scry and a surveil rearrange as decided,
undo and, on a server in network mode, queue exactly when a decision that keeps
every card on top keeps the order. -/
theorem decisions_rearrange_iff {scry : ScryDecision}
    {surveil : SurveilDecision}
    (hdistinct : ∀ own, game.zones.getPlayerZones player = some own →
      own.library.Nodup)
    (hscry : (scry.top ++ scry.bottom).Perm
      (game.scrySnapshotTopN player count))
    (hsurveil : (surveil.top ++ surveil.graveyard).Perm
      (game.surveilSnapshotTopN player count)) :
    (Rearranges game
        (game.scryApplyDecision player (game.scrySnapshotTopN player count)
          scry) player (scryArrange count scry) ↔
      (game.skipReveals = false → game.isShadowGame = false →
        scry.bottom = [] →
          scry.top = (game.scrySnapshotTopN player count).reverse)) ∧
    (Rearranges game
        (game.surveilApplyDecision player
          (game.surveilSnapshotTopN player count) surveil) player
        (surveilArrange count surveil) ↔
      (game.skipReveals = false → game.isShadowGame = false →
        surveil.graveyard = [] →
          surveil.top = (game.surveilSnapshotTopN player count).reverse)) :=
  ⟨scryApplyDecision_rearranges_iff hdistinct hscry,
    surveilApplyDecision_rearranges_iff hdistinct hsurveil⟩

end Decision

/-- A server in network mode; the player has two cards in the library. -/
def twoCardServer : GameState where
  zones := { playerZones := [(⟨0⟩, { library := [⟨1⟩, ⟨2⟩] })] }
  turn := { activePlayer := ⟨0⟩ }
  skipReveals := false

theorem twoCardServer_library_nodup (own : PlayerZones)
    (hown : twoCardServer.zones.getPlayerZones ⟨0⟩ = some own) :
    own.library.Nodup := by
  cases hown
  decide

theorem twoCardServer_bottomed :
    Rearranges twoCardServer
      (twoCardServer.scryApplyDecision ⟨0⟩
        (twoCardServer.scrySnapshotTopN ⟨0⟩ 2) ⟨[⟨1⟩], [⟨2⟩]⟩) ⟨0⟩
      (scryArrange 2 ⟨[⟨1⟩], [⟨2⟩]⟩) := by
  have hboth := @decisions_rearrange_iff twoCardServer ⟨0⟩ 2
    ⟨[⟨1⟩], [⟨2⟩]⟩ ⟨[⟨1⟩], [⟨2⟩]⟩ twoCardServer_library_nodup (by decide)
    (by decide)
  exact hboth.1.mpr (by decide)

/-- A scry and a surveil that swap the two cards and keep them on top change
the library, and nothing is queued. -/
theorem twoCardServer_swap_not_queued :
    ¬(Rearranges twoCardServer
        (twoCardServer.scryApplyDecision ⟨0⟩
          (twoCardServer.scrySnapshotTopN ⟨0⟩ 2) ⟨[⟨2⟩, ⟨1⟩], []⟩) ⟨0⟩
        (scryArrange 2 ⟨[⟨2⟩, ⟨1⟩], []⟩) ∨
      Rearranges twoCardServer
        (twoCardServer.surveilApplyDecision ⟨0⟩
          (twoCardServer.surveilSnapshotTopN ⟨0⟩ 2) ⟨[⟨2⟩, ⟨1⟩], []⟩) ⟨0⟩
        (surveilArrange 2 ⟨[⟨2⟩, ⟨1⟩], []⟩)) := by
  rintro (hscry | hsurveil)
  · have hqueued := hscry.queued rfl rfl _ rfl (by decide)
    exact absurd hqueued (by decide)
  · have hqueued := hsurveil.queued rfl rfl _ rfl (by decide)
    exact absurd hqueued (by decide)

end GameState

end DeepScry
