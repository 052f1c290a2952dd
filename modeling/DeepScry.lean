import DeepScry.GreedySound
import DeepScry.BoundsCheck
import DeepScry.DelayedTriggerUndo
import DeepScry.SourceCacheEvents
import DeepScry.MoveUndo
import DeepScry.Conservation
import DeepScry.CombatMaps
import DeepScry.LossFlag
import DeepScry.StateSyncRun
import DeepScry.TurnUndo
import DeepScry.CombatFrame
import DeepScry.CombatPass
import DeepScry.CombatStep
import DeepScry.CombatRun
import DeepScry.LethalDamage
import DeepScry.DamageChoices
import DeepScry.TrampleDamage
import DeepScry.TrampleAssignment
import DeepScry.TrampleLegal
import DeepScry.EngineTaps
import DeepScry.Ledger
import DeepScry.WinCondition
import DeepScry.TurnActions
import DeepScry.MoveRun
import DeepScry.TurnBookkeeping
import DeepScry.CleanupUndo
import DeepScry.NetworkController
import DeepScry.ClientControllers
import DeepScry.ChoiceCodec
import DeepScry.LockStep
import DeepScry.BackScan
import DeepScry.RevealCollection
import DeepScry.Counters
import DeepScry.SpellResolution
import DeepScry.TotalMana
import DeepScry.SpellCasting
import DeepScry.CastingCharge
import DeepScry.Puzzle
import DeepScry.PuzzleCards
import DeepScry.PuzzleLoad
import DeepScry.OpponentChoices
import DeepScry.ExtraTurns
import DeepScry.EffectTargets
import DeepScry.SpellPhases
import DeepScry.Fizzle
import DeepScry.SpellCaster
import DeepScry.CastingTargets
import DeepScry.FailedCast
import DeepScry.ManaEngine
import DeepScry.EffectiveCost
import DeepScry.Announcements
import DeepScry.OptionalCosts
import DeepScry.CastArm
import DeepScry.PoolPayment
import DeepScry.FailedActivation
import DeepScry.Drawing
import DeepScry.PaymentPhases
import DeepScry.SacrificeLast
import DeepScry.PaymentSurplus
import DeepScry.BoardMonotone
import DeepScry.NoDuals
import DeepScry.NetPayment
import DeepScry.SimpleResolver
import DeepScry.EngineAnswer
import DeepScry.FloatingMana
import DeepScry.BlockRules
import DeepScry.CombatTurn
import DeepScry.PlanWithin
import DeepScry.BlockerReach
import DeepScry.UniformPrevention
import DeepScry.DepartedBlockers
import DeepScry.ChoicePointUndo
import DeepScry.CounterUndo
import DeepScry.CheckedInt8
import DeepScry.PowerRange
import DeepScry.TypeCache
import DeepScry.ProductionSummary
import DeepScry.SearchLookup
import DeepScry.ScryReorder
import DeepScry.EntityUndo
import DeepScry.TrackedReturn
import DeepScry.Sweep
import DeepScry.ControlPasses
import DeepScry.ControlFixpoint
import DeepScry.ChoiceBuffer
import DeepScry.ChoiceWindow
import DeepScry.EngineScan
import DeepScry.TextLines
import DeepScry.DeckAccount
import DeepScry.DeckRoundTrip
import DeepScry.KeywordGrants
import DeepScry.LobbyList
import DeepScry.SearchDecode
import DeepScry.PtLayers
import DeepScry.ReplayController
import DeepScry.RevealProcessor
import DeepScry.JsonText
import DeepScry.NetworkHash
import DeepScry.CostText
import DeepScry.TotalPayment
import DeepScry.CardFilter
import DeepScry.CountExpressions
import DeepScry.TriggerPlaceholders
import DeepScry.AnnouncedCharge
import DeepScry.CappedShifts
import DeepScry.CostOrder
import DeepScry.UntapStep
import DeepScry.CleanupDiscard
import DeepScry.LetterCase
import DeepScry.CommandParsing
import DeepScry.UpkeepTaxes
import DeepScry.CyclingPayment
import DeepScry.TargetHandout
import DeepScry.SagaChapters
import DeepScry.DeathCheck
import DeepScry.PriorityRound
import DeepScry.CostSingle
