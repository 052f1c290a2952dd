/-
Keyword sets with the arguments of parameterised keywords, over the full table
of keywords, and when the arguments stay with their keywords.
-/
import DeepScry.Mana
import Mathlib.Data.Finset.Sort

namespace DeepScry

namespace KeywordTable

/-- The keywords, in the order of their declaration. -/
inductive Keyword where
  | flying | firstStrike | doubleStrike | deathtouch | haste | hexproof
  | indestructible | lifelink | menace | reach | trample | vigilance
  | defender | shroud | flash | fear | intimidate | horsemanship | shadow
  | skulk | protectionFromRed | protectionFromBlue | protectionFromBlack
  | protectionFromWhite | protectionFromGreen | protectionFromEverything
  | protectionFromEachColor | banding | flanking | phasing | wither | infect
  | cantAttack | cantBlock | cantAttackOrBlock | cantAttackAlone
  | cantAttackOrBlockAlone | mustAttack | goaded | mustBeBlocked
  | mustBeBlockedByAll | mustBeBlockedByTwo | mustBeBlockedByExactlyOne
  | preventAllDamage | preventAllCombatDamage
  | preventAllCombatDamageDealtAndReceived | untapsDuringOthersUntapStep
  | canBlockShadow | deckAnyNumber | canBeCommander | anteRemoval | changeling
  | convoke | delve | improvise | splitSecond | cascade | storm | gravestorm
  | conspire | retrace | prowess | aftermath | ascend | assist | bargain
  | battleCry | cipher | compleated | daybound | decayed | demonstrate
  | dethrone | devoid | doubleAgenda | doubleTeam | enlist | epic | evolve
  | exalted | exploit | extort | forMirrodin | fuse | gift | hiddenAgenda
  | ingest | jobSelect | jumpStart | livingMetal | livingWeapon | melee
  | mentor | myriad | nightbound | persist | provoke | ravenous | readAhead
  | rebound | riot | soulbond | spaceSculptor | spree | startYourEngines
  | sunburst | tiered | training | umbraArmor | undaunted | undying | unleash
  | chooseABackground | doctorsCompanion | friendsForever | partnerSurvivors
  | partnerFatherAndSon | partnerCharacterSelect | mayFlashSac | mayNotUntap
  | doesNotUntap | madness | flashback | kicker | cycling | equip | morph
  | evoke | buyback | echo | suspend | auraSwap | bestow | blitz
  | cumulativeUpkeep | dash | disguise | disturb | embalm | encore | entwine
  | escalate | escape | eternalize | foretell | fortify | freerunning
  | harmonize | levelUp | mayFlashCost | megamorph | miracle
  | moreThanMeetsTheEye | multikicker | mutate | offspring | outlast
  | overload | plot | prowl | prototype | reconfigure | reflect | scavenge
  | sneak | specialize | spectacle | squad | strive | surge | transfigure
  | transmute | unearth | ward | warp | webSlinging | enchant | landwalk
  | affinity | protection | offering | champion | bandsWithOther | amplify
  | annihilator | bushido | fading | vanishing | dredge | modular | absorb
  | afflict | afterlife | bloodthirst | casualty | crew | fabricate | frenzy
  | graft | hideaway | mobilize | poisonous | rampage | renown | ripple
  | saddle | soulshift | startingIntensity | station | toxic | tribute | adapt
  | awaken | backup | impending | monstrosity | reinforce | splice
  | typecycling | emerge | firebending | ninjutsu | partner | haunt
  | replicate | mayEffectFromOpeningHand | mayEffectFromOpeningDeck | mayhem
  | recover | visit | deckLimit | dungeon | alternateAdditionalCost | prize
  | chapter | classLevel | etbReplacement | etbCounter | hexproofFrom
  | partnerWith | companion | craft | devour
deriving DecidableEq

namespace Keyword

/-- The keywords that are listed as taking arguments. -/
def isComplex : Keyword → Bool
  | .madness | .flashback | .kicker | .cycling | .equip | .morph | .evoke
  | .buyback | .echo | .suspend | .auraSwap | .bestow | .blitz
  | .cumulativeUpkeep | .dash | .disguise | .disturb | .embalm | .encore
  | .entwine | .escalate | .escape | .eternalize | .foretell | .fortify
  | .freerunning | .harmonize | .levelUp | .mayFlashCost | .megamorph
  | .miracle | .moreThanMeetsTheEye | .multikicker | .mutate | .offspring
  | .outlast | .overload | .plot | .prowl | .prototype | .reconfigure
  | .reflect | .scavenge | .sneak | .specialize | .spectacle | .squad
  | .strive | .surge | .transfigure | .transmute | .unearth | .ward
  | .warp | .webSlinging | .enchant | .landwalk | .affinity | .protection
  | .offering | .champion | .bandsWithOther | .amplify | .annihilator
  | .bushido | .fading | .vanishing | .dredge | .modular | .absorb
  | .afflict | .afterlife | .bloodthirst | .casualty | .crew | .fabricate
  | .frenzy | .graft | .hideaway | .mobilize | .poisonous | .rampage
  | .renown | .ripple | .saddle | .soulshift | .startingIntensity
  | .station | .toxic | .tribute | .adapt | .awaken | .backup | .impending
  | .monstrosity | .reinforce | .splice | .typecycling | .emerge
  | .firebending | .ninjutsu | .partner | .craft | .devour | .haunt
  | .replicate | .mayEffectFromOpeningHand | .mayhem | .recover | .visit
  | .deckLimit | .dungeon | .alternateAdditionalCost | .prize
  | .mayEffectFromOpeningDeck | .chapter | .classLevel | .etbReplacement
  | .etbCounter | .hexproofFrom | .partnerWith | .companion => true
  | _ => false

end Keyword

/-- The arguments of a parameterised keyword. -/
inductive KeywordArgs where
  | madness (cost : ManaCost)
  | flashback (cost : ManaCost)
  | kicker (cost : ManaCost)
  | cycling (cost : ManaCost)
  | equip (cost : ManaCost)
  | morph (cost : ManaCost)
  | evoke (cost : ManaCost)
  | buyback (cost : ManaCost)
  | echo (cost : ManaCost)
  | suspend (timeCounters : UInt8) (cost : ManaCost)
  | enchant (cardType : String)
  | landwalk (landType : String)
  | affinity (cardType : String)
  | protection (fromType : String)
  | offering (creatureType : String)
  | champion (creatureType : String)
  | amplify (amount : UInt8) (creatureType : String)
  | annihilator (amount : UInt8)
  | bushido (amount : UInt8)
  | fading (counters : UInt8)
  | vanishing (counters : UInt8)
  | dredge (amount : UInt8)
  | modular (counters : UInt8)
  | absorb (amount : UInt8)
  | afflict (amount : UInt8)
  | afterlife (amount : UInt8)
  | bloodthirst (amount : UInt8)
  | casualty (amount : UInt8)
  | crew (amount : UInt8)
  | fabricate (amount : UInt8)
  | frenzy (amount : UInt8)
  | graft (amount : UInt8)
  | hideaway (amount : UInt8)
  | mobilize (amount : UInt8)
  | poisonous (amount : UInt8)
  | rampage (amount : UInt8)
  | renown (amount : UInt8)
  | ripple (amount : UInt8)
  | saddle (amount : UInt8)
  | soulshift (amount : UInt8)
  | startingIntensity (amount : UInt8)
  | station (amount : UInt8)
  | toxic (amount : UInt8)
  | tribute (amount : UInt8)
  | auraSwap (cost : ManaCost)
  | bestow (cost : ManaCost)
  | blitz (cost : ManaCost)
  | cumulativeUpkeep (cost : ManaCost)
  | dash (cost : ManaCost)
  | disguise (cost : ManaCost)
  | disturb (cost : ManaCost)
  | embalm (cost : ManaCost)
  | encore (cost : ManaCost)
  | entwine (cost : ManaCost)
  | escalate (cost : ManaCost)
  | escape (cost : ManaCost)
  | eternalize (cost : ManaCost)
  | foretell (cost : ManaCost)
  | fortify (cost : ManaCost)
  | freerunning (cost : ManaCost)
  | harmonize (cost : ManaCost)
  | levelUp (cost : ManaCost)
  | mayFlashCost (cost : ManaCost)
  | megamorph (cost : ManaCost)
  | miracle (cost : ManaCost)
  | moreThanMeetsTheEye (cost : ManaCost)
  | multikicker (cost : ManaCost)
  | mutate (cost : ManaCost)
  | offspring (cost : ManaCost)
  | outlast (cost : ManaCost)
  | overload (cost : ManaCost)
  | plot (cost : ManaCost)
  | prowl (cost : ManaCost)
  | prototype (cost : ManaCost)
  | reconfigure (cost : ManaCost)
  | reflect (cost : ManaCost)
  | scavenge (cost : ManaCost)
  | sneak (cost : ManaCost)
  | specialize (cost : ManaCost)
  | spectacle (cost : ManaCost)
  | squad (cost : ManaCost)
  | strive (cost : ManaCost)
  | surge (cost : ManaCost)
  | transfigure (cost : ManaCost)
  | transmute (cost : ManaCost)
  | unearth (cost : ManaCost)
  | ward (cost : ManaCost)
  | wardWaterbend (amount : UInt8)
  | warp (cost : ManaCost)
  | webSlinging (cost : ManaCost)
  | bandsWithOther (creatureType : String)
  | adapt (cost : ManaCost) (amount : UInt8)
  | awaken (cost : ManaCost) (amount : UInt8)
  | backup (amount : UInt8)
  | impending (cost : ManaCost) (amount : UInt8)
  | monstrosity (cost : ManaCost) (amount : UInt8)
  | reinforce (cost : ManaCost) (amount : UInt8)
  | splice (cost : ManaCost) (cardType : String)
  | typecycling (cost : ManaCost) (cardType : String)
  | emerge (cost : ManaCost)
  | firebending (amount : UInt8)
  | ninjutsu (cost : ManaCost)
  | partner
  | craft (requirements : String)
  | devour (amount : UInt8)
  | hexproofFrom (fromText : String)
  | partnerWith (cardName : String)
  | companion (restriction : String)
  | chapter (chapterNumber : UInt8) (abilities : String)
  | classLevel (level : UInt8) (cost abilities : String)
  | etbReplacement (effectType details : String)
  | etbCounter (counterType amount condition : String)
  | haunt (trigger : String)
  | replicate (cost : String)
  | mayEffectFromOpeningHand (effect : String)
  | mayhem (cost : String)
  | recover (cost : ManaCost)
  | visit (trigger : String)
  | deckLimit (limit : UInt8) (description : String)
  | dungeon (rooms : String)
  | alternateAdditionalCost (spec : String)
  | mustBeBlockedByAllFiltered (filter : String)
  | mayEffectFromOpeningDeck (effectRef : String)
  | prize (triggerRef : String)

namespace KeywordArgs

/-- The keyword that arguments belong to. -/
def keyword : KeywordArgs → Keyword
  | .madness .. => .madness
  | .flashback .. => .flashback
  | .kicker .. => .kicker
  | .cycling .. => .cycling
  | .equip .. => .equip
  | .morph .. => .morph
  | .evoke .. => .evoke
  | .buyback .. => .buyback
  | .echo .. => .echo
  | .suspend .. => .suspend
  | .enchant .. => .enchant
  | .landwalk .. => .landwalk
  | .affinity .. => .affinity
  | .protection .. => .protection
  | .offering .. => .offering
  | .champion .. => .champion
  | .amplify .. => .amplify
  | .annihilator .. => .annihilator
  | .bushido .. => .bushido
  | .fading .. => .fading
  | .vanishing .. => .vanishing
  | .dredge .. => .dredge
  | .modular .. => .modular
  | .absorb .. => .absorb
  | .afflict .. => .afflict
  | .afterlife .. => .afterlife
  | .bloodthirst .. => .bloodthirst
  | .casualty .. => .casualty
  | .crew .. => .crew
  | .fabricate .. => .fabricate
  | .frenzy .. => .frenzy
  | .graft .. => .graft
  | .hideaway .. => .hideaway
  | .mobilize .. => .mobilize
  | .poisonous .. => .poisonous
  | .rampage .. => .rampage
  | .renown .. => .renown
  | .ripple .. => .ripple
  | .saddle .. => .saddle
  | .soulshift .. => .soulshift
  | .startingIntensity .. => .startingIntensity
  | .station .. => .station
  | .toxic .. => .toxic
  | .tribute .. => .tribute
  | .auraSwap .. => .auraSwap
  | .bestow .. => .bestow
  | .blitz .. => .blitz
  | .cumulativeUpkeep .. => .cumulativeUpkeep
  | .dash .. => .dash
  | .disguise .. => .disguise
  | .disturb .. => .disturb
  | .embalm .. => .embalm
  | .encore .. => .encore
  | .entwine .. => .entwine
  | .escalate .. => .escalate
  | .escape .. => .escape
  | .eternalize .. => .eternalize
  | .foretell .. => .foretell
  | .fortify .. => .fortify
  | .freerunning .. => .freerunning
  | .harmonize .. => .harmonize
  | .levelUp .. => .levelUp
  | .mayFlashCost .. => .mayFlashCost
  | .megamorph .. => .megamorph
  | .miracle .. => .miracle
  | .moreThanMeetsTheEye .. => .moreThanMeetsTheEye
  | .multikicker .. => .multikicker
  | .mutate .. => .mutate
  | .offspring .. => .offspring
  | .outlast .. => .outlast
  | .overload .. => .overload
  | .plot .. => .plot
  | .prowl .. => .prowl
  | .prototype .. => .prototype
  | .reconfigure .. => .reconfigure
  | .reflect .. => .reflect
  | .scavenge .. => .scavenge
  | .sneak .. => .sneak
  | .specialize .. => .specialize
  | .spectacle .. => .spectacle
  | .squad .. => .squad
  | .strive .. => .strive
  | .surge .. => .surge
  | .transfigure .. => .transfigure
  | .transmute .. => .transmute
  | .unearth .. => .unearth
  | .ward .. => .ward
  | .wardWaterbend .. => .ward
  | .warp .. => .warp
  | .webSlinging .. => .webSlinging
  | .bandsWithOther .. => .bandsWithOther
  | .adapt .. => .adapt
  | .awaken .. => .awaken
  | .backup .. => .backup
  | .impending .. => .impending
  | .monstrosity .. => .monstrosity
  | .reinforce .. => .reinforce
  | .splice .. => .splice
  | .typecycling .. => .typecycling
  | .emerge .. => .emerge
  | .firebending .. => .firebending
  | .ninjutsu .. => .ninjutsu
  | .partner => .partner
  | .craft .. => .craft
  | .devour .. => .devour
  | .hexproofFrom .. => .hexproofFrom
  | .partnerWith .. => .partnerWith
  | .companion .. => .companion
  | .chapter .. => .chapter
  | .classLevel .. => .classLevel
  | .etbReplacement .. => .etbReplacement
  | .etbCounter .. => .etbCounter
  | .haunt .. => .haunt
  | .replicate .. => .replicate
  | .mayEffectFromOpeningHand .. => .mayEffectFromOpeningHand
  | .mayhem .. => .mayhem
  | .recover .. => .recover
  | .visit .. => .visit
  | .deckLimit .. => .deckLimit
  | .dungeon .. => .dungeon
  | .alternateAdditionalCost .. => .alternateAdditionalCost
  | .mustBeBlockedByAllFiltered .. => .mustBeBlockedByAll
  | .mayEffectFromOpeningDeck .. => .mayEffectFromOpeningDeck
  | .prize .. => .prize

end KeywordArgs

namespace Keyword

theorem ctorIdx_injective : Function.Injective Keyword.ctorIdx := by
  intro a b h
  rw [← ofNat_ctorIdx a, ← ofNat_ctorIdx b, h]

/-- Keywords are listed in the order of their declaration. -/
instance : LinearOrder Keyword :=
  LinearOrder.lift' Keyword.ctorIdx ctorIdx_injective

end Keyword

namespace KeywordArgs

/-- The one kind of arguments whose keyword takes none. -/
def isFiltered : KeywordArgs → Bool
  | .mustBeBlockedByAllFiltered _ => true
  | _ => false

/-- Arguments belong to a keyword that takes some, with one exception. -/
theorem isComplex_keyword (args : KeywordArgs) :
    args.keyword.isComplex = !args.isFiltered := by
  cases args <;> rfl

end KeywordArgs

/-- A bitset of keywords and the arguments of the parameterised ones. -/
structure KeywordSet where
  keywords : Finset Keyword := ∅
  args : List KeywordArgs := []

namespace KeywordSet

def new : KeywordSet := {}

def contains (set : KeywordSet) (keyword : Keyword) : Bool :=
  keyword ∈ set.keywords

/-- `insert`, which panics on a keyword with arguments where the build checks
its assertions. -/
def insert (debug : Bool) (set : KeywordSet) (keyword : Keyword) :
    Option KeywordSet :=
  if debug && keyword.isComplex then none
  else some { set with keywords := set.keywords ∪ {keyword} }

def insertComplex (set : KeywordSet) (args : KeywordArgs) : KeywordSet where
  keywords := set.keywords ∪ {args.keyword}
  args := set.args ++ [args]

def remove (set : KeywordSet) (keyword : Keyword) : KeywordSet where
  keywords := set.keywords \ {keyword}
  args :=
    if keyword.isComplex then
      set.args.filter fun args => args.keyword != keyword
    else set.args

def getArgs (set : KeywordSet) (keyword : Keyword) : Option KeywordArgs :=
  if !keyword.isComplex || !set.contains keyword then none
  else set.args.find? fun args => args.keyword == keyword

/-- The keywords, in the order of their declaration. -/
def iter (set : KeywordSet) : List Keyword :=
  set.keywords.sort (· ≤ ·)

/-- Every stored argument's keyword is in the set, lookup finds exactly the
keywords with stored arguments, and a removal leaves none behind. -/
structure Coherent (set : KeywordSet) : Prop where
  contained : ∀ args ∈ set.args, set.contains args.keyword
  found : ∀ keyword, (set.getArgs keyword).isSome ↔
    ∃ args ∈ set.args, args.keyword = keyword
  removed : ∀ keyword, ∀ args ∈ (set.remove keyword).args,
    args.keyword ≠ keyword

/-- The arguments of the keywords that take some are with their keyword. -/
def Kept (set : KeywordSet) : Prop :=
  ∀ args ∈ set.args, args.keyword.isComplex → args.keyword ∈ set.keywords

variable {debug : Bool} {set next : KeywordSet} {keyword : Keyword}

theorem new_kept : new.Kept := by
  intro args hargs
  simp [new] at hargs

theorem insert_of_build (set : KeywordSet)
    (hbuild : (debug && keyword.isComplex) = false) :
    set.insert debug keyword =
      some { set with keywords := set.keywords ∪ {keyword} } := by
  simp only [insert, hbuild, Bool.false_eq_true, if_false]

theorem insert_eq (h : set.insert debug keyword = some next) :
    (debug → keyword.isComplex = false) ∧
      next = { set with keywords := set.keywords ∪ {keyword} } := by
  cases debug <;> cases hk : keyword.isComplex <;> simp_all [insert]

theorem Kept.insert (hset : set.Kept)
    (h : set.insert debug keyword = some next) : next.Kept := by
  obtain ⟨-, rfl⟩ := insert_eq h
  intro args hargs hcomplex
  simp [hset args hargs hcomplex]

theorem Kept.insertComplex (hset : set.Kept) (args : KeywordArgs) :
    (set.insertComplex args).Kept := by
  intro other hother hcomplex
  simp only [KeywordSet.insertComplex, List.mem_append, List.mem_singleton,
    Finset.mem_union, Finset.mem_singleton] at hother ⊢
  rcases hother with hother | rfl
  · exact .inl (hset other hother hcomplex)
  · exact .inr rfl

theorem mem_args_remove {args : KeywordArgs} :
    args ∈ (set.remove keyword).args ↔
      args ∈ set.args ∧ (keyword.isComplex → args.keyword ≠ keyword) := by
  rw [remove]
  split <;> simp [*]

theorem Kept.remove (hset : set.Kept) (keyword : Keyword) :
    (set.remove keyword).Kept := by
  intro args hargs hcomplex
  obtain ⟨hargs, hother⟩ := mem_args_remove.mp hargs
  simp only [KeywordSet.remove, Finset.mem_sdiff, Finset.mem_singleton]
  refine ⟨hset args hargs hcomplex, ?_⟩
  rintro rfl
  exact hother hcomplex rfl

/-- Lookup finds the arguments of the keywords that take some. -/
theorem Kept.isSome_getArgs (hset : set.Kept) :
    (set.getArgs keyword).isSome ↔
      keyword.isComplex ∧ ∃ args ∈ set.args, args.keyword = keyword := by
  have hcontains : keyword.isComplex →
      (∃ args ∈ set.args, args.keyword = keyword) →
        set.contains keyword := by
    rintro hcomplex ⟨args, hargs, rfl⟩
    simp [contains, hset args hargs hcomplex]
  cases hk : keyword.isComplex with
  | false => simp [getArgs, hk]
  | true =>
    cases hc : set.contains keyword with
    | false => simp_all [getArgs]
    | true => simp [getArgs, hk, hc]

/-- A set is coherent where no filtered argument is stored. -/
theorem Kept.coherent_iff (hset : set.Kept) :
    set.Coherent ↔ ∀ args ∈ set.args, args.isFiltered = false := by
  constructor
  · intro hcoherent args hargs
    by_contra hfiltered
    have hfound := (hcoherent.found args.keyword).mpr ⟨args, hargs, rfl⟩
    rw [hset.isSome_getArgs, args.isComplex_keyword] at hfound
    simp_all
  · intro hnone
    have hcomplex : ∀ args ∈ set.args, args.keyword.isComplex = true := by
      intro args hargs
      rw [args.isComplex_keyword, hnone args hargs]
      rfl
    constructor
    · intro args hargs
      simp [contains, hset args hargs (hcomplex args hargs)]
    · intro keyword
      rw [hset.isSome_getArgs]
      constructor
      · exact fun hfound => hfound.2
      · rintro ⟨args, hargs, rfl⟩
        exact ⟨hcomplex args hargs, args, hargs, rfl⟩
    · rintro keyword args hargs rfl
      obtain ⟨hargs, hother⟩ := mem_args_remove.mp hargs
      exact hother (hcomplex args hargs) rfl

end KeywordSet

/-- The operations on a keyword set. -/
inductive SetOp where
  | insert (keyword : Keyword)
  | insertComplex (args : KeywordArgs)
  | remove (keyword : Keyword)

namespace SetOp

/-- One operation, or a panic where the build checks its assertions. -/
def apply (debug : Bool) (set : KeywordSet) : SetOp → Option KeywordSet
  | insert keyword => set.insert debug keyword
  | insertComplex args => some (set.insertComplex args)
  | remove keyword => some (set.remove keyword)

/-- Whether an operation stores an argument whose keyword takes none. -/
def storesFiltered : SetOp → Bool
  | insertComplex args => args.isFiltered
  | _ => false

variable {debug : Bool} {set next : KeywordSet} {op : SetOp} {ops : List SetOp}

theorem apply_kept (hset : set.Kept) (h : op.apply debug set = some next) :
    next.Kept := by
  cases op with
  | insert keyword => exact hset.insert h
  | insertComplex args =>
    obtain rfl := Option.some.inj h
    exact hset.insertComplex args
  | remove keyword =>
    obtain rfl := Option.some.inj h
    exact hset.remove keyword

/-- A filtered argument is never taken out again. -/
theorem apply_filtered (h : op.apply debug set = some next) :
    (∃ args ∈ next.args, args.isFiltered = true) ↔
      (∃ args ∈ set.args, args.isFiltered = true) ∨
        op.storesFiltered = true := by
  cases op with
  | insert keyword =>
    obtain ⟨-, rfl⟩ := KeywordSet.insert_eq h
    simp [storesFiltered]
  | insertComplex args =>
    obtain rfl := Option.some.inj h
    simp [KeywordSet.insertComplex, storesFiltered, or_and_right, exists_or]
  | remove keyword =>
    obtain rfl := Option.some.inj h
    simp only [KeywordSet.mem_args_remove, storesFiltered, Bool.false_eq_true,
      or_false]
    constructor
    · rintro ⟨args, ⟨hargs, -⟩, hfiltered⟩
      exact ⟨args, hargs, hfiltered⟩
    · rintro ⟨args, hargs, hfiltered⟩
      refine ⟨args, ⟨hargs, ?_⟩, hfiltered⟩
      rintro hcomplex rfl
      rw [args.isComplex_keyword, hfiltered] at hcomplex
      cases hcomplex

/-- A sequence of operations. -/
def run (debug : Bool) (set : KeywordSet) (ops : List SetOp) :
    Option KeywordSet :=
  ops.foldlM (apply debug) set

theorem run_kept (hset : set.Kept) (h : run debug set ops = some next) :
    next.Kept := by
  induction ops generalizing set with
  | nil =>
    obtain rfl := Option.some.inj h
    exact hset
  | cons op ops ih =>
    simp only [run, List.foldlM_cons, Option.bind_eq_bind,
      Option.bind_eq_some_iff] at h
    obtain ⟨mid, hmid, h⟩ := h
    exact ih (apply_kept hset hmid) h

theorem run_filtered (h : run debug set ops = some next) :
    (∃ args ∈ next.args, args.isFiltered = true) ↔
      (∃ args ∈ set.args, args.isFiltered = true) ∨
        ∃ op ∈ ops, op.storesFiltered = true := by
  induction ops generalizing set with
  | nil =>
    obtain rfl := Option.some.inj h
    simp
  | cons op ops ih =>
    simp only [run, List.foldlM_cons, Option.bind_eq_bind,
      Option.bind_eq_some_iff] at h
    obtain ⟨mid, hmid, h⟩ := h
    rw [ih h, apply_filtered hmid]
    simp [or_assoc]

/-- A set that operations reach is coherent exactly when none of them stored a
filtered argument. -/
theorem run_coherent_iff (h : run debug .new ops = some set) :
    set.Coherent ↔ ∀ op ∈ ops, op.storesFiltered = false := by
  have hfiltered := run_filtered h
  rw [(run_kept KeywordSet.new_kept h).coherent_iff]
  simp only [KeywordSet.new, List.not_mem_nil, false_and, exists_false,
    false_or] at hfiltered
  constructor
  · intro hnone op hop
    by_contra hstores
    obtain ⟨args, hargs, hf⟩ :=
      hfiltered.mpr ⟨op, hop, Bool.eq_true_of_not_eq_false hstores⟩
    simp [hnone args hargs] at hf
  · intro hnone args hargs
    by_contra hf
    obtain ⟨op, hop, hstores⟩ :=
      hfiltered.mp ⟨args, hargs, Bool.eq_true_of_not_eq_false hf⟩
    simp [hnone op hop] at hstores

end SetOp

end KeywordTable

end DeepScry
