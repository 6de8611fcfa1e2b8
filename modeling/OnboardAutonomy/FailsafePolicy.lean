import OnboardAutonomy.Histories
import OnboardAutonomy.CompanionLinkFailsafe
import Mathlib.Data.Nat.Bitwise
import Mathlib.Data.Nat.Cast.Order.Ring

namespace OnboardAutonomy
open ExactDouble Histories
set_option autoImplicit true

inductive FailsafeCall where
  | observeVehicle (connected : Bool) (systemId : Option UInt8)
  | onParameter (sourceSystem sourceComponent : UInt8) (id : String) (value : Double)

namespace CompanionLinkFailsafe

def call (f : CompanionLinkFailsafe) : FailsafeCall → CompanionLinkFailsafe
  | .observeVehicle connected systemId => f.observeVehicle connected systemId
  | .onParameter sourceSystem sourceComponent id value =>
    f.onParameter sourceSystem sourceComponent id value

/-- The policy after a history of calls, newest first. -/
def after : List FailsafeCall → CompanionLinkFailsafe
  | [] => {}
  | c :: h => (after h).call c

end CompanionLinkFailsafe

def FailsafeCall.observation : FailsafeCall → Option (Option UInt8)
  | .observeVehicle connected systemId => some (if connected then systemId else none)
  | .onParameter .. => none

/-- A value of the named parameter sent by the autopilot of a system. -/
def FailsafeCall.parameter (s : UInt8) (name : String) : FailsafeCall → Option Double
  | .observeVehicle .. => none
  | .onParameter sourceSystem sourceComponent id value =>
    if sourceSystem = s ∧ sourceComponent = kAutopilotComponentId ∧ id = name then some value
    else none

/-- The system the newest observation saw. -/
def observedSystem (h : List FailsafeCall) : Option UInt8 :=
  (latest FailsafeCall.observation h).join

/-- The observed system is lost, appears, or changes. -/
def resets (h : List FailsafeCall) (c : FailsafeCall) : Bool :=
  observedSystem (c :: h) != observedSystem h

/-- The most recent value of a parameter among the calls since the last reset. -/
def parameterSinceReset (h : List FailsafeCall) (s : UInt8) (name : String) : Option Double :=
  latest (FailsafeCall.parameter s name) (since resets h)

/-- The four values under which ArduPilot lands by itself when the companion falls silent. -/
structure AcceptedPolicy (s : UInt8) (value : String → Option Double) : Prop where
  action : value "FS_GCS_ENABLE" = some (.finite 5)
  timeout : ∃ t, value "FS_GCS_TIMEOUT" = some (.finite t) ∧ 2 ≤ t ∧ t ≤ 10
  options : ∃ n : Nat, value "FS_OPTIONS" = some (.finite n) ∧ n < 2 ^ 32 ∧
    n.testBit 1 = false ∧ n.testBit 4 = false
  gcsSystemId : value "SYSID_MYGCS" = some (.finite s.toNat)
  nonzero : s ≠ 0

theorem trunc_eq_self {q : ℚ} (hq : ((q.num.tdiv q.den : Int) : ℚ) = q) (h0 : 0 ≤ q) :
    q = (q.num.toNat : ℚ) := by
  have hnum : q.num = q.num.tdiv q.den := by
    have hn := congrArg Rat.num hq
    rw [Rat.num_intCast] at hn
    exact hn.symm
  have hpos : 0 ≤ q.num := Rat.num_nonneg.2 h0
  rw [← hq, ← hnum, Rat.num_intCast]
  exact_mod_cast (Int.toNat_of_nonneg hpos).symm

theorem exactInteger_eq_some {value : Option Double} :
    exactInteger value maximum = some n ↔ value = some (.finite n) ∧ n ≤ maximum := by
  constructor
  · intro h
    match value with
    | some (.finite q) =>
      simp only [exactInteger, Option.ite_none_left_eq_some, not_or, not_lt, not_not,
        Option.some.injEq] at h
      obtain ⟨⟨h0, hmax, htrunc⟩, hn⟩ := h
      have hq := trunc_eq_self htrunc h0
      rw [hn] at hq
      rw [hq] at hmax ⊢
      exact ⟨rfl, Nat.cast_le.1 hmax⟩
    | some .posInf => cases h
    | some .negInf => cases h
    | some .nan => cases h
    | none => cases h
  · intro ⟨hv, hn⟩
    subst hv
    have h0 : ¬((n : ℚ) < 0) := not_lt.2 (Nat.cast_nonneg n)
    have hmax : ¬((maximum : ℚ) < n) := not_lt.2 (Nat.cast_le.2 hn)
    simp only [exactInteger, h0, hmax, Rat.num_natCast, Rat.den_natCast, Nat.cast_one,
      Int.tdiv_one, Int.cast_natCast, ne_eq, not_true_eq_false, or_self, ↓reduceIte,
      Int.toNat_natCast]

theorem continuationMask_clear (n : Nat) :
    n &&& kGcsFailsafeContinuationMask = 0 ↔ n.testBit 1 = false ∧ n.testBit 4 = false := by
  have hmask : kGcsFailsafeContinuationMask = 2 ^ 1 ||| 2 ^ 4 := rfl
  rw [hmask, Nat.and_or_distrib_left, Nat.or_eq_zero_iff, Nat.and_two_pow, Nat.and_two_pow]
  cases n.testBit 1 <;> cases n.testBit 4 <;> decide

namespace CompanionLinkFailsafe

/-- The raw value a parameter name stands for. -/
def raw (f : CompanionLinkFailsafe) (name : String) : Option Double :=
  if name = "FS_GCS_ENABLE" then f.rawAction
  else if name = "FS_GCS_TIMEOUT" then f.rawTimeoutS
  else if name = "FS_OPTIONS" then f.rawOptions
  else if name = "SYSID_MYGCS" then f.rawGcsSystemId
  else none

theorem ofNat?_eq_land : ArduPilotGcsFailsafeAction.ofNat? n = some .land ↔ n = 5 := by
  match n with
  | 0 | 1 | 2 | 3 | 4 | 5 | 6 | 7 => decide
  | n + 8 =>
    constructor
    · intro h
      cases h
    · intro h
      omega

theorem timeoutInRange_iff {timeoutS : Option Double} :
    timeoutInRange timeoutS = true ↔ ∃ t, timeoutS = some (.finite t) ∧ 2 ≤ t ∧ t ≤ 10 := by
  match timeoutS with
  | some (.finite t) =>
    simp only [timeoutInRange, Double.isFinite_finite, Double.blt_finite, kMinimumTimeoutS,
      kMaximumTimeoutS, Bool.true_and, Bool.and_eq_true, Bool.not_eq_true',
      decide_eq_false_iff_not, not_lt, Option.some.injEq, Double.finite.injEq]
    constructor
    · intro h
      exact ⟨t, rfl, h⟩
    · intro ⟨u, hu, h⟩
      rw [hu]
      exact h
  | some .posInf | some .negInf | some .nan | none =>
    simp [timeoutInRange, Double.isFinite]

theorem raw_names (f : CompanionLinkFailsafe) :
    f.raw "FS_GCS_ENABLE" = f.rawAction ∧ f.raw "FS_GCS_TIMEOUT" = f.rawTimeoutS ∧
      f.raw "FS_OPTIONS" = f.rawOptions ∧ f.raw "SYSID_MYGCS" = f.rawGcsSystemId := by
  refine ⟨rfl, ?_, ?_, ?_⟩ <;> simp [raw]

theorem policy_of_rejection {f : CompanionLinkFailsafe} (h : f.rejection = none) :
    ∃ s, f.snapshot.heartbeatSystemId = some s ∧ AcceptedPolicy s f.raw := by
  obtain ⟨hr1, hr2, hr3, hr4⟩ := f.raw_names
  simp only [rejection] at h
  split at h
  · cases h
  rename_i action haction
  split at h
  · cases h
  rename_i hland
  split at h
  · cases h
  rename_i htimeout
  split at h
  · cases h
  rename_i options hoptions
  split at h
  · cases h
  rename_i hmask
  split at h
  · cases h
  rename_i gcs hgcs
  split at h
  · cases h
  rename_i hzero
  split at h
  · cases h
  rename_i hmatch
  rw [not_not] at hland hmask hmatch
  subst hland
  obtain ⟨n, hn, hof⟩ := Option.bind_eq_some_iff.1 haction
  obtain ⟨s, hs, hgs⟩ := Option.map_eq_some_iff.1 hmatch
  obtain ⟨hn, _⟩ := exactInteger_eq_some.1 hn
  obtain ⟨ho, hmax⟩ := exactInteger_eq_some.1 hoptions
  obtain ⟨hg, _⟩ := exactInteger_eq_some.1 hgcs
  rw [ofNat?_eq_land] at hof
  subst hof
  refine ⟨s, hs, ?_, ?_, ?_, ?_, ?_⟩
  · rw [hr1, hn]
    rfl
  · rw [hr2]
    exact timeoutInRange_iff.1 (by simpa using htimeout)
  · rw [hr3]
    exact ⟨options, ho, by omega, (continuationMask_clear options).1 hmask⟩
  · rw [hr4, hg, hgs]
  · intro h0
    rw [h0] at hgs
    exact hzero hgs.symm

theorem rejection_of_policy {f : CompanionLinkFailsafe}
    (hs : f.snapshot.heartbeatSystemId = some s) (hp : AcceptedPolicy s f.raw) :
    f.rejection = none := by
  obtain ⟨hr1, hr2, hr3, hr4⟩ := f.raw_names
  obtain ⟨options, ho, hmax, hbits⟩ := hp.options
  have haction : exactInteger f.rawAction 255 = some 5 :=
    exactInteger_eq_some.2 ⟨by rw [← hr1, hp.action]; rfl, by omega⟩
  have htimeout : timeoutInRange f.rawTimeoutS = true := by
    rw [← hr2]
    exact timeoutInRange_iff.2 hp.timeout
  have hoptions : exactInteger f.rawOptions 4294967295 = some options :=
    exactInteger_eq_some.2 ⟨by rw [← hr3, ho], by omega⟩
  have hmask := (continuationMask_clear options).2 hbits
  have hgcs : exactInteger f.rawGcsSystemId 255 = some s.toNat :=
    exactInteger_eq_some.2 ⟨by rw [← hr4, hp.gcsSystemId], by have := s.toNat_lt; omega⟩
  have hzero : s.toNat ≠ 0 := fun h => hp.nonzero (UInt8.toNat_inj.1 h)
  simp only [rejection, haction, htimeout, hoptions, hmask, hgcs, hzero, hs, Option.bind_some,
    ArduPilotGcsFailsafeAction.ofNat?, Option.map_some, ne_eq, not_true_eq_false, Bool.not_true,
    Bool.false_eq_true, ↓reduceIte]

theorem rejection_eq_none (f : CompanionLinkFailsafe) :
    f.rejection = none ↔ ∃ s, f.snapshot.heartbeatSystemId = some s ∧ AcceptedPolicy s f.raw := by
  constructor
  · exact policy_of_rejection
  · intro ⟨s, hs, hp⟩
    exact rejection_of_policy hs hp

theorem validate_raw (f : CompanionLinkFailsafe) (name : String) :
    f.validate.raw name = f.raw name := by
  simp only [validate]
  split
  · rfl
  · split <;> rfl

theorem validate_system (f : CompanionLinkFailsafe) :
    f.validate.snapshot.heartbeatSystemId = f.snapshot.heartbeatSystemId ∧
      f.validate.snapshot.parametersRequired = f.snapshot.parametersRequired := by
  simp only [validate]
  split
  · exact ⟨rfl, rfl⟩
  · split <;> exact ⟨rfl, rfl⟩

theorem rejection_congr {f g : CompanionLinkFailsafe}
    (hs : f.snapshot.heartbeatSystemId = g.snapshot.heartbeatSystemId)
    (hr : ∀ name, f.raw name = g.raw name) : f.rejection = none ↔ g.rejection = none := by
  rw [rejection_eq_none, rejection_eq_none, hs, funext hr]

theorem parametersReceived_of_accepted {f : CompanionLinkFailsafe} (hr : f.rejection = none) :
    f.parametersReceived = 4 := by
  obtain ⟨s, _, hp⟩ := f.rejection_eq_none.1 hr
  obtain ⟨hr1, hr2, hr3, hr4⟩ := f.raw_names
  obtain ⟨t, ht, _⟩ := hp.timeout
  obtain ⟨n, hn, _⟩ := hp.options
  simp only [parametersReceived, ← hr1, ← hr2, ← hr3, ← hr4, hp.action, ht, hn, hp.gcsSystemId,
    Option.isSome_some, Bool.toNat_true]

theorem validate_phase (f : CompanionLinkFailsafe) (hreq : f.snapshot.parametersRequired = 4) :
    f.validate.snapshot.phase = .accepted ↔ f.validate.rejection = none := by
  rw [rejection_congr f.validate_system.1 f.validate_raw]
  simp only [validate, hreq]
  split
  · rename_i hlt
    constructor
    · intro h
      cases h
    · intro h
      rw [parametersReceived_of_accepted h] at hlt
      exact absurd hlt (Nat.lt_irrefl 4)
  · split
    · rename_i detail hd
      constructor
      · intro h
        cases h
      · intro h
        rw [hd] at h
        cases h
    · rename_i hd
      exact ⟨fun _ => hd, fun _ => rfl⟩

/-- The raw value of a known parameter is replaced. -/
def store (f : CompanionLinkFailsafe) (name : String) (value : Double) : CompanionLinkFailsafe :=
  if name = "FS_GCS_ENABLE" then { f with rawAction := some value }
  else if name = "FS_GCS_TIMEOUT" then { f with rawTimeoutS := some value }
  else if name = "FS_OPTIONS" then { f with rawOptions := some value }
  else if name = "SYSID_MYGCS" then { f with rawGcsSystemId := some value }
  else f

theorem mem_parameterNames {name : String} : name ∈ parameterNames ↔ name = "FS_GCS_ENABLE" ∨
    name = "FS_GCS_TIMEOUT" ∨ name = "FS_OPTIONS" ∨ name = "SYSID_MYGCS" := by
  simp only [parameterNames, List.mem_cons, List.not_mem_nil, or_false]

theorem store_snapshot (f : CompanionLinkFailsafe) (name : String) (value : Double) :
    (f.store name value).snapshot = f.snapshot := by
  simp only [store]
  split_ifs <;> rfl

theorem store_raw (f : CompanionLinkFailsafe) {name : String} (hn : name ∈ parameterNames)
    (value : Double) (other : String) :
    (f.store name value).raw other = if other = name then some value else f.raw other := by
  rcases mem_parameterNames.1 hn with rfl | rfl | rfl | rfl <;>
    simp [store, raw] <;> split_ifs <;> simp_all

theorem onParameter_known (f : CompanionLinkFailsafe) (hs : f.snapshot.heartbeatSystemId = some s)
    (hn : name ∈ parameterNames) (value : Double) :
    f.onParameter s kAutopilotComponentId name value = (f.store name value).validate := by
  rcases mem_parameterNames.1 hn with rfl | rfl | rfl | rfl <;> simp [onParameter, store, hs]

theorem onParameter_ignored (f : CompanionLinkFailsafe)
    (hi : f.snapshot.heartbeatSystemId ≠ some source ∨ component ≠ kAutopilotComponentId ∨
      name ∉ parameterNames) (value : Double) : f.onParameter source component name value = f := by
  simp only [onParameter]
  split
  · rfl
  · rename_i hg
    simp only [not_or, not_not] at hg
    have hn : name ∉ parameterNames := by
      rcases hi with hi | hi | hi
      · exact absurd hg.1 hi
      · exact absurd hg.2 hi
      · exact hi
    simp only [mem_parameterNames, not_or] at hn
    simp only [hn, ↓reduceIte]

theorem observeVehicle_eq (f : CompanionLinkFailsafe) (connected : Bool) (systemId : Option UInt8) :
    f.observeVehicle connected systemId =
      if (if connected then systemId else none) = f.snapshot.heartbeatSystemId then f
      else reset (if connected then systemId else none) := by
  cases connected with
  | false =>
    cases hs : f.snapshot.heartbeatSystemId <;> simp [observeVehicle, hs]
  | true =>
    cases systemId with
    | none => cases hs : f.snapshot.heartbeatSystemId <;> simp [observeVehicle, hs]
    | some id =>
      by_cases he : f.snapshot.heartbeatSystemId = some id
      · simp [observeVehicle, he]
      · simp [observeVehicle, he, Ne.symm he]

theorem acceptedPolicy_congr {f g : String → Option Double}
    (hv : ∀ name ∈ parameterNames, f name = g name) : AcceptedPolicy s f ↔ AcceptedPolicy s g := by
  have hmem := @mem_parameterNames
  have h1 := hv _ (hmem.2 (.inl rfl))
  have h2 := hv _ (hmem.2 (.inr (.inl rfl)))
  have h3 := hv _ (hmem.2 (.inr (.inr (.inl rfl))))
  have h4 := hv _ (hmem.2 (.inr (.inr (.inr rfl))))
  constructor
  · intro ⟨ha, ht, ho, hg, hz⟩
    exact ⟨h1 ▸ ha, h2 ▸ ht, h3 ▸ ho, h4 ▸ hg, hz⟩
  · intro ⟨ha, ht, ho, hg, hz⟩
    exact ⟨h1 ▸ ha, h2 ▸ ht, h3 ▸ ho, h4 ▸ hg, hz⟩

/-- The policy's state in terms of the calls that led to it. -/
structure Tracks (h : List FailsafeCall) (f : CompanionLinkFailsafe) : Prop where
  system : f.snapshot.heartbeatSystemId = observedSystem h
  required : f.snapshot.parametersRequired = 4
  values : ∀ name ∈ parameterNames,
    f.raw name = (observedSystem h).bind fun s => parameterSinceReset h s name
  phase : f.snapshot.phase = .accepted ↔ f.rejection = none

theorem tracks_reset (h : List FailsafeCall) (hs : since resets h = []) :
    Tracks h (reset (observedSystem h)) := by
  have hraw (name : String) : (reset (observedSystem h)).raw name = none := by
    simp only [raw, reset]
    split_ifs <;> rfl
  have hnone : (reset (observedSystem h)).rejection ≠ none := by
    intro hr
    obtain ⟨s, _, hp⟩ := (rejection_eq_none _).1 hr
    have ha := hp.action
    rw [hraw] at ha
    cases ha
  refine ⟨?_, ?_, ?_, ?_⟩
  · cases ho : observedSystem h <;> rfl
  · cases ho : observedSystem h <;> rfl
  · intro name _
    rw [hraw]
    cases observedSystem h with
    | none => rfl
    | some s => rw [Option.bind_some, parameterSinceReset, hs, latest_nil]
  · constructor
    · intro hp
      cases ho : observedSystem h <;> rw [ho] at hp <;> cases hp
    · intro hr
      exact absurd hr hnone

theorem observedSystem_observe (connected : Bool) (systemId : Option UInt8)
    (h : List FailsafeCall) :
    observedSystem (.observeVehicle connected systemId :: h) =
      if connected then systemId else none := by
  simp only [observedSystem, latest_cons, FailsafeCall.observation, Option.some_or,
    Option.join_some]

theorem observedSystem_parameter (source component : UInt8) (id : String) (value : Double)
    (h : List FailsafeCall) :
    observedSystem (.onParameter source component id value :: h) = observedSystem h := by
  rw [observedSystem, latest_silent h rfl]
  rfl

theorem tracks_observe (ht : Tracks h f) (connected : Bool) (systemId : Option UInt8) :
    Tracks (.observeVehicle connected systemId :: h) (f.observeVehicle connected systemId) := by
  have ho := observedSystem_observe connected systemId h
  rw [observeVehicle_eq, ← ho, ht.system]
  by_cases he : observedSystem (.observeVehicle connected systemId :: h) = observedSystem h
  · have hk : resets h (.observeVehicle connected systemId) = false := by
      simp only [resets, he, bne_self_eq_false]
    rw [if_pos he]
    refine ⟨ht.system.trans he.symm, ht.required, ?_, ht.phase⟩
    intro name hn
    rw [ht.values name hn, he]
    congr 1
    funext s
    rw [parameterSinceReset, parameterSinceReset, since_keep h hk, latest_silent _ rfl]
  · have hk : resets h (.observeVehicle connected systemId) = true := bne_iff_ne.2 he
    rw [if_neg he]
    exact tracks_reset _ (since_cut h hk)

theorem parameterSinceReset_parameter (source component : UInt8) (id : String) (value : Double)
    (h : List FailsafeCall) (s : UInt8) (name : String) :
    parameterSinceReset (.onParameter source component id value :: h) s name =
      if source = s ∧ component = kAutopilotComponentId ∧ id = name then some value
      else parameterSinceReset h s name := by
  have hk : resets h (.onParameter source component id value) = false := by
    simp only [resets, observedSystem_parameter, bne_self_eq_false]
  rw [parameterSinceReset, since_keep h hk, latest_cons]
  simp only [FailsafeCall.parameter]
  split_ifs <;> rfl

theorem tracks_parameter (ht : Tracks h f) (source component : UInt8) (id : String)
    (value : Double) :
    Tracks (.onParameter source component id value :: h)
      (f.onParameter source component id value) := by
  have ho := observedSystem_parameter source component id value h
  by_cases hi : f.snapshot.heartbeatSystemId ≠ some source ∨ component ≠ kAutopilotComponentId ∨
      id ∉ parameterNames
  · rw [onParameter_ignored f hi]
    refine ⟨ht.system.trans ho.symm, ht.required, ?_, ht.phase⟩
    intro name hn
    rw [ht.values name hn, ho]
    cases hs : observedSystem h with
    | none => rfl
    | some s =>
      rw [Option.bind_some, Option.bind_some, parameterSinceReset_parameter, if_neg]
      intro ⟨hsource, hcomponent, hid⟩
      rw [ht.system, hs, hsource, hid] at hi
      rcases hi with hi | hi | hi
      · exact hi rfl
      · exact hi hcomponent
      · exact hi hn
  · simp only [not_or, not_not] at hi
    obtain ⟨hs, hc, hid⟩ := hi
    rw [hc, onParameter_known f hs hid]
    have hsys := (f.store id value).validate_system
    rw [store_snapshot] at hsys
    refine ⟨hsys.1.trans (ht.system.trans (hc ▸ ho).symm), hsys.2.trans ht.required, ?_, ?_⟩
    · intro name hn
      have hobs : observedSystem h = some source := ht.system.symm.trans hs
      rw [validate_raw, store_raw f hid, ht.values name hn, ← hc, ho, hobs, Option.bind_some,
        Option.bind_some, parameterSinceReset_parameter]
      by_cases he : name = id
      · rw [if_pos he, if_pos ⟨rfl, hc, he.symm⟩]
      · rw [if_neg he, if_neg fun hh => he hh.2.2.symm]
    · apply validate_phase
      rw [store_snapshot]
      exact ht.required

theorem after_tracks (h : List FailsafeCall) : Tracks h (after h) := by
  induction h with
  | nil => exact tracks_reset [] rfl
  | cons c h ih =>
    cases c with
    | observeVehicle connected systemId => exact tracks_observe ih connected systemId
    | onParameter source component id value => exact tracks_parameter ih source component id value

/-- The policy is accepted exactly when the four values last sent by the autopilot of the observed
system, since that system was first observed, are the required ones. Nothing else that arrives
changes the snapshot. -/
theorem accepted_exactly (h : List FailsafeCall) :
    ((after h).snapshot.accepted = true ↔
      ∃ s, observedSystem h = some s ∧ AcceptedPolicy s (parameterSinceReset h s)) ∧
    ∀ source component id value,
      observedSystem h ≠ some source ∨ component ≠ kAutopilotComponentId ∨ id ∉ parameterNames →
      (after (.onParameter source component id value :: h)).snapshot = (after h).snapshot := by
  have ht := after_tracks h
  constructor
  · have hph : (after h).snapshot.accepted = true ↔ (after h).snapshot.phase = .accepted := by
      simp only [CompanionLinkFailsafeSnapshot.accepted, beq_iff_eq]
    rw [hph, ht.phase, rejection_eq_none, ht.system]
    apply exists_congr
    intro s
    apply and_congr_right
    intro hs
    apply acceptedPolicy_congr
    intro name hn
    rw [ht.values name hn, hs, Option.bind_some]
  · intro source component id value hi
    rw [← ht.system] at hi
    exact congrArg snapshot (onParameter_ignored _ hi value)

end CompanionLinkFailsafe
end OnboardAutonomy
