import OnboardAutonomy.Histories
import OnboardAutonomy.StartupSteps

namespace OnboardAutonomy
open ExactDouble Histories
set_option autoImplicit true

/-- The calls of the startup controller. -/
inductive StartupCall where
  | update (vehicle : VehicleSnapshot) (telemetryReady : Bool)
      (failsafe : CompanionLinkFailsafeSnapshot) (now : TimePoint)
  | onActionSent (request : FlightActionRequest) (sent : Bool) (now : TimePoint)
  | onCommandAck (action : FlightAction) (outcome : FlightCommandAckOutcome)
      (rawResult sourceSystem : UInt8) (now : TimePoint)
  | restart

def StartupCall.times : StartupCall → List TimePoint
  | .update _ _ _ now | .onActionSent _ _ now | .onCommandAck _ _ _ _ now => [now]
  | .restart => []

def StartupCall.restarts : StartupCall → Bool
  | .restart => true
  | .update .. | .onActionSent .. | .onCommandAck .. => false

abbrev StartupEntry := Entry FlightStartupController StartupCall (List FlightActionRequest)

namespace FlightStartupController

def step (c : FlightStartupController) :
    StartupCall → FlightStartupController × List FlightActionRequest
  | .update vehicle telemetryReady failsafe now => c.update vehicle telemetryReady failsafe now
  | .onActionSent request sent now => (c.onActionSent request sent now, [])
  | .onCommandAck action outcome rawResult sourceSystem now =>
    (c.onCommandAck action outcome rawResult sourceSystem now, [])
  | .restart => (c.restart, [])

/-- The runs of a controller the constructor accepts, at times that never go back. -/
def Ran (config : FlightStartupConfig) (h : List StartupEntry) (c : FlightStartupController) :
    Prop :=
  ∃ initial, new config = .ok initial ∧
    Run step (fun h _ call => Timed StartupCall.times h call) initial h c

def sinceRestart (h : List StartupEntry) : List StartupEntry :=
  since (fun _ e => e.input.restarts) h

/-- The call is an update whose arguments satisfy a condition. -/
def Sees (P : VehicleSnapshot → Bool → CompanionLinkFailsafeSnapshot → TimePoint → Prop)
    (e : StartupEntry) : Prop :=
  match e.input with
  | .update vehicle telemetryReady failsafe now => P vehicle telemetryReady failsafe now
  | .onActionSent .. | .onCommandAck .. | .restart => False

def FindsCopter (s : UInt8) (t : TimePoint) : StartupEntry → Prop :=
  Sees fun vehicle _ _ now => now = t ∧ vehicle.connected = true ∧ vehicle.systemId = some s ∧
    vehicle.autopilotType = some kArduPilotAutopilotType ∧
    isMulticopter vehicle.vehicleType = true

def FindsReady (deadline : TimePoint) : StartupEntry → Prop :=
  Sees fun vehicle telemetryReady failsafe now => now < deadline ∧ telemetryReady = true ∧
    vehicle.armable = true ∧ vehicle.armed = false ∧ failsafe.accepted = true ∧
    vehicle.relativeAltitudeM.isSome = true

def FindsGuided : StartupEntry → Prop :=
  Sees fun vehicle _ _ _ => vehicle.flightMode = some kCopterGuidedMode

def FindsArmed : StartupEntry → Prop := Sees fun vehicle _ _ _ => vehicle.armed = true

def FindsClimbed (targetM : Double) : StartupEntry → Prop :=
  Sees fun vehicle _ _ _ => vehicle.armed = true ∧
    ∃ altitude, vehicle.relativeAltitudeM = some altitude ∧
      (targetM - kAltitudeToleranceM).ble altitude = true

def Requests (action : FlightAction) (s : UInt8) (e : StartupEntry) : Prop :=
  ∃ a ∈ e.output, a.action = action ∧ a.vehicleSystemId = s

def Accepts (action : FlightAction) (s : UInt8) (e : StartupEntry) : Prop :=
  ∃ rawResult now, e.input = .onCommandAck action .accepted rawResult s now

/-- An update of a connected vehicle, or no update. -/
def Connected (e : StartupEntry) : Prop :=
  ∀ vehicle telemetryReady failsafe now,
    e.input = .update vehicle telemetryReady failsafe now → vehicle.connected = true

/-- An update under an accepted failsafe policy, or no update. -/
def PolicyAccepted (e : StartupEntry) : Prop :=
  ∀ vehicle telemetryReady failsafe now,
    e.input = .update vehicle telemetryReady failsafe now → failsafe.accepted = true

/-- An action is requested of a vehicle, accepted by it, and then seen to have its effect. -/
def Commanded (h : List StartupEntry) (s : UInt8) (action : FlightAction) (start : Nat)
    (effect : StartupEntry → Prop) (finish : Nat) : Prop :=
  ∃ asked answered, start ≤ asked ∧ asked < answered ∧ answered < finish ∧
    Shown h asked (Requests action s) ∧ Shown h answered (Accepts action s) ∧
    Shown h finish effect

/-- The evidence of a completed startup, in the order of the calls that gave it. -/
structure OrderedEvidence (targetM : Double) (h : List StartupEntry) (s : UInt8) (t : TimePoint)
    (latched readied guided armed climbed : Nat) : Prop where
  copter : Shown h latched (FindsCopter s t)
  order : latched ≤ readied
  readiness : Shown h readied (FindsReady (t + kReadinessTimeout))
  guidedMode : Commanded h s .setGuidedMode readied FindsGuided guided
  arm : Commanded h s .arm guided FindsArmed armed
  takeoff : Commanded h s .takeoff armed (FindsClimbed targetM) climbed
  connected : Between h latched climbed Connected
  accepted : Between h readied climbed PolicyAccepted

theorem Commanded.cons (hc : Commanded h s action start effect finish) (x : StartupEntry) :
    Commanded (x :: h) s action start effect finish := by
  obtain ⟨asked, answered, hstart, hlt, hfinish, hask, hanswer, heffect⟩ := hc
  exact ⟨asked, answered, hstart, hlt, hfinish, hask.cons x, hanswer.cons x, heffect.cons x⟩

theorem Commanded.lt_length (hc : Commanded h s action start effect finish) :
    finish < h.length := by
  obtain ⟨_, _, _, _, _, _, _, heffect⟩ := hc
  exact heffect.lt_length

/-- How far the evidence reaches: the phase it leads to and the call that completed it. -/
inductive Verified (targetM : Double) (h : List StartupEntry) (s : UInt8) (t : TimePoint)
    (latched readied : Nat) : FlightStartupPhase → Nat → Prop where
  | readiness : Shown h latched (FindsCopter s t) → latched ≤ readied →
      Shown h readied (FindsReady (t + kReadinessTimeout)) →
      Verified targetM h s t latched readied .settingGuided readied
  | guidedMode : Verified targetM h s t latched readied .settingGuided m →
      Commanded h s .setGuidedMode m FindsGuided n →
      Verified targetM h s t latched readied .arming n
  | arm : Verified targetM h s t latched readied .arming m →
      Commanded h s .arm m FindsArmed n →
      Verified targetM h s t latched readied .takingOff n
  | takeoff : Verified targetM h s t latched readied .takingOff m →
      Commanded h s .takeoff m (FindsClimbed targetM) n →
      Verified targetM h s t latched readied .completed n

theorem Verified.cons (hv : Verified targetM h s t latched readied p n) (x : StartupEntry) :
    Verified targetM (x :: h) s t latched readied p n := by
  induction hv with
  | readiness hfound hle hready => exact .readiness (hfound.cons x) hle (hready.cons x)
  | guidedMode _ hc ih => exact .guidedMode ih (hc.cons x)
  | arm _ hc ih => exact .arm ih (hc.cons x)
  | takeoff _ hc ih => exact .takeoff ih (hc.cons x)

theorem Verified.lt_length (hv : Verified targetM h s t latched readied p n) : n < h.length := by
  cases hv with
  | readiness _ _ hready => exact hready.lt_length
  | guidedMode _ hc | arm _ hc | takeoff _ hc => exact hc.lt_length

theorem Verified.ordered (hv : Verified targetM h s t latched readied .completed n)
    (hc : Between h latched n Connected) (ha : Between h readied n PolicyAccepted) :
    ∃ guided armed, OrderedEvidence targetM h s t latched readied guided armed n := by
  obtain _ | _ | _ | ⟨htakingOff, hclimbed⟩ := hv
  obtain _ | _ | ⟨harming, harmed⟩ := htakingOff
  obtain _ | ⟨hsettingGuided, hguided⟩ := harming
  obtain ⟨hfound, hle, hready⟩ := hsettingGuided
  exact ⟨_, _, hfound, hle, hready, hguided, harmed, hclimbed, hc, ha⟩

/-- The command of a phase so far: what is waited for was requested, and what counts as accepted
was requested and then accepted. -/
structure Underway (h : List StartupEntry) (s : UInt8) (c : FlightStartupController)
    (start : Nat) : Prop where
  awaiting : c.awaitingAck = true → ∀ action, c.expectedAction = some action →
    ∃ asked, start ≤ asked ∧ Shown h asked (Requests action s)
  accepted : c.commandAccepted = true → ∀ action, c.expectedAction = some action →
    ∃ asked answered, start ≤ asked ∧ asked < answered ∧ Shown h asked (Requests action s) ∧
      Shown h answered (Accepts action s)

/-- The evidence behind the phase a controller is in. -/
inductive Progress (targetM : Double) (h : List StartupEntry) (c : FlightStartupController) :
    Prop where
  | idle : c.phase = .disabled ∨ c.phase = .waitingForVehicle ∨ c.phase = .failed →
      Progress targetM h c
  | waiting : c.phase = .waitingForReadiness → c.vehicleSystemId = some s →
      c.phaseDeadline = t + kReadinessTimeout → Shown h n (FindsCopter s t) →
      FromOn h n Connected → Progress targetM h c
  | commanding : c.phase.commanding = true → c.vehicleSystemId = some s →
      Verified targetM h s t latched readied c.phase n → FromOn h latched Connected →
      FromOn h readied PolicyAccepted → Underway h s c n → Progress targetM h c
  | completed : c.phase = .completed → Verified targetM h s t latched readied .completed n →
      Between h latched n Connected → Between h readied n PolicyAccepted → Progress targetM h c

theorem Underway.cons (hu : Underway h s c start) (x : StartupEntry) :
    Underway (x :: h) s c start := by
  constructor
  · intro ha action he
    obtain ⟨asked, hle, hask⟩ := hu.awaiting ha action he
    exact ⟨asked, hle, hask.cons x⟩
  · intro ha action he
    obtain ⟨asked, answered, hle, hlt, hask, hanswer⟩ := hu.accepted ha action he
    exact ⟨asked, answered, hle, hlt, hask.cons x, hanswer.cons x⟩

theorem Progress.cons (hp : Progress targetM h c)
    (hc : c.phase.resting = false → c.phase ≠ .waitingForVehicle → Connected x)
    (ha : c.phase.commanding = true → PolicyAccepted x) : Progress targetM (x :: h) c := by
  cases hp with
  | idle hphase => exact .idle hphase
  | waiting hphase hid hdeadline hfound hconnected =>
    have hx : Connected x := hc (by rw [hphase]; rfl) (by rw [hphase]; decide)
    exact .waiting hphase hid hdeadline (hfound.cons x) (hconnected.cons hx)
  | commanding hphase hid hverified hconnected haccepted hunderway =>
    have hx : Connected x := by
      apply hc
      · exact FlightStartupPhase.resting_of_commanding hphase
      · intro h
        rw [h] at hphase
        cases hphase
    exact .commanding hphase hid (hverified.cons x) (hconnected.cons hx)
      (haccepted.cons (ha hphase)) (hunderway.cons x)
  | completed hphase hverified hconnected haccepted =>
    exact .completed hphase (hverified.cons x) (hconnected.cons hverified.lt_length x)
      (haccepted.cons hverified.lt_length x)

theorem Progress.follow (hp : Progress targetM h c) (hphase : c'.phase = c.phase)
    (hid : c'.vehicleSystemId = c.vehicleSystemId) (hdeadline : c'.phaseDeadline = c.phaseDeadline)
    (hu : ∀ s start, c.vehicleSystemId = some s → start < h.length → Underway h s c start →
      Underway h s c' start) : Progress targetM h c' := by
  cases hp with
  | idle h => exact .idle (by rwa [hphase])
  | waiting h hs ht hfound hconnected =>
    exact .waiting (hphase.trans h) (hid.trans hs) (hdeadline.trans ht) hfound hconnected
  | commanding h hs hverified hconnected haccepted hunderway =>
    exact .commanding (by rwa [hphase]) (hid.trans hs) (by rwa [hphase]) hconnected haccepted
      (hu _ _ hs hverified.lt_length hunderway)
  | completed h hverified hconnected haccepted =>
    exact .completed (hphase.trans h) hverified hconnected haccepted

theorem Progress.underway (hp : Progress targetM h c) (hc : c.phase.commanding = true) :
    ∃ s t latched readied n, c.vehicleSystemId = some s ∧
      Verified targetM h s t latched readied c.phase n ∧ FromOn h latched Connected ∧
      FromOn h readied PolicyAccepted ∧ Underway h s c n := by
  cases hp with
  | idle h => rcases h with h | h | h <;> rw [h] at hc <;> cases hc
  | waiting h _ _ _ _ => rw [h] at hc; cases hc
  | commanding _ hid hverified hconnected haccepted hunderway =>
    exact ⟨_, _, _, _, _, hid, hverified, hconnected, haccepted, hunderway⟩
  | completed h _ _ _ => rw [h] at hc; cases hc

theorem Progress.latched (hp : Progress targetM h c) (hc : c.phase = .waitingForReadiness) :
    ∃ s t n, c.vehicleSystemId = some s ∧ c.phaseDeadline = t + kReadinessTimeout ∧
      Shown h n (FindsCopter s t) ∧ FromOn h n Connected := by
  cases hp with
  | idle h => rcases h with h | h | h <;> rw [h] at hc <;> cases hc
  | waiting _ hid hdeadline hfound hconnected =>
    exact ⟨_, _, _, hid, hdeadline, hfound, hconnected⟩
  | commanding h _ _ _ _ _ => rw [hc] at h; cases h
  | completed h _ _ _ => rw [h] at hc; cases hc

theorem Progress.fail (c : FlightStartupController) (detail : String) :
    Progress targetM h (c.fail detail) := .idle (.inr (.inr rfl))

theorem Underway.nothing (c : FlightStartupController) (ha : c.awaitingAck = false)
    (hc : c.commandAccepted = false) : Underway h s c start := by
  constructor
  · intro h
    rw [ha] at h
    cases h
  · intro h
    rw [hc] at h
    cases h

theorem Underway.commanded (hu : Underway (x :: h) s c start) (ha : c.commandAccepted = true)
    (he : c.expectedAction = some action) (hx : ¬Accepts action s x) (heffect : effect x) :
    Commanded (x :: h) s action start effect h.length := by
  obtain ⟨asked, answered, hle, hlt, hask, hanswer⟩ := hu.accepted ha action he
  exact ⟨asked, answered, hle, hlt, hanswer.older hx, hask, hanswer, Shown.newest h heffect⟩

section Updates
variable {vehicle : VehicleSnapshot} {telemetryReady : Bool}
  {failsafe : CompanionLinkFailsafeSnapshot} {now : TimePoint}

theorem connected_update (hc : vehicle.connected = true) :
    Connected ⟨c, .update vehicle telemetryReady failsafe now, out⟩ := by
  intro _ _ _ _ h
  cases h
  exact hc

theorem policyAccepted_update (ha : failsafe.accepted = true) :
    PolicyAccepted ⟨c, .update vehicle telemetryReady failsafe now, out⟩ := by
  intro _ _ _ _ h
  cases h
  exact ha

theorem not_accepts_update :
    ¬Accepts action s ⟨c, .update vehicle telemetryReady failsafe now, out⟩ := by
  rintro ⟨_, _, h⟩
  cases h

/-- What a round of an update leaves is backed by the history that ends with the update. -/
theorem round_progress {d : FlightStartupController}
    (hp : ∀ out, Progress d.config.takeoffAltitudeM
      (⟨c, .update vehicle telemetryReady failsafe now, out⟩ :: h) d)
    (hr : Round vehicle telemetryReady failsafe now d flow) :
    flow.Leads
      (fun d' => ∀ out, Progress d.config.takeoffAltitudeM
        (⟨c, .update vehicle telemetryReady failsafe now, out⟩ :: h) d')
      (fun d' actions => Progress d.config.takeoffAltitudeM
        (⟨c, .update vehicle telemetryReady failsafe now, actions⟩ :: h) d') := by
  cases hr with
  | stay detail => exact (hp []).follow rfl rfl rfl fun _ _ _ _ hu => ⟨hu.awaiting, hu.accepted⟩
  | fail detail _ => exact .fail d detail
  | latch _ hc hs htype hcopter =>
    intro out
    obtain ⟨s, hs⟩ := Option.isSome_iff_exists.1 hs
    exact .waiting rfl hs rfl (Shown.newest h ⟨rfl, hc, hs, htype, hcopter⟩)
      (.newest (connected_update hc))
  | ready hphase hdeadline hready =>
    intro out
    simp only [ready, Bool.and_eq_true, Bool.not_eq_true'] at hready
    obtain ⟨⟨⟨⟨htelemetry, harmable⟩, harmed⟩, haccepted⟩, haltitude⟩ := hready
    obtain ⟨s, t, latched, hid, hdue, hfound, hconnected⟩ := (hp out).latched hphase
    rw [hdue] at hdeadline
    have hreadied : FindsReady (t + kReadinessTimeout)
        ⟨c, .update vehicle telemetryReady failsafe now, out⟩ :=
      ⟨hdeadline, htelemetry, harmable, harmed, haccepted, haltitude⟩
    exact .commanding rfl hid
      (.readiness hfound (Nat.le_of_lt_succ hfound.lt_length) (Shown.newest h hreadied)) hconnected
      (.newest (policyAccepted_update haccepted)) (.nothing _ rfl rfl)
  | guided hphase haccepted hmode =>
    intro out
    obtain ⟨s, t, latched, readied, n, hid, hverified, hconnected, hpolicy, hunderway⟩ :=
      (hp out).underway (by rw [hphase]; rfl)
    rw [hphase] at hverified
    have hcommanded : Commanded (_ :: h) s .setGuidedMode n FindsGuided h.length :=
      hunderway.commanded haccepted (by rw [expectedAction, hphase]) not_accepts_update hmode
    exact .commanding rfl hid (hverified.guidedMode hcommanded) hconnected hpolicy
      (.nothing _ rfl rfl)
  | armed hphase haccepted harmed =>
    intro out
    obtain ⟨s, t, latched, readied, n, hid, hverified, hconnected, hpolicy, hunderway⟩ :=
      (hp out).underway (by rw [hphase]; rfl)
    rw [hphase] at hverified
    have hcommanded : Commanded (_ :: h) s .arm n FindsArmed h.length :=
      hunderway.commanded haccepted (by rw [expectedAction, hphase]) not_accepts_update harmed
    exact .commanding rfl hid (hverified.arm hcommanded) hconnected hpolicy (.nothing _ rfl rfl)
  | climbed hphase haccepted harmed hreached =>
    obtain ⟨s, t, latched, readied, n, hid, hverified, hconnected, hpolicy, hunderway⟩ :=
      (hp []).underway (by rw [hphase]; rfl)
    rw [hphase] at hverified
    have hclimbed : ∃ altitude, vehicle.relativeAltitudeM = some altitude ∧
        (d.config.takeoffAltitudeM - kAltitudeToleranceM).ble altitude = true := by
      rw [reachedAltitude] at hreached
      split at hreached
      · rename_i altitude haltitude
        exact ⟨altitude, haltitude, hreached⟩
      · cases hreached
    have hcommanded : Commanded (_ :: h) s .takeoff n
        (FindsClimbed d.config.takeoffAltitudeM) h.length :=
      hunderway.commanded haccepted (by rw [expectedAction, hphase]) not_accepts_update
        ⟨harmed, hclimbed⟩
    exact .completed rfl (hverified.takeoff hcommanded) (hconnected.between _) (hpolicy.between _)
  | request action altitudeM hexpected haccepted _ _ =>
    apply Progress.follow (hp _)
    · rfl
    · rfl
    · rfl
    intro s start hid hstart _
    constructor
    · intro _ action' hexpected'
      have hsame : action' = action := Option.some.inj (hexpected'.symm.trans hexpected)
      refine ⟨h.length, Nat.le_of_lt_succ hstart, Shown.newest h ?_⟩
      exact ⟨_, List.mem_singleton.2 rfl, hsame.symm, by rw [hid]; rfl⟩
    · intro h
      have h : d.commandAccepted = true := h
      rw [haccepted] at h
      cases h

theorem update_progress (hp : Progress c.config.takeoffAltitudeM h c)
    (hu : update c vehicle telemetryReady failsafe now = (c', actions)) :
    Progress c.config.takeoffAltitudeM
      (⟨c, .update vehicle telemetryReady failsafe now, actions⟩ :: h) c' := by
  have hq : Progress c.config.takeoffAltitudeM
      (⟨c, .update vehicle telemetryReady failsafe now,
        (c.update vehicle telemetryReady failsafe now).2⟩ :: h)
      (c.update vehicle telemetryReady failsafe now).1 := by
    apply update_rule (c := c)
      (P := fun d => d.config = c.config ∧ (Guarded vehicle failsafe d → ∀ out,
        Progress c.config.takeoffAltitudeM
          (⟨c, .update vehicle telemetryReady failsafe now, out⟩ :: h) d))
      (Q := fun d out => Progress c.config.takeoffAltitudeM
        (⟨c, .update vehicle telemetryReady failsafe now, out⟩ :: h) d)
    · refine ⟨rfl, fun hg out => hp.cons ?_ ?_⟩
      · exact fun _ hphase => connected_update (hg.1 hphase)
      · exact fun hphase => policyAccepted_update (hg.2 hphase)
    · intro hrest
      apply hp.cons
      · intro h
        rw [hrest] at h
        cases h
      · intro h
        rw [FlightStartupPhase.resting_of_commanding h] at hrest
        cases hrest
    · exact fun d detail _ => .fail d detail
    · intro d flow hd hg hround
      obtain ⟨hconfig, hd⟩ := hd
      rw [← hconfig] at hd ⊢
      have hleads := round_progress (hd hg) hround
      cases flow with
      | next d' =>
        have hconfig' : d'.config = d.config := by
          cases hround <;> exact enterPhase_config _ _ _
        exact ⟨hconfig', fun _ => hleads⟩
      | done d' out => exact hleads
  rw [hu] at hq
  exact hq

end Updates

theorem Progress.unseen (hp : Progress targetM h c) {call : StartupCall}
    (hcall : ∀ vehicle telemetryReady failsafe now,
      call ≠ .update vehicle telemetryReady failsafe now) :
    Progress targetM (⟨c, call, out⟩ :: h) c := by
  apply hp.cons
  · exact fun _ _ _ _ _ _ h => absurd h (hcall _ _ _ _)
  · exact fun _ _ _ _ _ h => absurd h (hcall _ _ _ _)

theorem onActionSent_progress (hp : Progress targetM h c) (request : FlightActionRequest)
    (sent : Bool) (now : TimePoint) :
    Progress targetM (⟨c, .onActionSent request sent now, []⟩ :: h)
      (c.onActionSent request sent now) := by
  have hp : Progress targetM (⟨c, .onActionSent request sent now, []⟩ :: h) c :=
    hp.unseen fun _ _ _ _ h => by cases h
  rcases c.onActionSent_cases request sent now with hs | ⟨_, hs | ⟨detail, hs⟩⟩
  · rw [hs]
    exact hp
  · rw [hs]
    exact hp.follow rfl rfl rfl fun _ _ _ _ hu =>
      ⟨fun ha => absurd ha Bool.false_ne_true, hu.accepted⟩
  · rw [hs]
    exact .fail c detail

theorem onCommandAck_progress (hp : Progress targetM h c) (action : FlightAction)
    (outcome : FlightCommandAckOutcome) (rawResult source : UInt8) (now : TimePoint) :
    Progress targetM (⟨c, .onCommandAck action outcome rawResult source now, []⟩ :: h)
      (c.onCommandAck action outcome rawResult source now) := by
  have hp : Progress targetM (⟨c, .onCommandAck action outcome rawResult source now, []⟩ :: h) c :=
    hp.unseen fun _ _ _ _ h => by cases h
  rcases c.onCommandAck_cases action outcome rawResult source now with
    ⟨_, hs⟩ | ⟨hawaits, ⟨ho, hs⟩ | ⟨_, hs⟩ | ⟨_, detail, hs⟩⟩
  · rw [hs]
    exact hp
  · rw [hs]
    obtain ⟨hexpected, hawaiting, hsource⟩ := (c.awaits_iff action source).1 hawaits
    apply Progress.follow hp
    · rfl
    · rfl
    · rfl
    intro s start hid _ hu
    have hs : source = s := Option.some.inj (hsource.symm.trans hid)
    constructor
    · exact fun ha => absurd ha Bool.false_ne_true
    · intro _ action' hexpected'
      have hsame : action' = action := Option.some.inj (hexpected'.symm.trans hexpected)
      obtain ⟨asked, hle, hask⟩ := hu.awaiting hawaiting action hexpected
      have hlt : asked < h.length := by
        apply hask.older
        rintro ⟨a, ha, _⟩
        cases ha
      rw [hsame, ho, hs]
      exact ⟨asked, h.length, hle, hlt, by rwa [ho, hs] at hask, Shown.newest h ⟨_, _, rfl⟩⟩
  · rw [hs]
    exact hp.follow rfl rfl rfl fun _ _ _ _ hu => ⟨hu.awaiting, hu.accepted⟩
  · rw [hs]
    exact .fail _ detail

theorem restart_progress (c : FlightStartupController) : Progress targetM [] c.restart := by
  apply Progress.idle
  rw [restart]
  dsimp only
  split
  · exact .inr (.inl rfl)
  · exact .inl rfl

/-- In every run the phase is backed by the calls since the last restart. -/
theorem progress_run {config : FlightStartupConfig} (hr : Ran config h c) :
    c.config = config ∧ Progress config.takeoffAltitudeM (sinceRestart h) c := by
  obtain ⟨initial, hnew, hr⟩ := hr
  apply hr.history_invariant (fun h c => c.config = config ∧
    Progress config.takeoffAltitudeM (sinceRestart h) c)
  · rw [new_eq hnew]
    split
    · exact ⟨rfl, restart_progress _⟩
    · exact ⟨rfl, .idle (.inl rfl)⟩
  intro h c call _ hi _
  obtain ⟨hconfig, hp⟩ := hi
  cases call with
  | update vehicle telemetryReady failsafe now =>
    rw [sinceRestart, since_keep _ rfl]
    rw [← hconfig] at hp ⊢
    exact ⟨(moves_update c vehicle telemetryReady failsafe now).config, update_progress hp rfl⟩
  | onActionSent request sent now =>
    rw [sinceRestart, since_keep _ rfl]
    exact ⟨(moves_onActionSent c request sent now).config.trans hconfig,
      onActionSent_progress hp request sent now⟩
  | onCommandAck action outcome rawResult source now =>
    rw [sinceRestart, since_keep _ rfl]
    exact ⟨(moves_onCommandAck c action outcome rawResult source now).config.trans hconfig,
      onCommandAck_progress hp action outcome rawResult source now⟩
  | restart =>
    rw [sinceRestart, since_cut _ rfl]
    exact ⟨hconfig, restart_progress c⟩

theorem evidence_of_completed {config : FlightStartupConfig} (hr : Ran config h c)
    (hc : c.phase = .completed) :
    ∃ s t latched readied guided armed climbed,
      OrderedEvidence config.takeoffAltitudeM (sinceRestart h) s t latched readied guided armed
        climbed := by
  obtain ⟨_, hp⟩ := progress_run hr
  cases hp with
  | idle hphase => rcases hphase with h | h | h <;> rw [h] at hc <;> cases hc
  | waiting hphase _ _ _ _ => rw [hphase] at hc; cases hc
  | commanding hphase _ _ _ _ _ => rw [hc] at hphase; cases hphase
  | completed _ hverified hconnected haccepted =>
    obtain ⟨guided, armed, he⟩ := hverified.ordered hconnected haccepted
    exact ⟨_, _, _, _, guided, armed, _, he⟩

end FlightStartupController
end OnboardAutonomy
