import OnboardAutonomy.RuntimeSteps
import OnboardAutonomy.StartupEvidence

namespace OnboardAutonomy
open ExactDouble Histories
set_option autoImplicit true

/-- The calls of the runtime, with reports about any request. -/
inductive AutonomyCall where
  | update (vehicle : VehicleSnapshot) (startup : FlightStartupSnapshot)
      (failsafe : CompanionLinkFailsafeSnapshot) (now : TimePoint)
      (landingTarget : Option BodyFramePosition)
  | onActionSent (request : FlightActionRequest) (sent : Bool) (now : TimePoint)
  | onCommandAck (action : FlightAction) (outcome : FlightCommandAckOutcome)
      (rawResult sourceSystem : UInt8) (now : TimePoint)
  | restart

def AutonomyCall.times : AutonomyCall → List TimePoint
  | .update _ _ _ now _ | .onActionSent _ _ now | .onCommandAck _ _ _ _ now => [now]
  | .restart => []

def AutonomyCall.restarts : AutonomyCall → Bool
  | .restart => true
  | .update .. | .onActionSent .. | .onCommandAck .. => false

abbrev AutonomyEntry := Entry AutonomyRuntime AutonomyCall (List FlightActionRequest)

namespace AutonomyRuntime

def step (r : AutonomyRuntime) : AutonomyCall → AutonomyRuntime × List FlightActionRequest
  | .update vehicle startup failsafe now landingTarget =>
    r.update vehicle startup failsafe now landingTarget
  | .onActionSent request sent now => (r.onActionSent request sent now, [])
  | .onCommandAck action outcome rawResult sourceSystem now =>
    (r.onCommandAck action outcome rawResult sourceSystem now, [])
  | .restart => (r.restart, [])

/-- The runs of a runtime the constructor accepts, with calls in any order at times that never go
back. -/
def RanFreely (config : AutonomyRuntimeConfig) (h : List AutonomyEntry) (r : AutonomyRuntime) :
    Prop :=
  ∃ initial, new config = .ok initial ∧
    Run step (fun h _ call => Timed AutonomyCall.times h call) initial h r

def sinceRestart (h : List AutonomyEntry) : List AutonomyEntry :=
  since (fun _ e => e.input.restarts) h

def SeesStartup (e : AutonomyEntry) : Prop :=
  match e.input with
  | .update _ startup _ _ _ => startup.phase = .completed
  | .onActionSent .. | .onCommandAck .. | .restart => False

def FindsDisarmed (e : AutonomyEntry) : Prop :=
  match e.input with
  | .update vehicle _ _ _ _ => vehicle.armed = false
  | .onActionSent .. | .onCommandAck .. | .restart => False

def RequestsLand (e : AutonomyEntry) : Prop := ∃ a ∈ e.output, a.action = .land

/-- The vehicle that is followed accepts the LAND request. -/
def AcceptsLand (e : AutonomyEntry) : Prop :=
  ∃ rawResult source now, e.input = .onCommandAck .land .accepted rawResult source now ∧
    e.before.vehicleSystemId = some source

/-- An update of a connected vehicle under an accepted failsafe policy, or no update. -/
def Sound (e : AutonomyEntry) : Prop :=
  ∀ vehicle startup failsafe now landingTarget,
    e.input = .update vehicle startup failsafe now landingTarget →
    vehicle.connected = true ∧ failsafe.accepted = true

/-- The evidence of a completed landing, in the order of the calls that gave it. -/
structure LandingEvidence (h : List AutonomyEntry) (begun asked answered landed : Nat) : Prop where
  startup : Shown h begun SeesStartup
  afterStartup : begun ≤ asked
  request : Shown h asked RequestsLand
  afterRequest : asked < answered
  answer : Shown h answered AcceptsLand
  afterAnswer : answered < landed
  disarmed : Shown h landed FindsDisarmed
  sound : Between h begun landed Sound

/-- The evidence behind the phase a runtime is in. -/
inductive Descent (h : List AutonomyEntry) (r : AutonomyRuntime) : Prop where
  | idle : r.phase = .disabled ∨ r.phase = .waitingForStartup ∨ r.phase = .failed →
      r.awaitingLandAck = false → Descent h r
  | active : r.phase = .active → Shown h begun SeesStartup → FromOn h begun Sound →
      (r.awaitingLandAck = true → ∃ asked, begun ≤ asked ∧ Shown h asked RequestsLand) →
      Descent h r
  | landing : r.phase = .landing → r.awaitingLandAck = false → Shown h begun SeesStartup →
      FromOn h begun Sound → begun ≤ asked → Shown h asked RequestsLand → asked < answered →
      Shown h answered AcceptsLand → Descent h r
  | completed : r.phase = .completed → r.awaitingLandAck = false →
      LandingEvidence h begun asked answered landed → Descent h r

theorem LandingEvidence.cons (he : LandingEvidence h begun asked answered landed)
    (x : AutonomyEntry) : LandingEvidence (x :: h) begun asked answered landed := by
  obtain ⟨hstartup, hbegun, hrequest, hasked, hanswer, hanswered, hdisarmed, hsound⟩ := he
  exact ⟨hstartup.cons x, hbegun, hrequest.cons x, hasked, hanswer.cons x, hanswered,
    hdisarmed.cons x, hsound.cons hdisarmed.lt_length x⟩

theorem Descent.cons (hd : Descent h r) (hx : r.phase.engaged = true → Sound x) :
    Descent (x :: h) r := by
  cases hd with
  | idle hphase ha => exact .idle hphase ha
  | active hphase hstartup hsound hasked =>
    refine .active hphase (hstartup.cons x) (hsound.cons (hx (by rw [hphase]; rfl))) ?_
    intro ha
    obtain ⟨asked, hle, hrequest⟩ := hasked ha
    exact ⟨asked, hle, hrequest.cons x⟩
  | landing hphase ha hstartup hsound hle hrequest hlt hanswer =>
    exact .landing hphase ha (hstartup.cons x) (hsound.cons (hx (by rw [hphase]; rfl))) hle
      (hrequest.cons x) hlt (hanswer.cons x)
  | completed hphase ha he => exact .completed hphase ha (he.cons x)

theorem Descent.follow (hd : Descent h r) (hphase : r'.phase = r.phase)
    (ha : r'.awaitingLandAck = true → r.awaitingLandAck = true) : Descent h r' := by
  have hquiet (hn : r.awaitingLandAck = false) : r'.awaitingLandAck = false := by
    rw [← Bool.not_eq_true] at hn ⊢
    exact fun h => hn (ha h)
  cases hd with
  | idle hp hn => exact .idle (by rwa [hphase]) (hquiet hn)
  | active hp hstartup hsound hasked =>
    exact .active (hphase.trans hp) hstartup hsound fun h => hasked (ha h)
  | landing hp hn hstartup hsound hle hrequest hlt hanswer =>
    exact .landing (hphase.trans hp) (hquiet hn) hstartup hsound hle hrequest hlt hanswer
  | completed hp hn he => exact .completed (hphase.trans hp) (hquiet hn) he

theorem Descent.fail (r : AutonomyRuntime) (detail : String) : Descent h (r.fail detail) :=
  .idle (.inr (.inr rfl)) rfl

section Updates
variable {vehicle : VehicleSnapshot} {startup : FlightStartupSnapshot}
  {failsafe : CompanionLinkFailsafeSnapshot} {now : TimePoint}
  {landingTarget : Option BodyFramePosition}

theorem Checked.sound (hc : Checked vehicle failsafe) :
    Sound ⟨r, .update vehicle startup failsafe now landingTarget, out⟩ := by
  intro _ _ _ _ _ h
  cases h
  exact ⟨hc.connected, hc.accepted⟩

/-- An update that passes the checks finds the runtime engaged, on the evidence so far. -/
theorem Descent.begun (hd : Descent h r) (hb : Begun startup failsafe now r b)
    (hc : Checked vehicle failsafe) :
    Descent (⟨r, .update vehicle startup failsafe now landingTarget, out⟩ :: h) b := by
  cases hb with
  | engaged hphase => exact hd.cons fun _ => hc.sound
  | activated hphase hs _ =>
    have ha : r.awaitingLandAck = false := by
      cases hd with
      | idle _ ha => exact ha
      | active hp _ _ _ | landing hp _ _ _ _ _ _ _ | completed hp _ _ =>
        rw [hp] at hphase
        cases hphase
    refine .active rfl (Shown.newest h hs) (.newest hc.sound) fun h => ?_
    have h : r.awaitingLandAck = true := h
    rw [ha] at h
    cases h

theorem Descent.acts {x : AutonomyEntry} (hd : Descent (x :: h) b)
    (hphase : b.phase.engaged = true) (ha : Acts b vehicle r x.output) : Descent (x :: h) r := by
  rcases ha.phase with hsame | hfailed
  · cases hd with
    | idle hp _ => rcases hp with hp | hp | hp <;> rw [hp] at hphase <;> cases hphase
    | active hp hstartup hsound hasked =>
      refine .active (hsame.trans hp) hstartup hsound fun hw => ?_
      rcases ha.asked hw with hw | hland
      · exact hasked hw
      · exact ⟨h.length, Nat.le_of_lt_succ hstartup.lt_length, Shown.newest h hland⟩
    | landing hp hn hstartup hsound hle hrequest hlt hanswer =>
      have hquiet : r.awaitingLandAck = false := by
        rw [← Bool.not_eq_true]
        intro hw
        rcases (ha.awaiting hw).2 with hw | hactive
        · rw [hn] at hw
          cases hw
        · rw [hp] at hactive
          cases hactive
      exact .landing (hsame.trans hp) hquiet hstartup hsound hle hrequest hlt hanswer
    | completed hp _ _ => rw [hp] at hphase; cases hphase
  · refine .idle (.inr (.inr hfailed)) ?_
    rw [← Bool.not_eq_true]
    intro hw
    rw [← (ha.awaiting hw).1, hfailed] at hphase
    cases hphase

theorem Descent.update (hd : Descent h r)
    (hu : Updated vehicle startup failsafe now landingTarget r r' actions) :
    Descent (⟨r, .update vehicle startup failsafe now landingTarget, actions⟩ :: h) r' := by
  have hbegun {b : AutonomyRuntime} (hb : Begun startup failsafe now r b)
      (hc : Checked vehicle failsafe) :
      Descent (⟨r, .update vehicle startup failsafe now landingTarget, actions⟩ :: h) b :=
    hd.begun hb hc
  cases hu with
  | rest hrest =>
    apply hd.cons
    intro he
    rw [resting_of_engaged he] at hrest
    cases hrest
  | wait detail hphase _ =>
    have hidle (he : r.phase.engaged = true) : False := by
      rw [hphase] at he
      cases he
    exact (hd.cons fun he => absurd he hidle).follow rfl id
  | refuse detail _ _ => exact .fail r detail
  | abort systemId detail _ => exact .fail _ detail
  | land hb hphase hc harmed =>
    cases hbegun hb hc with
    | idle hp _ => rcases hp with hp | hp | hp <;> rw [hp] at hphase <;> cases hphase
    | active hp _ _ _ => rw [hp] at hphase; cases hphase
    | landing _ hn hstartup hsound hle hrequest hlt hanswer =>
      have hanswered := hanswer.older fun ⟨_, _, _, h, _⟩ => by cases h
      exact .completed rfl hn ⟨hstartup, hle, hrequest, hlt, hanswer, hanswered,
        Shown.newest h harmed, hsound.between _⟩
    | completed hp _ _ => rw [hp] at hphase; cases hphase
  | touchDown hb hphase hc => exact (hbegun hb hc).follow rfl id
  | @act b _ _ hb hc _ hact =>
    have hb' : Descent (_ :: h) { b with vehicleSystemId := vehicle.systemId } :=
      (hbegun hb hc).follow rfl id
    exact hb'.acts hb.phase (act_acts rfl hact)

end Updates

theorem Descent.unseen (hd : Descent h r) {call : AutonomyCall}
    (hcall : ∀ vehicle startup failsafe now landingTarget,
      call ≠ .update vehicle startup failsafe now landingTarget) :
    Descent (⟨r, call, out⟩ :: h) r :=
  hd.cons fun _ _ _ _ _ _ h => absurd h (hcall _ _ _ _ _)

theorem Descent.onActionSent (hd : Descent h r) (request : FlightActionRequest) (sent : Bool)
    (now : TimePoint) :
    Descent (⟨r, .onActionSent request sent now, []⟩ :: h) (r.onActionSent request sent now) := by
  have hd : Descent (⟨r, .onActionSent request sent now, []⟩ :: h) r :=
    hd.unseen fun _ _ _ _ _ h => by cases h
  rcases r.onActionSent_cases request sent now with ⟨_, _, hs⟩ | hs | ⟨_, _, hs | hs⟩
  · rw [hs]
    exact hd.follow rfl id
  · rw [hs]
    exact hd
  · rw [hs]
    exact hd.follow rfl fun h => absurd h Bool.false_ne_true
  · rw [hs]
    exact .fail r _

theorem Descent.onCommandAck (hd : Descent h r) (action : FlightAction)
    (outcome : FlightCommandAckOutcome) (rawResult source : UInt8) (now : TimePoint) :
    Descent (⟨r, .onCommandAck action outcome rawResult source now, []⟩ :: h)
      (r.onCommandAck action outcome rawResult source now) := by
  have hd : Descent (⟨r, .onCommandAck action outcome rawResult source now, []⟩ :: h) r :=
    hd.unseen fun _ _ _ _ _ h => by cases h
  rcases r.onCommandAck_cases action outcome rawResult source now with
    ⟨_, hs⟩ | ⟨hawaits, ⟨ho, hs⟩ | ⟨_, hs⟩ | ⟨_, detail, hs⟩⟩
  · rw [hs]
    exact hd
  · rw [hs]
    obtain ⟨haction, hwaiting, hsource⟩ := (r.awaits_iff action source).1 hawaits
    cases hd with
    | idle _ hn => rw [hwaiting] at hn; cases hn
    | active _ hstartup hsound hasked =>
      obtain ⟨asked, hle, hrequest⟩ := hasked hwaiting
      have hlt := hrequest.older fun ⟨_, ha, _⟩ => by cases ha
      exact .landing rfl rfl hstartup hsound hle hrequest hlt
        (Shown.newest h ⟨rawResult, source, now, by rw [haction, ho], hsource⟩)
    | landing _ hn _ _ _ _ _ _ => rw [hwaiting] at hn; cases hn
    | completed _ hn _ => rw [hwaiting] at hn; cases hn
  · rw [hs]
    exact hd.follow rfl id
  · rw [hs]
    exact .fail _ detail

theorem Descent.restart (r : AutonomyRuntime) : Descent [] r.restart := by
  refine .idle ?_ rfl
  rw [AutonomyRuntime.restart]
  dsimp only
  split
  · exact .inr (.inl rfl)
  · exact .inl rfl

/-- In every run the phase is backed by the calls since the last restart. -/
theorem descent_run {config : AutonomyRuntimeConfig} (hr : RanFreely config h r) :
    Descent (sinceRestart h) r := by
  obtain ⟨initial, hnew, hr⟩ := hr
  apply hr.history_invariant (fun h r => Descent (sinceRestart h) r)
  · rw [new_eq hnew]
    split
    · exact .restart _
    · exact .idle (.inl rfl) rfl
  intro h r call _ hd _
  cases call with
  | update vehicle startup failsafe now landingTarget =>
    rw [sinceRestart, since_keep _ rfl]
    exact hd.update (update_updated rfl)
  | onActionSent request sent now =>
    rw [sinceRestart, since_keep _ rfl]
    exact hd.onActionSent request sent now
  | onCommandAck action outcome rawResult source now =>
    rw [sinceRestart, since_keep _ rfl]
    exact hd.onCommandAck action outcome rawResult source now
  | restart =>
    rw [sinceRestart, since_cut _ rfl]
    exact .restart r

theorem evidence_of_landing {config : AutonomyRuntimeConfig} (hr : RanFreely config h r)
    (hc : r.phase = .completed) :
    ∃ begun asked answered landed,
      LandingEvidence (sinceRestart h) begun asked answered landed := by
  cases descent_run hr with
  | idle hphase _ => rcases hphase with h | h | h <;> rw [h] at hc <;> cases hc
  | active hphase _ _ _ => rw [hphase] at hc; cases hc
  | landing hphase _ _ _ _ _ _ _ => rw [hphase] at hc; cases hc
  | completed _ _ he => exact ⟨_, _, _, _, he⟩

end AutonomyRuntime

/-- Startup and landing count as completed only on evidence from the calls since the last restart,
in the order of the procedure. -/
theorem completed_on_evidence :
    (∀ config h c, FlightStartupController.Ran config h c → c.phase = .completed →
      ∃ s t latched readied guided armed climbed,
        FlightStartupController.OrderedEvidence config.takeoffAltitudeM
          (FlightStartupController.sinceRestart h) s t latched readied guided armed climbed) ∧
    (∀ config h r, AutonomyRuntime.RanFreely config h r → r.phase = .completed →
      ∃ begun asked answered landed,
        AutonomyRuntime.LandingEvidence (AutonomyRuntime.sinceRestart h) begun asked answered
          landed) := by
  constructor
  · intro config h c hr hc
    exact FlightStartupController.evidence_of_completed hr hc
  · intro config h r hr hc
    exact AutonomyRuntime.evidence_of_landing hr hc

section Procedures

def copter (flightMode : UInt32) (armed : Bool) (altitudeM : ℚ) : VehicleSnapshot where
  connected := true
  armed := armed
  armable := true
  systemId := some 1
  autopilotType := some 3
  vehicleType := some 2
  flightMode := some flightMode
  relativeAltitudeM := some (.finite altitudeM)

/-- An update with telemetry and failsafe policy in place. -/
def startupUpdate (vehicle : VehicleSnapshot) (second : Int) : StartupCall :=
  .update vehicle true { phase := .accepted } (seconds second)

/-- A copter is found ready, set to GUIDED mode, armed and flown to its altitude. -/
def startupCalls : List StartupCall :=
  [startupUpdate (copter 0 false 0) 0, .onCommandAck .setGuidedMode .accepted 0 1 (seconds 1),
   startupUpdate (copter 4 false 0) 2, .onCommandAck .arm .accepted 0 1 (seconds 3),
   startupUpdate (copter 4 true 0) 4, .onCommandAck .takeoff .accepted 0 1 (seconds 5),
   startupUpdate (copter 4 true 8) 6]

/-- Without a target LAND is requested after five seconds, accepted, and the copter lands. -/
def landingCalls : List AutonomyCall :=
  [.update (copter 4 true 8) { phase := .completed } { phase := .accepted } (seconds 7) none,
   .update (copter 4 true 8) { phase := .completed } { phase := .accepted } (seconds 12) none,
   .onCommandAck .land .accepted 0 1 (seconds 13),
   .update (copter 4 false 0) { phase := .completed } { phase := .accepted } (seconds 20) none]

def enabledStartup : FlightStartupController := .restart { config := { enabled := true } }

def enabledAutonomy : AutonomyRuntime := .restart { config := { enabled := true } }

theorem startup_ran (calls : List StartupCall)
    (ht : (calls.flatMap StartupCall.times).Pairwise (· ≤ ·)) :
    FlightStartupController.Ran { enabled := true }
      (play FlightStartupController.step [] enabledStartup calls).1
      (play FlightStartupController.step [] enabledStartup calls).2 := by
  refine ⟨enabledStartup, ?_, Run.start.play_timed ?_ ht⟩
  · rw [FlightStartupController.new, if_neg (by decide +kernel), if_pos rfl]
    rfl
  · intro e he
    cases he

theorem landing_ran (calls : List AutonomyCall)
    (ht : (calls.flatMap AutonomyCall.times).Pairwise (· ≤ ·)) :
    AutonomyRuntime.RanFreely { enabled := true }
      (play AutonomyRuntime.step [] enabledAutonomy calls).1
      (play AutonomyRuntime.step [] enabledAutonomy calls).2 := by
  refine ⟨enabledAutonomy, rfl, Run.start.play_timed ?_ ht⟩
  intro e he
  cases he

theorem completed_on_evidence_flown :
    (∃ h c, FlightStartupController.Ran { enabled := true } h c ∧ c.phase = .completed ∧
      ∃ s t latched readied guided armed climbed,
        FlightStartupController.OrderedEvidence (.finite 8)
          (FlightStartupController.sinceRestart h) s t latched readied guided armed climbed) ∧
    (∃ h r, AutonomyRuntime.RanFreely { enabled := true } h r ∧ r.phase = .completed ∧
      ∃ begun asked answered landed, AutonomyRuntime.LandingEvidence
        (AutonomyRuntime.sinceRestart h) begun asked answered landed) := by
  have hs := startup_ran startupCalls (by decide)
  have hl := landing_ran landingCalls (by decide)
  have hc : (play FlightStartupController.step [] enabledStartup startupCalls).2.phase =
      .completed := by decide +kernel
  have hd : (play AutonomyRuntime.step [] enabledAutonomy landingCalls).2.phase = .completed := by
    decide +kernel
  exact ⟨⟨_, _, hs, hc, completed_on_evidence.1 _ _ _ hs hc⟩,
    ⟨_, _, hl, hd, completed_on_evidence.2 _ _ _ hl hd⟩⟩

/-- A completed startup does not notice that the vehicle is lost later. -/
theorem completed_but_lost :
    ∃ h c, FlightStartupController.Ran { enabled := true } h c ∧ c.phase = .completed ∧
      ¬∃ s t latched, Shown (FlightStartupController.sinceRestart h) latched
          (FlightStartupController.FindsCopter s t) ∧
        FromOn (FlightStartupController.sinceRestart h) latched
          FlightStartupController.Connected := by
  have hs := startup_ran (startupCalls ++ [startupUpdate {} 7]) (by decide)
  refine ⟨_, _, hs, by decide +kernel, ?_⟩
  rintro ⟨s, t, latched, hfound, hconnected⟩
  have hlost := hconnected _ _ (Nat.le_of_lt_succ hfound.lt_length) (At.newest _ _) {} true
    { phase := .accepted } (seconds 7) rfl
  cases hlost

end Procedures
end OnboardAutonomy
