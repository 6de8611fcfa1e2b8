import OnboardAutonomy.Histories
import OnboardAutonomy.TelemetryStreamConfigurator

namespace OnboardAutonomy
open Histories
set_option autoImplicit true

inductive TelemetryCall where
  | update (connected : Bool) (vehicleSystemId : Option UInt8) (now : TimePoint)
  | commandAck (ack : CommandAck) (now : TimePoint)

abbrev TelemetryEntry :=
  Entry TelemetryStreamConfigurator TelemetryCall (Option MessageIntervalRequest)

/-- The stream of the table that a request is for. -/
def MessageIntervalRequest.stream (r : MessageIntervalRequest) : Nat :=
  kStreamRequests.findIdx (·.messageId == r.messageId)

namespace TelemetryCall

def time : TelemetryCall → TimePoint
  | update _ _ now => now
  | commandAck _ now => now

/-- The vehicle an update tells of. -/
def vehicle : TelemetryCall → Option (Option UInt8)
  | update connected vehicleSystemId _ => some (if connected then vehicleSystemId else none)
  | commandAck _ _ => none

end TelemetryCall

namespace TelemetryStreamConfigurator

def step (c : TelemetryStreamConfigurator) :
    TelemetryCall → TelemetryStreamConfigurator × Option MessageIntervalRequest
  | .update connected vehicleSystemId now => c.update connected vehicleSystemId now
  | .commandAck ack now => (c.onCommandAck ack now, none)

/-- The runs of the configurator, with calls in any order and at any times. -/
def Ran (h : List TelemetryEntry) (c : TelemetryStreamConfigurator) : Prop :=
  Run step (fun _ _ _ => True) {} h c

/-- The configurator an update goes on with. -/
def joined (c : TelemetryStreamConfigurator) (id : UInt8) : TelemetryStreamConfigurator :=
  if c.vehicleSystemId = some id then c else begin id

/-- The index a call looks up in the table, if it does. -/
def lookup (c : TelemetryStreamConfigurator) : TelemetryCall → Option Nat
  | .update true (some id) now =>
    let c := c.joined id
    if c.phase ≠ .configuring ∨
        c.awaitingAck = true ∧ (now < c.acknowledgementDeadline ∨ kMaximumAttempts ≤ c.attempt) then
      none
    else some c.currentRequest
  | _ => none

/-- What an update with a connected vehicle does, once it has begun or goes on. -/
inductive Updated (c : TelemetryStreamConfigurator) (id : UInt8) (now : TimePoint) :
    TelemetryStreamConfigurator → Option MessageIntervalRequest → Prop where
  | rest : c.phase ≠ .configuring → Updated c id now c none
  | wait : c.phase = .configuring → c.awaitingAck = true → now < c.acknowledgementDeadline →
      Updated c id now c none
  | giveUp : c.phase = .configuring → c.awaitingAck = true → kMaximumAttempts ≤ c.attempt →
      Updated c id now { c with phase := .failed, failureResult := none } none
  | send (row : StreamRequest) : c.phase = .configuring →
      (c.awaitingAck = true → c.acknowledgementDeadline ≤ now ∧ c.attempt < kMaximumAttempts) →
      kStreamRequests[c.currentRequest]? = some row →
      Updated c id now { c with
          attempt := c.attempt + 1
          awaitingAck := true
          acknowledgementDeadline := now + kAcknowledgementTimeout }
        (some {
          vehicleSystemId := id
          messageId := row.messageId
          intervalMicroseconds := row.intervalMicroseconds
          confirmation := UInt8.ofNat c.attempt })
  | beyond : c.phase = .configuring → kStreamRequests[c.currentRequest]? = none →
      Updated c id now { c with awaitingAck := false } none

theorem update_updated (c : TelemetryStreamConfigurator) (id : UInt8) (now : TimePoint) :
    Updated (c.joined id) id now (c.update true (some id) now).1
      (c.update true (some id) now).2 := by
  simp only [update]
  rw [← joined]
  generalize c.joined id = d
  split
  · rename_i hrest
    exact .rest hrest
  rename_i hconfiguring
  rw [ne_eq, not_not] at hconfiguring
  split
  · rename_i hwait
    rw [Bool.and_eq_true, decide_eq_true_eq] at hwait
    exact .wait hconfiguring hwait.1 hwait.2
  rename_i hlate
  rw [Bool.and_eq_true, decide_eq_true_eq, not_and, Int.not_lt] at hlate
  split
  · rename_i hgiveUp
    rw [Bool.and_eq_true, decide_eq_true_eq] at hgiveUp
    exact .giveUp hconfiguring hgiveUp.1 hgiveUp.2
  rename_i htry
  rw [Bool.and_eq_true, decide_eq_true_eq, not_and, Nat.not_le] at htry
  rw [request]
  dsimp only
  split
  · rename_i hbeyond
    exact .beyond hconfiguring hbeyond
  · rename_i row hrow
    exact .send row hconfiguring (fun ha => ⟨hlate ha, htry ha⟩) hrow

/-- What an acknowledgement does. -/
inductive Acknowledged (c : TelemetryStreamConfigurator) (ack : CommandAck) (now : TimePoint) :
    TelemetryStreamConfigurator → Prop where
  | ignored : c.awaits ack = false → Acknowledged c ack now c
  | extended : c.awaits ack = true → ack.result = MAV_RESULT_IN_PROGRESS →
      Acknowledged c ack now { c with acknowledgementDeadline := now + kAcknowledgementTimeout }
  | rejected : c.awaits ack = true → ack.result ≠ MAV_RESULT_IN_PROGRESS →
      ack.result ≠ MAV_RESULT_ACCEPTED →
      Acknowledged c ack now { c with
        phase := .failed
        failureResult := some ack.result
        awaitingAck := false }
  | credited (phase : TelemetrySetupPhase) : c.awaits ack = true →
      ack.result = MAV_RESULT_ACCEPTED →
      phase = (if c.currentRequest + 1 = kStreamRequests.length then .active else .configuring) →
      Acknowledged c ack now { c with
        completedRequests := c.completedRequests + 1
        currentRequest := c.currentRequest + 1
        attempt := 0
        awaitingAck := false
        failureResult := none
        phase := phase }

theorem awaits_configuring {c : TelemetryStreamConfigurator} {ack : CommandAck}
    (h : c.awaits ack = true) :
    c.phase = .configuring ∧ c.awaitingAck = true ∧ ack.command = MAV_CMD_SET_MESSAGE_INTERVAL ∧
      c.vehicleSystemId = some ack.sourceSystem ∧
      (ack.targetSystem = 0 ∨ c.vehicleSystemId = some ack.targetSystem) ∧
      (ack.targetComponent = 0 ∨ ack.targetComponent = kCompanionComponentId) := by
  simpa only [awaits, Bool.and_eq_true, Bool.or_eq_true, beq_iff_eq, and_assoc] using h

theorem onCommandAck_acknowledged (c : TelemetryStreamConfigurator) (ack : CommandAck)
    (now : TimePoint) : Acknowledged c ack now (c.onCommandAck ack now) := by
  rw [onCommandAck]
  split
  · rename_i hignored
    exact .ignored (Bool.not_eq_true' _ ▸ hignored)
  rename_i hawaits
  rw [Bool.not_eq_true', Bool.not_eq_false] at hawaits
  split
  · rename_i hprogress
    exact .extended hawaits hprogress
  rename_i hprogress
  split
  · rename_i hrejected
    exact .rejected hawaits hprogress hrejected
  rename_i haccepted
  rw [ne_eq, not_not] at haccepted
  rw [(awaits_configuring hawaits).1]
  exact .credited _ hawaits haccepted rfl

end TelemetryStreamConfigurator

namespace TelemetryEntry

/-- An acceptance that was waited for. -/
def credited (e : TelemetryEntry) : Bool :=
  match e.input with
  | .commandAck ack _ => e.before.awaits ack && ack.result == MAV_RESULT_ACCEPTED
  | .update _ _ _ => false

def after (e : TelemetryEntry) : TelemetryStreamConfigurator :=
  Entry.after TelemetryStreamConfigurator.step e

end TelemetryEntry

section Sessions

/-- The vehicle of the open session, if one is open: the one of the newest update. -/
def openFor (h : List TelemetryEntry) : Option UInt8 := (latest (·.input.vehicle) h).join

/-- The calls of the open session, newest first, with the update that began it. -/
def session : List TelemetryEntry → List TelemetryEntry
  | [] => []
  | e :: h =>
    if openFor (e :: h) = none then []
    else if openFor (e :: h) = openFor h then e :: session h
    else [e]

/-- The requests a list of calls has returned. -/
def requests (es : List TelemetryEntry) : List MessageIntervalRequest := es.filterMap (·.output)

def credits (es : List TelemetryEntry) : Nat := es.countP TelemetryEntry.credited

/-- When the newest request was made, or was last said to be in progress, unless it has been
acknowledged. -/
def waitsSince : List TelemetryEntry → Option TimePoint
  | [] => none
  | e :: es =>
    match e.input with
    | .update _ _ now => if e.output.isSome then some now else waitsSince es
    | .commandAck ack now =>
      if !e.before.awaits ack then waitsSince es
      else if ack.result = MAV_RESULT_IN_PROGRESS then some now
      else none

theorem openFor_update {e : TelemetryEntry} (h : List TelemetryEntry)
    (he : e.input = .update connected vehicleSystemId now) :
    openFor (e :: h) = if connected then vehicleSystemId else none := by
  rw [openFor, latest_cons, he, TelemetryCall.vehicle, Option.some_or]
  rfl

theorem openFor_ack {e : TelemetryEntry} {ack : CommandAck} (h : List TelemetryEntry)
    (he : e.input = .commandAck ack now) : openFor (e :: h) = openFor h := by
  rw [openFor, latest_cons, he, TelemetryCall.vehicle, Option.none_or]
  rfl

theorem session_closed (ho : openFor (e :: h) = none) : session (e :: h) = [] := if_pos ho

theorem session_continues {system : UInt8} (hid : openFor (e :: h) = some system)
    (ho : openFor h = some system) : session (e :: h) = e :: session h := by
  rw [session, hid, ho, if_neg (by exact fun h => by cases h), if_pos rfl]

theorem session_begins {system : UInt8} (hid : openFor (e :: h) = some system)
    (ho : openFor h ≠ some system) : session (e :: h) = [e] := by
  rw [session, hid, if_neg (by exact fun h => by cases h), if_neg (fun h => ho h.symm)]

theorem session_none (ho : openFor h = none) : session h = [] := by
  cases h with
  | nil => rfl
  | cons e h => exact session_closed ho

theorem requests_cons (e : TelemetryEntry) (es : List TelemetryEntry) :
    requests (e :: es) = e.output.toList ++ requests es := filterMap_cons_toList _ e es

theorem credits_cons (e : TelemetryEntry) (es : List TelemetryEntry) :
    credits (e :: es) = credits es + if e.credited then 1 else 0 := List.countP_cons

theorem requests_silent (hout : e.output = none) : requests (e :: es) = requests es := by
  rw [requests_cons, hout]
  rfl

theorem credits_uncredited (he : e.credited = false) : credits (e :: es) = credits es := by
  rw [credits_cons, he]
  rfl

theorem credited_update {e : TelemetryEntry}
    (he : e.input = .update connected vehicleSystemId now) : e.credited = false := by
  rw [TelemetryEntry.credited, he]

theorem waitsSince_silent (he : e.input = .update connected vehicleSystemId now)
    (hout : e.output = none) : waitsSince (e :: es) = waitsSince es := by
  rw [waitsSince, he]
  dsimp only
  rw [hout]
  rfl

/-- How often a stream has been asked for. -/
def asked (stream : Nat) (es : List TelemetryEntry) : Nat :=
  (requests es).countP (·.stream == stream)

theorem requests_request (hout : e.output = some r) : requests (e :: es) = r :: requests es := by
  rw [requests_cons, hout]
  rfl

theorem asked_request (hout : e.output = some r) (hs : r.stream = n) :
    asked n (e :: es) = asked n es + 1 := by
  rw [asked, requests_request hout]
  exact List.countP_cons_of_pos (beq_iff_eq.2 hs)

/-- A request that its session allows: for the stream after the ones that were accepted, with the
row of the table, not while an earlier one is waited for, and for a stream that has been asked for
less than three times, a number that it carries. -/
structure Allowed (system : UInt8) (es : List TelemetryEntry) (r : MessageIntervalRequest)
    (now : TimePoint) : Prop where
  vehicle : r.vehicleSystemId = system
  stream : r.stream = credits es
  row : ∃ row, kStreamRequests[r.stream]? = some row ∧ row.messageId = r.messageId ∧
    row.intervalMicroseconds = r.intervalMicroseconds
  due : ∀ t, waitsSince es = some t →
    t + TelemetryStreamConfigurator.kAcknowledgementTimeout ≤ now
  confirmation : r.confirmation = UInt8.ofNat (asked r.stream es)
  attempts : asked r.stream es < TelemetryStreamConfigurator.kMaximumAttempts

/-- Every request of the session was allowed by what came before it. -/
def AllAllowed (system : UInt8) (es : List TelemetryEntry) : Prop :=
  ∀ e older r, e :: older <:+ es → e.output = some r → Allowed system older r e.input.time

theorem AllAllowed.cons (h : AllAllowed system es)
    (he : ∀ r, e.output = some r → Allowed system es r e.input.time) :
    AllAllowed system (e :: es) := by
  intro x older r hx hr
  rcases List.suffix_cons_iff.1 hx with heq | hx
  · obtain ⟨hhead, htail⟩ := List.cons.inj heq
    rw [hhead] at hr ⊢
    rw [htail]
    exact he r hr
  · exact h x older r hx hr

theorem AllAllowed.silent (h : AllAllowed system es) (hout : e.output = none) :
    AllAllowed system (e :: es) := by
  apply h.cons
  intro r hr
  rw [hout] at hr
  cases hr

theorem stream_row (h : kStreamRequests[i]? = some row) :
    kStreamRequests.findIdx (·.messageId == row.messageId) = i := by
  have hi : i < kStreamRequests.length := (List.getElem?_eq_some_iff.1 h).1
  match i, hi with
  | 0, _ | 1, _ | 2, _ | 3, _ | 4, _ | 5, _ => cases h; rfl

end Sessions

def TelemetrySetupPhase.ended : TelemetrySetupPhase → Bool
  | .failed | .active => true
  | .waitingForVehicle | .configuring => false

namespace TelemetryStreamConfigurator

/-- Once the setup has ended it stays as it is, and nothing is requested. -/
def StaysEnded (es : List TelemetryEntry) (c : TelemetryStreamConfigurator) : Prop :=
  ∀ newer e older, es = newer ++ e :: older → e.after.phase.ended = true →
    c.phase.ended = true ∧ requests newer = []

theorem StaysEnded.cons (h : StaysEnded es c) (ha : e.after = c')
    (hkeep : c.phase.ended = true → c' = c ∧ e.output = none) : StaysEnded (e :: es) c' := by
  intro newer x older hsplit hx
  cases newer with
  | nil =>
    rw [List.nil_append] at hsplit
    rw [← (List.cons.inj hsplit).1, ha] at hx
    exact ⟨hx, rfl⟩
  | cons y newer =>
    obtain ⟨hy, hes⟩ := List.cons.inj hsplit
    obtain ⟨hended, hnone⟩ := h newer x older hes hx
    obtain ⟨hc, hout⟩ := hkeep hended
    rw [← hy, requests_cons, hout, hnone, hc]
    exact ⟨hended, rfl⟩

/-- The state of the configurator is what the calls of the open session say. -/
structure Open (system : UInt8) (es : List TelemetryEntry) (c : TelemetryStreamConfigurator) :
    Prop where
  vehicle : c.vehicleSystemId = some system
  counted : c.completedRequests = c.currentRequest
  credits : c.currentRequest = credits es
  phases : (c.phase = .configuring ∨ c.phase = .failed) ∧
      c.currentRequest < kStreamRequests.length ∨
    c.phase = .active ∧ c.currentRequest = kStreamRequests.length
  waiting : c.phase = .configuring → (waitsSince es).map (· + kAcknowledgementTimeout) =
    if c.awaitingAck then some c.acknowledgementDeadline else none
  attempts : c.phase = .configuring → c.attempt = asked c.currentRequest es
  fresh : c.phase = .configuring → c.awaitingAck = false → c.attempt = 0
  streams : ∀ r ∈ requests es, r.stream ≤ c.currentRequest
  allowed : AllAllowed system es
  ended : StaysEnded es c

theorem Open.begin (system : UInt8) : Open system [] (begin system) where
  vehicle := rfl
  counted := rfl
  credits := rfl
  phases := .inl ⟨.inl rfl, Nat.zero_lt_succ 5⟩
  waiting _ := rfl
  attempts _ := rfl
  fresh _ _ := rfl
  streams _ hr := by cases hr
  allowed _ _ _ he _ := by cases List.suffix_nil.1 he
  ended newer e older hsplit _ := by cases newer <;> cases hsplit

theorem Open.configuring (ho : Open system es c) (hc : c.phase = .configuring) :
    c.currentRequest < kStreamRequests.length := by
  rcases ho.phases with ⟨_, hlt⟩ | ⟨hactive, _⟩
  · exact hlt
  · rw [hc] at hactive
    cases hactive

theorem Open.passed (ho : Open system es c) (hout : e.output = none)
    (hcredited : e.credited = false) (hwaits : waitsSince (e :: es) = waitsSince es)
    (ha : e.after = c) : Open system (e :: es) c where
  vehicle := ho.vehicle
  counted := ho.counted
  credits := by rw [credits_uncredited hcredited]; exact ho.credits
  phases := ho.phases
  waiting := by rw [hwaits]; exact ho.waiting
  attempts := by rw [asked, requests_silent hout]; exact ho.attempts
  fresh := ho.fresh
  streams := by rw [requests_silent hout]; exact ho.streams
  allowed := ho.allowed.silent hout
  ended := ho.ended.cons ha fun _ => ⟨rfl, hout⟩

theorem Open.failed (ho : Open system es c) (hc : c.phase = .configuring)
    (hout : e.output = none) (hcredited : e.credited = false)
    (ha : e.after = { c with
      phase := .failed, failureResult := result, awaitingAck := awaiting }) :
    Open system (e :: es) { c with
      phase := .failed, failureResult := result, awaitingAck := awaiting } where
  vehicle := ho.vehicle
  counted := ho.counted
  credits := by rw [credits_uncredited hcredited]; exact ho.credits
  phases := .inl ⟨.inr rfl, ho.configuring hc⟩
  waiting h := by cases h
  attempts h := by cases h
  fresh h := by cases h
  streams := by rw [requests_silent hout]; exact ho.streams
  allowed := ho.allowed.silent hout
  ended := ho.ended.cons ha fun h => by rw [hc] at h; cases h

theorem Open.attempt_lt (ho : Open system es c) (hc : c.phase = .configuring)
    (hdue : c.awaitingAck = true → c.acknowledgementDeadline ≤ now ∧ c.attempt < kMaximumAttempts) :
    c.attempt < kMaximumAttempts := by
  cases hawaiting : c.awaitingAck with
  | true => exact (hdue hawaiting).2
  | false =>
    rw [ho.fresh hc hawaiting]
    decide

theorem Open.due (ho : Open system es c) (hc : c.phase = .configuring)
    (hdue : c.awaitingAck = true → c.acknowledgementDeadline ≤ now ∧ c.attempt < kMaximumAttempts)
    (ht : waitsSince es = some t) : t + kAcknowledgementTimeout ≤ now := by
  have hwaiting := ho.waiting hc
  rw [ht, Option.map_some] at hwaiting
  cases hawaiting : c.awaitingAck with
  | true =>
    rw [hawaiting, if_pos rfl, Option.some.injEq] at hwaiting
    rw [hwaiting]
    exact (hdue hawaiting).1
  | false =>
    rw [hawaiting] at hwaiting
    cases hwaiting

theorem Open.update (ho : Open system es c) (hu : Updated c system now c' out)
    (he : e.input = .update true (some system) now) (hout : e.output = out) (ha : e.after = c') :
    Open system (e :: es) c' := by
  have hcredited : e.credited = false := credited_update he
  cases hu with
  | rest hrest => exact ho.passed hout hcredited (waitsSince_silent he hout) ha
  | wait hc hawaiting hearly => exact ho.passed hout hcredited (waitsSince_silent he hout) ha
  | giveUp hc hawaiting hlast => exact ho.failed hc hout hcredited ha
  | send row hc hdue hrow =>
    have hstream : (⟨system, row.messageId, row.intervalMicroseconds, UInt8.ofNat c.attempt,
        kCompanionComponentId⟩ : MessageIntervalRequest).stream = c.currentRequest :=
      stream_row hrow
    have hasked := ho.attempts hc
    exact {
      vehicle := ho.vehicle
      counted := ho.counted
      credits := by rw [credits_uncredited hcredited]; exact ho.credits
      phases := ho.phases
      waiting := fun _ => by
        rw [waitsSince, he]
        dsimp only
        rw [hout]
        rfl
      attempts := fun _ => (congrArg (· + 1) hasked).trans (asked_request hout hstream).symm
      fresh := fun _ h => by cases h
      streams := by
        intro r hr
        rw [requests_request hout, List.mem_cons] at hr
        rcases hr with hr | hr
        · rw [hr, hstream]
        · exact ho.streams r hr
      allowed := ho.allowed.cons fun r hr => by
        rw [hout] at hr
        cases hr
        rw [he]
        exact {
          vehicle := rfl
          stream := hstream.trans ho.credits
          row := ⟨row, by rw [hstream]; exact hrow, rfl, rfl⟩
          due := fun t ht => ho.due hc hdue ht
          confirmation := by rw [hstream, ← hasked]
          attempts := by rw [hstream, ← hasked]; exact ho.attempt_lt hc hdue }
      ended := ho.ended.cons ha fun h => by rw [hc] at h; cases h }
  | beyond hc hrow =>
    rw [List.getElem?_eq_none_iff] at hrow
    exact absurd (ho.configuring hc) (Nat.not_lt.2 hrow)

theorem asked_above (hn : ∀ r ∈ requests es, r.stream < n) : asked n es = 0 := by
  rw [asked, List.countP_eq_zero]
  intro r hr
  rw [beq_iff_eq]
  exact (hn r hr).ne

theorem Open.ack {ack : CommandAck} (ho : Open system es c) (hk : Acknowledged c ack now c')
    (ha : Entry.after step ⟨c, .commandAck ack now, none⟩ = c') :
    Open system (⟨c, .commandAck ack now, none⟩ :: es) c' := by
  obtain ⟨e, he⟩ : ∃ e : TelemetryEntry, e = ⟨c, .commandAck ack now, none⟩ := ⟨_, rfl⟩
  rw [← he] at ha ⊢
  have hout : e.output = none := by rw [he]
  have hcredited : e.credited = (c.awaits ack && ack.result == MAV_RESULT_ACCEPTED) := by
    rw [he]
    rfl
  have hended (hawaits : c.awaits ack = true) (h : c.phase.ended = true) :
      c' = c ∧ e.output = none := by
    rw [(awaits_configuring hawaits).1] at h
    cases h
  cases hk with
  | ignored hawaits =>
    rw [hawaits] at hcredited
    have hwaits : waitsSince (e :: es) = waitsSince es := by
      rw [waitsSince, he]
      dsimp only
      rw [hawaits]
      rfl
    exact ho.passed hout hcredited hwaits ha
  | extended hawaits hprogress =>
    rw [hawaits, hprogress] at hcredited
    exact {
      vehicle := ho.vehicle
      counted := ho.counted
      credits := by rw [credits_uncredited hcredited]; exact ho.credits
      phases := ho.phases
      waiting := fun _ => by
        rw [waitsSince, he]
        dsimp only
        rw [hawaits, (awaits_configuring hawaits).2.1, hprogress]
        rfl
      attempts := by rw [asked, requests_silent hout]; exact ho.attempts
      fresh := ho.fresh
      streams := by rw [requests_silent hout]; exact ho.streams
      allowed := ho.allowed.silent hout
      ended := ho.ended.cons ha (hended hawaits) }
  | rejected hawaits hprogress hrejected =>
    rw [hawaits, beq_eq_false_iff_ne.2 hrejected] at hcredited
    exact ho.failed (awaits_configuring hawaits).1 hout hcredited ha
  | credited phase hawaits haccepted hphase =>
    rw [hawaits, haccepted] at hcredited
    have hbelow := ho.configuring (awaits_configuring hawaits).1
    exact {
      vehicle := ho.vehicle
      counted := congrArg (· + 1) ho.counted
      credits := by
        rw [credits_cons, hcredited, ← ho.credits]
        rfl
      phases := by
        dsimp only
        rw [hphase]
        split
        · rename_i hlast
          exact .inr ⟨rfl, hlast⟩
        · rename_i hmore
          exact .inl ⟨.inl rfl, Nat.lt_of_le_of_ne hbelow hmore⟩
      waiting := fun _ => by
        rw [waitsSince, he]
        dsimp only
        rw [hawaits, haccepted]
        rfl
      attempts := fun _ => by
        rw [asked, requests_silent hout]
        exact (asked_above fun r hr => Nat.lt_succ_of_le (ho.streams r hr)).symm
      fresh := fun _ _ => rfl
      streams := by
        intro r hr
        rw [requests_silent hout] at hr
        exact Nat.le_succ_of_le (ho.streams r hr)
      allowed := ho.allowed.silent hout
      ended := ho.ended.cons ha (hended hawaits) }

/-- No session is open and the configurator is as it was made, or its state is what the open
session says. -/
inductive Tracked (h : List TelemetryEntry) : TelemetryStreamConfigurator → Prop where
  | closed : openFor h = none → Tracked h reset
  | opened (system : UInt8) : openFor h = some system → Open system (session h) c → Tracked h c

theorem Tracked.update (ht : Tracked h c) (connected : Bool) (vehicleSystemId : Option UInt8)
    (now : TimePoint) :
    Tracked (⟨c, .update connected vehicleSystemId now,
      (c.update connected vehicleSystemId now).2⟩ :: h)
      (c.update connected vehicleSystemId now).1 := by
  obtain ⟨e, he⟩ : ∃ e : TelemetryEntry, e = ⟨c, .update connected vehicleSystemId now,
      (c.update connected vehicleSystemId now).2⟩ := ⟨_, rfl⟩
  have hinput : e.input = .update connected vehicleSystemId now := by rw [he]
  have hopen := openFor_update h hinput
  rw [← he]
  cases connected with
  | false => exact .closed hopen
  | true =>
    cases vehicleSystemId with
    | none => exact .closed hopen
    | some system =>
      rw [if_pos rfl] at hopen
      have hu := c.update_updated system now
      have hout : e.output = (c.update true (some system) now).2 := by rw [he]
      have hafter : e.after = (c.update true (some system) now).1 := by rw [he]; rfl
      have hbegin (hother : openFor h ≠ some system) (hv : c.vehicleSystemId ≠ some system) :
          Tracked (e :: h) (c.update true (some system) now).1 := by
        rw [joined, if_neg hv] at hu
        apply Tracked.opened system hopen
        rw [session_begins hopen hother]
        exact (Open.begin system).update hu hinput hout hafter
      cases ht with
      | closed hnone =>
        apply hbegin
        · rw [hnone]
          exact fun h => by cases h
        · exact fun h => by cases h
      | opened old hold ho =>
        by_cases hsame : old = system
        · subst hsame
          rw [joined, if_pos ho.vehicle] at hu
          apply Tracked.opened old hopen
          rw [session_continues hopen hold]
          exact ho.update hu hinput hout hafter
        · apply hbegin
          · rw [hold]
            exact fun h => hsame (Option.some.inj h)
          · rw [ho.vehicle]
            exact fun h => hsame (Option.some.inj h)

theorem Tracked.ack (ht : Tracked h c) (ack : CommandAck) (now : TimePoint) :
    Tracked (⟨c, .commandAck ack now, none⟩ :: h) (c.onCommandAck ack now) := by
  have hopen := openFor_ack (e := ⟨c, .commandAck ack now, none⟩) h rfl
  have hk := c.onCommandAck_acknowledged ack now
  cases ht with
  | closed hnone => exact .closed (hopen.trans hnone)
  | opened system hold ho =>
    apply Tracked.opened system (hopen.trans hold)
    rw [session_continues (hopen.trans hold) hold]
    exact ho.ack hk rfl

theorem ran_tracked (hr : Ran h c) : Tracked h c := by
  apply hr.history_invariant Tracked
  · exact .closed rfl
  · intro h c call _ ht _
    cases call with
    | update connected vehicleSystemId now => exact ht.update connected vehicleSystemId now
    | commandAck ack now => exact ht.ack ack now

theorem Tracked.vehicle (ht : Tracked h c) : c.vehicleSystemId = openFor h := by
  cases ht with
  | closed hnone => exact hnone.symm
  | opened system hold ho => exact ho.vehicle.trans hold.symm

theorem Tracked.lookup_lt (ht : Tracked h c) (hl : c.lookup call = some n) :
    n < kStreamRequests.length := by
  unfold lookup at hl
  split at hl
  · rename_i system now
    dsimp only at hl
    split at hl
    · cases hl
    rename_i hbusy
    rw [not_or, ne_eq, not_not] at hbusy
    cases hl
    rw [joined] at hbusy ⊢
    split
    · rename_i hv
      rw [if_pos hv] at hbusy
      cases ht with
      | closed _ => cases hv
      | opened old _ ho => exact ho.configuring hbusy.1
    · exact Nat.zero_lt_succ 5
  · cases hl

end TelemetryStreamConfigurator

section Sessions

theorem credits_le (e : TelemetryEntry) (es : List TelemetryEntry) :
    credits es ≤ credits (e :: es) := by
  rw [credits_cons]
  exact Nat.le_add_right _ _

theorem AllAllowed.older (h : AllAllowed system (e :: es)) : AllAllowed system es :=
  fun x older r hx hr => h x older r (hx.trans (List.suffix_cons e es)) hr

theorem AllAllowed.streams (h : AllAllowed system es) :
    ∀ r ∈ requests es, r.stream ≤ credits es := by
  induction es with
  | nil => exact fun r hr => absurd hr List.not_mem_nil
  | cons e es ih =>
    intro r hr
    rw [requests_cons, List.mem_append, Option.mem_toList] at hr
    rcases hr with hr | hr
    · exact (h e es r (List.suffix_refl _) hr).stream.trans_le (credits_le e es)
    · exact (ih h.older r hr).trans (credits_le e es)

theorem AllAllowed.ordered (h : AllAllowed system es) :
    (requests es).Pairwise fun later earlier => earlier.stream ≤ later.stream := by
  induction es with
  | nil => exact .nil
  | cons e es ih =>
    cases hout : e.output with
    | none =>
      rw [requests_silent hout]
      exact ih h.older
    | some r =>
      rw [requests_request hout, List.pairwise_cons]
      refine ⟨fun r' hr' => ?_, ih h.older⟩
      rw [(h e es r (List.suffix_refl _) hout).stream]
      exact h.older.streams r' hr'

/-- The confirmation numbers of the requests for a stream, newest first. -/
def confirmations (stream : Nat) (es : List TelemetryEntry) : List UInt8 :=
  ((requests es).filter (·.stream == stream)).map (·.confirmation)

theorem confirmations_same (hout : e.output = some r) (hr : r.stream = stream) :
    confirmations stream (e :: es) = r.confirmation :: confirmations stream es := by
  simp only [confirmations, requests_request hout, List.filter_cons, hr, beq_self_eq_true, if_true,
    List.map_cons]

theorem confirmations_other (hout : e.output = some r) (hr : r.stream ≠ stream) :
    confirmations stream (e :: es) = confirmations stream es ∧
      asked stream (e :: es) = asked stream es := by
  simp only [confirmations, asked, requests_request hout, List.filter_cons, List.countP_cons,
    beq_eq_false_iff_ne.2 hr, Bool.false_eq_true, if_false, Nat.add_zero, and_self]

theorem AllAllowed.confirmed (h : AllAllowed system es) (stream : Nat) :
    confirmations stream es = [2, 1, 0].drop (3 - asked stream es) ∧ asked stream es ≤ 3 := by
  induction es with
  | nil => exact ⟨rfl, Nat.zero_le 3⟩
  | cons e es ih =>
    obtain ⟨hold, hle⟩ := ih h.older
    cases hout : e.output with
    | none =>
      rw [confirmations, asked, requests_silent hout]
      exact ⟨hold, hle⟩
    | some r =>
      by_cases hr : r.stream = stream
      · have hallowed := h e es r (List.suffix_refl _) hout
        have hfew := hallowed.attempts
        have hnumber := hallowed.confirmation
        rw [hr] at hfew hnumber
        rw [asked_request hout hr, confirmations_same hout hr, hold, hnumber]
        generalize asked stream es = n at hfew
        match n, hfew with
        | 0, _ | 1, _ | 2, _ => exact ⟨rfl, by decide⟩
      · have hother : confirmations stream (e :: es) = confirmations stream es ∧
            asked stream (e :: es) = asked stream es := confirmations_other hout hr
        rw [hother.1, hother.2]
        exact ⟨hold, hle⟩

end Sessions

/-- What holds of the telemetry setup after any calls at any times. -/
structure SetupProtocol (h : List TelemetryEntry) (c : TelemetryStreamConfigurator) : Prop where
  counts : c.currentRequest = c.completedRequests ∧ c.completedRequests ≤ 6
  inTable : ∀ e ∈ h, ∀ n, e.before.lookup e.input = some n → n < kStreamRequests.length
  active : c.phase = .active ↔ openFor h ≠ none ∧ c.completedRequests = 6
  ordered : (requests (session h)).Pairwise fun later earlier => earlier.stream ≤ later.stream
  allowed : ∀ system, openFor h = some system → AllAllowed system (session h)
  confirmed : ∀ stream, confirmations stream (session h) <:+ [2, 1, 0]
  inSession : ∀ e older, h = e :: older → e.output ≠ none → ∃ es, session h = e :: es
  ignored : ∀ ack now,
    c.phase ≠ .configuring ∨ waitsSince (session h) = none ∨
        ack.command ≠ MAV_CMD_SET_MESSAGE_INTERVAL ∨ openFor h ≠ some ack.sourceSystem ∨
        (ack.targetSystem ≠ 0 ∧ openFor h ≠ some ack.targetSystem) ∨
        (ack.targetComponent ≠ 0 ∧ ack.targetComponent ≠ kCompanionComponentId) →
      c.onCommandAck ack now = c
  ended : ∀ newer e older, session h = newer ++ e :: older → e.after.phase.ended = true →
    requests newer = []

namespace TelemetryStreamConfigurator

theorem Tracked.counts (ht : Tracked h c) :
    (c.currentRequest = c.completedRequests ∧ c.completedRequests ≤ 6) ∧
      (c.phase = .active ↔ openFor h ≠ none ∧ c.completedRequests = 6) := by
  cases ht with
  | closed hnone =>
    refine ⟨⟨rfl, Nat.zero_le 6⟩, fun h => (by cases h), fun h => absurd hnone h.1⟩
  | opened system hold ho =>
    have hopen : openFor h ≠ none := by
      rw [hold]
      exact fun h => by cases h
    rw [ho.counted]
    rcases ho.phases with ⟨hphase, hlt⟩ | ⟨hactive, heq⟩
    · refine ⟨⟨rfl, Nat.le_of_lt hlt⟩, fun h => ?_, fun h => absurd h.2 (Nat.ne_of_lt hlt)⟩
      rw [h] at hphase
      rcases hphase with h | h
      · cases h
      · cases h
    · exact ⟨⟨rfl, Nat.le_of_eq heq⟩, fun _ => ⟨hopen, heq⟩, fun _ => hactive⟩

theorem Tracked.ignored (ht : Tracked h c) (ack : CommandAck) (now : TimePoint)
    (hi : c.phase ≠ .configuring ∨ waitsSince (session h) = none ∨
      ack.command ≠ MAV_CMD_SET_MESSAGE_INTERVAL ∨ openFor h ≠ some ack.sourceSystem ∨
      (ack.targetSystem ≠ 0 ∧ openFor h ≠ some ack.targetSystem) ∨
      (ack.targetComponent ≠ 0 ∧ ack.targetComponent ≠ kCompanionComponentId)) :
    c.onCommandAck ack now = c := by
  cases hawaits : c.awaits ack with
  | false => exact if_pos (by rw [hawaits]; rfl)
  | true =>
    obtain ⟨hphase, hawaiting, hcommand, hsource, hsystem, hcomponent⟩ :=
      awaits_configuring hawaits
    have hwaits : waitsSince (session h) ≠ none := by
      cases ht with
      | closed _ => cases hawaiting
      | opened system _ ho =>
        have hwaiting := ho.waiting hphase
        rw [hawaiting, if_pos rfl] at hwaiting
        intro hnone
        rw [hnone] at hwaiting
        cases hwaiting
    rw [ht.vehicle] at hsource hsystem
    rcases hi with h | h | h | h | h | h
    · exact absurd hphase h
    · exact absurd h hwaits
    · exact absurd hcommand h
    · exact absurd hsource h
    · exact absurd hsystem (not_or.2 h)
    · exact absurd hcomponent (not_or.2 h)

theorem Tracked.session (ht : Tracked h c) :
    (∀ system, openFor h = some system → AllAllowed system (session h)) ∧
      StaysEnded (OnboardAutonomy.session h) c := by
  cases ht with
  | closed hnone =>
    rw [session_none hnone, hnone]
    refine ⟨fun _ h => (by cases h), fun newer e older hsplit _ => ?_⟩
    cases newer <;> cases hsplit
  | opened system hold ho =>
    refine ⟨fun other hother => ?_, ho.ended⟩
    rw [hold] at hother
    cases hother
    exact ho.allowed

theorem requested_in_session (hr : Ran (e :: older) c) (hout : e.output ≠ none) :
    ∃ es, OnboardAutonomy.session (e :: older) = e :: es := by
  have hopen : openFor (e :: older) ≠ none := by
    obtain ⟨_, _, houtput⟩ := hr.before (List.suffix_refl _)
    rw [houtput] at hout
    intro hnone
    apply hout
    cases hinput : e.input with
    | commandAck ack now => rfl
    | update connected vehicleSystemId now =>
      rw [openFor_update older hinput] at hnone
      cases connected with
      | false => rfl
      | true =>
        rw [if_pos rfl] at hnone
        rw [hnone]
        rfl
  rw [OnboardAutonomy.session, if_neg hopen]
  split
  · exact ⟨_, rfl⟩
  · exact ⟨_, rfl⟩

/-- After any calls, the state of the configurator and what it requested follow the protocol. -/
theorem setup_protocol (hr : Ran h c) : SetupProtocol h c := by
  have ht := ran_tracked hr
  obtain ⟨hallowed, hended⟩ := ht.session
  have hall : ∃ system, AllAllowed system (OnboardAutonomy.session h) := by
    cases ho : openFor h with
    | some system => exact ⟨system, hallowed system ho⟩
    | none =>
      rw [session_none ho]
      exact ⟨0, fun _ _ _ he _ => (by cases List.suffix_nil.1 he)⟩
  obtain ⟨system, hall⟩ := hall
  exact {
    counts := ht.counts.1
    inTable := fun e he n hn => by
      obtain ⟨h', _, hbefore, _, _⟩ := hr.reached he
      exact (ran_tracked hbefore).lookup_lt hn
    active := ht.counts.2
    ordered := hall.ordered
    allowed := hallowed
    confirmed := fun stream => by
      rw [(hall.confirmed stream).1]
      exact List.drop_suffix _ _
    inSession := fun e older hsplit hout => by
      subst hsplit
      exact requested_in_session hr hout
    ignored := ht.ignored
    ended := fun newer e older hsplit he => (hended newer e older hsplit he).2 }

/-- Six requests, each accepted at once. -/
def acceptedSetup : List TelemetryCall :=
  (List.range 6).flatMap fun n =>
    [.update true (some 1) (seconds n), .commandAck {
      sourceSystem := 1
      command := MAV_CMD_SET_MESSAGE_INTERVAL
      result := MAV_RESULT_ACCEPTED } (seconds n)]

theorem setup_protocol_accepted :
    ∃ h c, Ran h c ∧ c.phase = .active ∧ (requests (session h)).length = 6 ∧ SetupProtocol h c := by
  have hr : Ran (play step [] {} acceptedSetup).1 (play step [] {} acceptedSetup).2 :=
    Run.start.play_free (fun _ _ _ => trivial) acceptedSetup
  exact ⟨_, _, hr, by decide +kernel, by decide +kernel, setup_protocol hr⟩

end TelemetryStreamConfigurator

end OnboardAutonomy
