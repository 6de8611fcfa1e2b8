import OnboardAutonomy.LossyLink
import OnboardAutonomy.TelemetryStreamConfigurator

namespace OnboardAutonomy
open ExactDouble Histories LossyLink
set_option autoImplicit true

/-- A request on its way, with the session of the configurator it was sent in. -/
structure StreamMessage where
  request : MessageIntervalRequest
  session : Nat
deriving DecidableEq

/-- The configurator and the link to the vehicles. A session lasts until the configurator is reset
or begins with another vehicle; the program does not count them. -/
structure TelemetryLink where
  configurator : TelemetryStreamConfigurator := {}
  session : Nat := 0
  link : Link StreamMessage CommandAck := {}

inductive TelemetryEvent where
  | update (connected : Bool) (vehicleSystemId : Option UInt8) (now : TimePoint)
  | pass (passing : Passing StreamMessage CommandAck)
  | receive (message : StreamMessage) (ack : CommandAck) (now : TimePoint)

/-- The update goes on with the vehicle of the session. -/
def TelemetryStreamConfigurator.continues (c : TelemetryStreamConfigurator) (connected : Bool)
    (vehicleSystemId : Option UInt8) : Bool :=
  connected && vehicleSystemId.isSome && c.vehicleSystemId == vehicleSystemId

namespace TelemetryLink

def step (s : TelemetryLink) : TelemetryEvent → TelemetryLink × Unit
  | .update connected vehicleSystemId now =>
    let session := if s.configurator.continues connected vehicleSystemId then s.session
      else s.session + 1
    let (configurator, request) := s.configurator.update connected vehicleSystemId now
    ({ configurator := configurator
       session := session
       link := s.link.send (request.map fun request => ⟨request, session⟩) }, ())
  | .pass passing => ({ s with link := s.link.pass passing }, ())
  | .receive message ack now => ({ s with
      configurator := s.configurator.onCommandAck ack now
      link := s.link.take (message, ack) }, ())

/-- The vehicle that is addressed answers, with an acknowledgement of the command. -/
def answers (message : StreamMessage) (ack : CommandAck) : Bool :=
  ack.command == MAV_CMD_SET_MESSAGE_INTERVAL &&
    ack.sourceSystem == message.request.vehicleSystemId

def possible (s : TelemetryLink) : TelemetryEvent → Bool
  | .update _ _ _ => true
  | .pass (.answer message ack) => s.link.possible (.answer message ack) && answers message ack
  | .pass passing => s.link.possible passing
  | .receive message ack _ => (message, ack) ∈ s.link.replies

/-- An acceptance that is taken into account answers a request of this session for the current
stream. -/
def attributed (s : TelemetryLink) : TelemetryEvent → Bool
  | .receive message ack _ =>
    !(s.configurator.awaits ack && ack.result == MAV_RESULT_ACCEPTED) ||
      (message.session == s.session &&
        (kStreamRequests[s.configurator.currentRequest]?).map StreamRequest.messageId ==
          some message.request.messageId)
  | .update _ _ _ | .pass _ => true

/-- The vehicle accepted a request for the stream that was sent in this session. -/
def AcceptedByVehicle (s : TelemetryLink) (stream : StreamRequest) : Prop :=
  ∃ message ack, (message, ack) ∈ s.link.answered ∧ message.session = s.session ∧
    message.request.messageId = stream.messageId ∧ ack.result = MAV_RESULT_ACCEPTED

end TelemetryLink

namespace TelemetryStreamConfigurator

theorem request_same (c : TelemetryStreamConfigurator) (id : UInt8) (now : TimePoint) :
    (c.request id now).1.currentRequest = c.currentRequest ∧
      (c.request id now).1.phase = c.phase := by
  rw [request]
  split <;> exact ⟨rfl, rfl⟩

theorem update_cases (c : TelemetryStreamConfigurator) (connected : Bool)
    (vehicleSystemId : Option UInt8) (now : TimePoint) :
    (c.continues connected vehicleSystemId = true ∧
      (c.update connected vehicleSystemId now).1.currentRequest = c.currentRequest ∧
      ((c.update connected vehicleSystemId now).1.phase = .active → c.phase = .active)) ∨
    (c.continues connected vehicleSystemId = false ∧
      (c.update connected vehicleSystemId now).1.currentRequest = 0 ∧
      (c.update connected vehicleSystemId now).1.phase ≠ .active) := by
  cases connected with
  | false => exact .inr ⟨rfl, rfl, by intro h; cases h⟩
  | true =>
    cases vehicleSystemId with
    | none => exact .inr ⟨rfl, rfl, by intro h; cases h⟩
    | some id =>
      by_cases hv : c.vehicleSystemId = some id
      · refine .inl ⟨by simp [continues, hv], ?_⟩
        simp only [update, if_pos hv]
        split
        · exact ⟨rfl, fun h => h⟩
        split
        · exact ⟨rfl, fun h => h⟩
        split
        · exact ⟨rfl, fun h => by cases h⟩
        · obtain ⟨hr, hp⟩ := request_same { c with awaitingAck := false } id now
          exact ⟨hr, fun h => by rw [hp] at h; exact h⟩
      · refine .inr ⟨by simp [continues, hv], ?_⟩
        simp only [update, if_neg hv]
        obtain ⟨hr, hp⟩ := request_same { begin id with awaitingAck := false } id now
        have hfree : (begin id).awaitingAck = false := rfl
        rw [if_neg fun h => h rfl, hfree, Bool.false_and, Bool.false_and,
          if_neg Bool.false_ne_true, if_neg Bool.false_ne_true, hr, hp]
        exact ⟨rfl, by intro h; cases h⟩

theorem onCommandAck_cases (c : TelemetryStreamConfigurator) (ack : CommandAck)
    (now : TimePoint) :
    ((c.awaits ack && ack.result == MAV_RESULT_ACCEPTED) = true ∧
      (c.onCommandAck ack now).currentRequest = c.currentRequest + 1 ∧
      ((c.onCommandAck ack now).phase = .active →
        c.currentRequest + 1 = kStreamRequests.length)) ∨
    ((c.onCommandAck ack now).currentRequest = c.currentRequest ∧
      ((c.onCommandAck ack now).phase = .active → c.phase = .active)) := by
  rw [onCommandAck]
  split
  · exact .inr ⟨rfl, fun h => h⟩
  rename_i hawaits
  rw [Bool.not_eq_true', Bool.not_eq_false] at hawaits
  split
  · exact .inr ⟨rfl, fun h => h⟩
  split
  · exact .inr ⟨rfl, fun h => by cases h⟩
  rename_i haccepted
  rw [ne_eq, not_not] at haccepted
  refine .inl ⟨by rw [hawaits, haccepted]; rfl, rfl, ?_⟩
  intro hactive
  by_contra hlast
  dsimp only at hactive
  rw [if_neg hlast] at hactive
  simp only [awaits, Bool.and_eq_true, beq_iff_eq] at hawaits
  rw [hawaits.1.1.1.1.1] at hactive
  cases hactive

/-- An update sends a request for the stream that is then current, or goes on waiting for the answer
to the last one. -/
theorem update_sends (c : TelemetryStreamConfigurator) (connected : Bool)
    (vehicleSystemId : Option UInt8) (now : TimePoint) :
    (∃ r, (c.update connected vehicleSystemId now).2 = some r ∧
      (kStreamRequests[(c.update connected vehicleSystemId now).1.currentRequest]?).map
        StreamRequest.messageId = some r.messageId) ∨
    ((c.update connected vehicleSystemId now).2 = none ∧
      ((c.update connected vehicleSystemId now).1.awaitingAck = true →
        c.continues connected vehicleSystemId = true ∧ c.awaitingAck = true ∧
          (c.update connected vehicleSystemId now).1.currentRequest = c.currentRequest)) := by
  have hrequest (d : TelemetryStreamConfigurator) (id : UInt8) (hd : d.awaitingAck = false) :
      (∃ r, (d.request id now).2 = some r ∧
        (kStreamRequests[(d.request id now).1.currentRequest]?).map StreamRequest.messageId =
          some r.messageId) ∨
      ((d.request id now).2 = none ∧ (d.request id now).1.awaitingAck = false) := by
    rw [request]
    cases hrow : kStreamRequests[d.currentRequest]? with
    | none => exact .inr ⟨rfl, hd⟩
    | some row => exact .inl ⟨_, rfl, by rw [hrow]; rfl⟩
  cases connected with
  | false => exact .inr ⟨rfl, fun h => by cases h⟩
  | true =>
    cases vehicleSystemId with
    | none => exact .inr ⟨rfl, fun h => by cases h⟩
    | some id =>
      by_cases hv : c.vehicleSystemId = some id
      · have hcontinues : c.continues true (some id) = true := by simp [continues, hv]
        simp only [update, if_pos hv]
        split
        · exact .inr ⟨rfl, fun h => ⟨hcontinues, h, rfl⟩⟩
        split
        · exact .inr ⟨rfl, fun h => ⟨hcontinues, h, rfl⟩⟩
        split
        · exact .inr ⟨rfl, fun h => ⟨hcontinues, h, rfl⟩⟩
        · rcases hrequest { c with awaitingAck := false } id rfl with hsent | ⟨hnone, hfree⟩
          · exact .inl hsent
          · exact .inr ⟨hnone, fun h => by rw [hfree] at h; cases h⟩
      · simp only [update, if_neg hv]
        have hbegins : (begin id).awaitingAck = false := rfl
        rw [if_neg fun h => h rfl, hbegins, Bool.false_and, Bool.false_and,
          if_neg Bool.false_ne_true, if_neg Bool.false_ne_true]
        rcases hrequest { begin id with awaitingAck := false } id rfl with hsent | ⟨hnone, hfree⟩
        · exact .inl hsent
        · exact .inr ⟨hnone, fun h => by rw [hfree] at h; cases h⟩

theorem onCommandAck_awaiting {c : TelemetryStreamConfigurator} {ack : CommandAck}
    (h : (c.onCommandAck ack now).awaitingAck = true) :
    c.awaitingAck = true ∧ (c.onCommandAck ack now).currentRequest = c.currentRequest := by
  rw [onCommandAck] at h ⊢
  split at h
  · rename_i hother
    rw [if_pos hother]
    exact ⟨h, rfl⟩
  rename_i hawaits
  rw [if_neg hawaits]
  split at h
  · rename_i hprogress
    rw [if_pos hprogress]
    exact ⟨h, rfl⟩
  split at h
  · cases h
  · cases h

end TelemetryStreamConfigurator

namespace TelemetryLink

/-- The streams before the current one were accepted by the vehicle in this session. -/
structure Verified (s : TelemetryLink) : Prop where
  genuine : s.link.Genuine
  accepted : ∀ i stream, i < s.configurator.currentRequest → kStreamRequests[i]? = some stream →
    s.AcceptedByVehicle stream
  complete : s.configurator.phase = .active →
    kStreamRequests.length ≤ s.configurator.currentRequest

theorem AcceptedByVehicle.keep {s s' : TelemetryLink} (ha : s.AcceptedByVehicle stream)
    (hsession : s'.session = s.session) (hanswered : s.link.answered ⊆ s'.link.answered) :
    s'.AcceptedByVehicle stream := by
  obtain ⟨message, ack, hmem, hs, hm, hr⟩ := ha
  exact ⟨message, ack, hanswered hmem, hs.trans hsession.symm, hm, hr⟩

theorem Verified.step (hv : Verified s) (hp : s.possible event = true)
    (ha : s.attributed event = true) : Verified (s.step event).1 := by
  obtain ⟨hgenuine, haccepted, hcomplete⟩ := hv
  cases event with
  | update connected vehicleSystemId now =>
    rcases s.configurator.update_cases connected vehicleSystemId now with
      ⟨hc, hcurrent, hactive⟩ | ⟨hc, hcurrent, hactive⟩
    · refine ⟨hgenuine, ?_, ?_⟩
      · intro i stream hi hs
        have hi : i < (s.configurator.update connected vehicleSystemId now).1.currentRequest := hi
        rw [hcurrent] at hi
        exact (haccepted i stream hi hs).keep (if_pos hc) (List.Subset.refl _)
      · intro hp
        exact (hcomplete (hactive hp)).trans_eq hcurrent.symm
    · refine ⟨hgenuine, ?_, fun hp => absurd hp hactive⟩
      intro i stream hi _
      have hi : i < (s.configurator.update connected vehicleSystemId now).1.currentRequest := hi
      rw [hcurrent] at hi
      cases hi
  | pass passing =>
    refine ⟨hgenuine.pass passing, ?_, hcomplete⟩
    intro i stream hi hs
    exact (haccepted i stream hi hs).keep rfl (Link.answered_pass _ passing)
  | receive message ack now =>
    have hmem : (message, ack) ∈ s.link.answered := by
      rw [possible, decide_eq_true_eq] at hp
      exact hgenuine hp
    rcases s.configurator.onCommandAck_cases ack now with
      ⟨htaken, hcurrent, hactive⟩ | ⟨hcurrent, hactive⟩
    · rw [attributed, htaken, Bool.not_true, Bool.false_or, Bool.and_eq_true, beq_iff_eq,
        beq_iff_eq] at ha
      rw [Bool.and_eq_true, beq_iff_eq] at htaken
      refine ⟨hgenuine.take _, ?_, fun hp => ?_⟩
      · intro i stream hi hs
        have hi : i < (s.configurator.onCommandAck ack now).currentRequest := hi
        rw [hcurrent] at hi
        rcases Nat.lt_succ_iff_lt_or_eq.1 hi with hi | hi
        · exact (haccepted i stream hi hs).keep rfl (List.Subset.refl _)
        · rw [hi] at hs
          rw [hs] at ha
          exact ⟨message, ack, hmem, ha.1, (Option.some.inj ha.2).symm, htaken.2⟩
      · exact (hactive hp).symm.le.trans_eq hcurrent.symm
    · refine ⟨hgenuine.take _, ?_, fun hp => ?_⟩
      · intro i stream hi hs
        have hi : i < (s.configurator.onCommandAck ack now).currentRequest := hi
        rw [hcurrent] at hi
        exact (haccepted i stream hi hs).keep rfl (List.Subset.refl _)
      · exact (hcomplete (hactive hp)).trans_eq hcurrent.symm

theorem Verified.active (hv : Verified s) (ha : s.configurator.phase = .active) :
    ∀ stream ∈ kStreamRequests, s.AcceptedByVehicle stream := by
  intro stream hs
  obtain ⟨i, hi, hget⟩ := List.mem_iff_getElem.1 hs
  exact hv.accepted i stream (hi.trans_le (hv.complete ha))
    (by rw [List.getElem?_eq_getElem hi, hget])

theorem Verified.start : Verified {} :=
  ⟨List.Subset.refl _, fun _ _ hi => absurd hi (Nat.not_lt_zero _), fun h => by cases h⟩

/-- When every acceptance that is taken into account answers the request it is taken for, an active
configurator has had every stream accepted by the vehicle in its session. -/
theorem active_accepted
    (hr : Run step (fun _ s event => (s.possible event && s.attributed event) = true) {} h s)
    (ha : s.configurator.phase = .active) :
    ∀ stream ∈ kStreamRequests, s.AcceptedByVehicle stream := by
  have hv : Verified s := by
    apply hr.history_invariant fun _ s => Verified s
    · exact .start
    · intro _ s event _ hv hl
      rw [Bool.and_eq_true] at hl
      exact hv.step hl.1 hl.2
  exact hv.active ha

section Delays

/-- The request that an update sends. -/
def sends (e : Entry TelemetryLink TelemetryEvent Unit) : Option StreamMessage :=
  match e.input with
  | .update connected vehicleSystemId now =>
    (e.before.configurator.update connected vehicleSystemId now).2.map fun request =>
      ⟨request, (e.after step).session⟩
  | .pass _ | .receive _ _ _ => none

/-- A reply comes in before the next request is sent, if it comes in at all. -/
def prompt (h : List (Entry TelemetryLink TelemetryEvent Unit)) : TelemetryEvent → Bool
  | .receive message _ _ => latest sends h == some message
  | .update _ _ _ | .pass _ => true

/-- While an answer is waited for, the last request was one for the current stream. -/
def Asked (h : List (Entry TelemetryLink TelemetryEvent Unit)) (s : TelemetryLink) : Prop :=
  s.configurator.awaitingAck = true → ∃ message, latest sends h = some message ∧
    message.session = s.session ∧
    (kStreamRequests[s.configurator.currentRequest]?).map StreamRequest.messageId =
      some message.request.messageId

theorem Asked.step {h : List (Entry TelemetryLink TelemetryEvent Unit)} (ha : Asked h s)
    (event : TelemetryEvent) : Asked (⟨s, event, ()⟩ :: h) (s.step event).1 := by
  cases event with
  | update connected vehicleSystemId now =>
    intro hawaiting
    rcases s.configurator.update_sends connected vehicleSystemId now with
      ⟨r, hsent, hrow⟩ | ⟨hnone, hkept⟩
    · have hsends : sends ⟨s, .update connected vehicleSystemId now, ()⟩ = some
          ⟨r, (s.step (.update connected vehicleSystemId now)).1.session⟩ := by
        dsimp only [sends]
        rw [hsent]
        rfl
      exact ⟨_, latest_report h hsends, rfl, hrow⟩
    · obtain ⟨hcontinues, hbefore, hcurrent⟩ := hkept hawaiting
      obtain ⟨message, hlatest, hsession, hrow⟩ := ha hbefore
      have hsends : sends ⟨s, .update connected vehicleSystemId now, ()⟩ = none := by
        dsimp only [sends]
        rw [hnone]
        rfl
      refine ⟨message, (latest_silent h hsends).trans hlatest, hsession.trans ?_, ?_⟩
      · exact (if_pos hcontinues).symm
      · rw [TelemetryLink.step]
        dsimp only
        rw [hcurrent]
        exact hrow
  | pass passing => exact fun hawaiting => ha hawaiting
  | receive message ack now =>
    intro hawaiting
    obtain ⟨hbefore, hcurrent⟩ := TelemetryStreamConfigurator.onCommandAck_awaiting hawaiting
    obtain ⟨last, hlatest, hsession, hrow⟩ := ha hbefore
    refine ⟨last, hlatest, hsession, ?_⟩
    rw [TelemetryLink.step]
    dsimp only
    rw [hcurrent]
    exact hrow

/-- A reply that comes in before the next request is taken for the request it answers. -/
theorem Asked.attributed {h : List (Entry TelemetryLink TelemetryEvent Unit)} (ha : Asked h s)
    (hp : prompt h event = true) : s.attributed event = true := by
  cases event with
  | update | pass => rfl
  | receive message ack now =>
    rw [TelemetryLink.attributed]
    cases htaken : s.configurator.awaits ack && ack.result == MAV_RESULT_ACCEPTED with
    | false => rfl
    | true =>
      rw [Bool.and_eq_true, TelemetryStreamConfigurator.awaits] at htaken
      simp only [Bool.and_eq_true] at htaken
      obtain ⟨last, hlatest, hsession, hrow⟩ := ha htaken.1.1.1.1.1.2
      rw [prompt, hlatest, beq_iff_eq, Option.some.injEq] at hp
      rw [← hp, hsession, hrow]
      simp

/-- A condition on delays alone: where each reply comes in before the next request is sent, or
never, an active configurator has had every stream accepted by the vehicle in its session. -/
theorem accepted_when_prompt
    (hr : Run step (fun h s event => (s.possible event && prompt h event) = true) {} h s)
    (ha : s.configurator.phase = .active) :
    ∀ stream ∈ kStreamRequests, s.AcceptedByVehicle stream := by
  have hv : Verified s ∧ Asked h s := by
    apply hr.history_invariant fun h s => Verified s ∧ Asked h s
    · exact ⟨.start, fun h => by cases h⟩
    · rintro h s event _ ⟨hv, hasked⟩ hl
      rw [Bool.and_eq_true] at hl
      exact ⟨hv.step hl.1 (hasked.attributed hl.2), hasked.step event⟩
  exact hv.1.active ha

end Delays

section Exchanges

/-- Stream number `i` is requested of vehicle 1 for the `n`th time. -/
def streamMessage (i n : Nat) : StreamMessage where
  request := {
    vehicleSystemId := 1
    messageId := (kStreamRequests[i]?.map StreamRequest.messageId).getD 0
    intervalMicroseconds := (kStreamRequests[i]?.map StreamRequest.intervalMicroseconds).getD 0
    confirmation := UInt8.ofNat n }
  session := 1

def accepting : CommandAck where
  sourceSystem := 1
  sourceComponent := 1
  command := MAV_CMD_SET_MESSAGE_INTERVAL
  result := MAV_RESULT_ACCEPTED
  targetSystem := 1
  targetComponent := kCompanionComponentId

/-- A stream is requested, accepted and acknowledged within a second. -/
def exchange (i : Nat) (now : TimePoint) : List TelemetryEvent :=
  [.update true (some 1) now, .pass (.answer (streamMessage i 0) accepting),
   .receive (streamMessage i 0) accepting (now + seconds 1)]

def promptEvents : List TelemetryEvent :=
  (List.range 6).flatMap fun i => exchange i (seconds (2 * i))

theorem active_accepted_prompt :
    (play step [] {} promptEvents).2.configurator.phase = .active ∧
      ∀ stream ∈ kStreamRequests, (play step [] {} promptEvents).2.AcceptedByVehicle stream := by
  have ha : (play step [] {} promptEvents).2.configurator.phase = .active := by decide +kernel
  exact ⟨ha, active_accepted (Run.start.play_legal (by decide +kernel)) ha⟩

/-- The first request is repeated after two seconds and both are accepted; the second
acknowledgement arrives when the second stream was requested, whose request is lost. -/
def misattributedEvents : List TelemetryEvent :=
  [.update true (some 1) (seconds 0), .pass (.answer (streamMessage 0 0) accepting),
   .update true (some 1) (seconds 2), .pass (.answer (streamMessage 0 1) accepting),
   .receive (streamMessage 0 0) accepting (seconds 3), .update true (some 1) (seconds 3),
   .pass (.loseRequest (streamMessage 1 0)), .receive (streamMessage 0 1) accepting (seconds 4)] ++
  exchange 2 (seconds 5) ++ exchange 3 (seconds 7) ++ exchange 4 (seconds 9) ++
  exchange 5 (seconds 11)

/-- The configurator can be active though the vehicle never saw a request for a stream. -/
theorem active_unaccepted :
    ¬∀ h s, Run step (fun _ s event => s.possible event = true) {} h s →
      s.configurator.phase = .active → ∀ stream ∈ kStreamRequests, s.AcceptedByVehicle stream := by
  intro hclaim
  have hr : Run step (fun _ s event => possible s event = true) {}
      (play step [] {} misattributedEvents).1 (play step [] {} misattributedEvents).2 :=
    Run.start.play_legal (by decide +kernel)
  obtain ⟨message, ack, hmem, _, hid, _⟩ := hclaim _ _ hr (by decide +kernel)
    ⟨24, 500000, "GPS_RAW_INT at 2 Hz"⟩ (List.mem_cons_of_mem _ List.mem_cons_self)
  have hnone : ∀ x ∈ (play step [] {} misattributedEvents).2.link.answered,
      x.1.request.messageId ≠ 24 := by decide +kernel
  exact hnone _ hmem hid

end Exchanges

end TelemetryLink
end OnboardAutonomy
