import OnboardAutonomy.CameraMonitor
import OnboardAutonomy.TrackHistory

namespace OnboardAutonomy
open ExactDouble Selection
set_option autoImplicit true

/-- The observation with its pose moved to a position. -/
def TargetObservation.movedTo (o : TargetObservation) (position : CameraFramePosition) :
    TargetObservation :=
  { o with pose := o.pose.map fun pose => { pose with position := position } }

/-- The entries the overlay looks for: those of an id that have a pose. -/
def TargetObservation.posed (id : Int) (o : TargetObservation) : Bool :=
  o.id == id && o.pose.isSome

/-- Where the observation is, if it has a pose. -/
def TargetObservation.position (o : TargetObservation) : Option CameraFramePosition :=
  o.pose.map (·.position)

theorem TargetObservation.movedTo_eq_self (o : TargetObservation) (hpose : o.pose.isSome = true)
    (position : CameraFramePosition) :
    o.movedTo position = o ↔ o.position = some position := by
  cases o with
  | mk id family center corners correctedBits decisionMargin pose =>
    cases pose with
    | none => cases hpose
    | some pose =>
      constructor
      · intro h
        exact (congrArg TargetObservation.position h).symm
      · intro h
        rw [movedTo, ← Option.some.inj h]
        rfl

theorem overlayTrack_of_none {id : Int} (h : ∀ o ∈ targets, o.posed id = false) :
    overlayTrack id position targets = targets := by
  induction targets with
  | nil => rfl
  | cons o rest ih =>
    have hrest := ih fun x hx => h x (List.mem_cons_of_mem _ hx)
    have ho := h o List.mem_cons_self
    rw [overlayTrack]
    cases hpose : o.pose with
    | none =>
      dsimp only
      rw [hrest]
    | some pose =>
      rw [TargetObservation.posed, hpose, Option.isSome_some, Bool.and_true] at ho
      dsimp only
      rw [if_neg (beq_eq_false_iff_ne.1 ho), hrest]

theorem overlayTrack_of_first {id : Int} (h : ∀ o ∈ before, o.posed id = false)
    (ho : o.posed id = true) :
    overlayTrack id position (before ++ o :: rest) = before ++ o.movedTo position :: rest := by
  induction before with
  | nil =>
    rw [TargetObservation.posed, Bool.and_eq_true, beq_iff_eq] at ho
    obtain ⟨pose, hpose⟩ := Option.isSome_iff_exists.1 ho.2
    rw [List.nil_append, overlayTrack, hpose]
    dsimp only
    rw [if_pos ho.1, TargetObservation.movedTo, hpose]
    rfl
  | cons x before ih =>
    have hrest := ih fun y hy => h y (List.mem_cons_of_mem _ hy)
    have hx := h x List.mem_cons_self
    rw [List.cons_append, overlayTrack]
    cases hpose : x.pose with
    | none =>
      dsimp only
      rw [hrest]
      rfl
    | some pose =>
      rw [TargetObservation.posed, hpose, Option.isSome_some, Bool.and_true] at hx
      dsimp only
      rw [if_neg (beq_eq_false_iff_ne.1 hx), hrest]
      rfl

theorem first_cases (test : α → Bool) (xs : List α) :
    (xs.find? test = none ∧ ∀ x ∈ xs, test x = false) ∨
      ∃ before x rest, xs = before ++ x :: rest ∧ xs.find? test = some x ∧ test x = true ∧
        ∀ y ∈ before, test y = false := by
  cases hfind : xs.find? test with
  | none =>
    refine .inl ⟨rfl, fun x hx => ?_⟩
    exact Bool.eq_false_of_not_eq_true (List.find?_eq_none.1 hfind x hx)
  | some x =>
    obtain ⟨hx, before, rest, hsplit, hbefore⟩ := List.find?_eq_some_iff_append.1 hfind
    refine .inr ⟨before, x, rest, hsplit, rfl, hx, fun y hy => ?_⟩
    exact Bool.not_eq_true' _ |>.mp (hbefore y hy)

theorem overlayTrack_eq_self (id : Int) (position : CameraFramePosition)
    (targets : List TargetObservation) : overlayTrack id position targets = targets ↔
      ∀ x, targets.find? (TargetObservation.posed id) = some x → x.position = some position := by
  rcases first_cases (TargetObservation.posed id) targets with
    ⟨hnone, hall⟩ | ⟨before, x, rest, hsplit, hsome, hx, hbefore⟩
  · rw [overlayTrack_of_none hall, hnone]
    exact ⟨fun _ x h => (by cases h), fun _ => rfl⟩
  · have hpose := ((Bool.and_eq_true _ _).mp hx).2
    rw [hsome]
    conv_lhs => rw [hsplit]
    rw [overlayTrack_of_first hbefore hx, List.append_cancel_left_eq, List.cons.injEq,
      x.movedTo_eq_self hpose]
    constructor
    · intro h y hy
      rw [← Option.some.inj hy]
      exact h.1
    · exact fun h => ⟨h x rfl, rfl⟩

/-- The overlay moves an entry and nothing else unless another entry with its id comes first. -/
theorem overlayTrack_eq_moved {o : TargetObservation} (ho : o.pose.isSome = true)
    (position : CameraFramePosition) (before rest : List TargetObservation) :
    overlayTrack o.id position (before ++ o :: rest) = before ++ o.movedTo position :: rest ↔
      ∀ x, before.find? (TargetObservation.posed o.id) = some x →
        x.position = some position ∧ o.position = some position := by
  have hposed : o.posed o.id = true := by
    rw [TargetObservation.posed, ho, beq_self_eq_true, Bool.true_and]
  rcases first_cases (TargetObservation.posed o.id) before with
    ⟨hnone, hall⟩ | ⟨earlier, x, later, hsplit, hsome, hx, hearlier⟩
  · rw [overlayTrack_of_first hall hposed, hnone]
    exact ⟨fun _ x h => (by cases h), fun _ => rfl⟩
  · have hpose := ((Bool.and_eq_true _ _).mp hx).2
    rw [hsome, hsplit, List.append_assoc, List.cons_append,
      overlayTrack_of_first hearlier hx, List.append_assoc, List.cons_append,
      List.append_cancel_left_eq, List.cons.injEq, List.append_cancel_left_eq, List.cons.injEq,
      x.movedTo_eq_self hpose, eq_comm (a := o), o.movedTo_eq_self ho]
    constructor
    · intro h y hy
      rw [← Option.some.inj hy]
      exact ⟨h.1, h.2.1⟩
    · exact fun h => ⟨(h x rfl).1, (h x rfl).2, rfl⟩

namespace TargetTracker

/-- The position a tracker takes when it accepts an observation of this pose. -/
def nextPosition (t : TargetTracker) (pose : TargetPose) : CameraFramePosition :=
  match t.targetId, t.position with
  | some _, some position =>
    smoothPosition position pose.position t.config.positionSmoothingFactor
  | _, _ => pose.position

/-- The batch of a frame in which the accepted observation is moved to the position of the track,
and nothing else is changed. -/
structure TouchesTracked (t : TargetTracker) (f : ProcessedFrame)
    (result : List TargetObservation) : Prop where
  rejected : t.selected f = none → result = f.observations
  accepted : ∀ o, t.selected f = some o → ∃ before rest p, f.observations = before ++ o :: rest ∧
    Foremost (t.unexpired f.time).wants TargetObservation.margin before o rest ∧
    (t.update f.observations f.time).position = some p ∧ result = before ++ o.movedTo p :: rest

/-- The first entry of the tracked id with a pose is the accepted one, or moving it is moving
nothing. -/
structure Unambiguous (t : TargetTracker) (f : ProcessedFrame) : Prop where
  held : (∀ o ∈ f.observations, (t.unexpired f.time).wants o = false) →
    t.config.requiredConsecutiveObservations ≤ (t.unexpired f.time).consecutiveObservations →
    ∀ id p x, (t.unexpired f.time).targetId = some id → (t.unexpired f.time).position = some p →
      f.observations.find? (TargetObservation.posed id) = some x → x.position = some p
  accepted : ∀ before o rest pose x, f.observations = before ++ o :: rest →
    Foremost (t.unexpired f.time).wants TargetObservation.margin before o rest →
    o.pose = some pose → before.find? (TargetObservation.posed o.id) = some x →
    x.position = some ((t.unexpired f.time).nextPosition pose) ∧
      pose.position = (t.unexpired f.time).nextPosition pose

theorem unexpired_expired (t : TargetTracker) (now : TimePoint) :
    (t.unexpired now).expired now = false := by
  rw [unexpired]
  split
  · rfl
  · rename_i h
    exact Bool.not_eq_true _ ▸ h

theorem unexpired_config (t : TargetTracker) (now : TimePoint) :
    (t.unexpired now).config = t.config := by
  rw [unexpired]
  split
  · rfl
  · rfl

theorem wants_valid {t : TargetTracker} (h : t.wants o = true) :
    o.decisionMargin = .finite o.margin ∧ ∃ pose, o.pose = some pose := by
  rw [wants, Bool.and_eq_true, validObservation] at h
  obtain ⟨hvalid, _⟩ := h
  cases hpose : o.pose with
  | none =>
    rw [hpose] at hvalid
    cases hvalid
  | some pose =>
    rw [hpose] at hvalid
    simp only [Bool.and_eq_true] at hvalid
    obtain ⟨margin, hm⟩ := (Double.isFinite_iff _).1 hvalid.1.1.1.2
    refine ⟨?_, pose, rfl⟩
    rw [TargetObservation.margin, hm]
    rfl

theorem selected_cases (t : TargetTracker) (f : ProcessedFrame) :
    (t.selected f = none ∧ ∀ o ∈ f.observations, (t.unexpired f.time).wants o = false) ∨
      ∃ before o rest, f.observations = before ++ o :: rest ∧ t.selected f = some o ∧
        Foremost (t.unexpired f.time).wants TargetObservation.margin before o rest :=
  selectObservation_foremost (fun _ h => (wants_valid h).1) f.observations

theorem accept_spec {t : TargetTracker} (h : t.wants o = true) (pose : TargetPose)
    (now : TimePoint) :
    (t.accept o pose.position now).targetId = some o.id ∧
      (t.accept o pose.position now).position = some (t.nextPosition pose) ∧
      (t.accept o pose.position now).lastObservedAt = some now ∧
      (t.accept o pose.position now).config = t.config := by
  rw [wants, Bool.and_eq_true] at h
  rw [accept, nextPosition]
  cases hid : t.targetId with
  | none => exact ⟨rfl, rfl, rfl, rfl⟩
  | some id =>
    cases hposition : t.position with
    | none => exact ⟨rfl, rfl, rfl, rfl⟩
    | some position =>
      rw [hid] at h
      refine ⟨?_, rfl, rfl, rfl⟩
      rw [beq_iff_eq.1 h.2]

end TargetTracker

namespace VisionMonitor
open TargetTracker (centredTag)

theorem process_accepted {v : VisionMonitor} (htimeout : 0 < v.targetTracker.config.lossTimeout)
    (h : v.targetTracker.selected ⟨now, batch.targets⟩ = some o)
    (hw : (v.targetTracker.unexpired now).wants o = true) (hpose : o.pose = some pose) :
    (v.targetTracker.update batch.targets now).position =
        some ((v.targetTracker.unexpired now).nextPosition pose) ∧
      (v.process batch now).latestTargets =
        overlayTrack o.id ((v.targetTracker.unexpired now).nextPosition pose) batch.targets := by
  have hupdate := TargetTracker.update_some h hpose
  dsimp only at hupdate
  obtain ⟨hid, hposition, hlast, hconfig⟩ := TargetTracker.accept_spec hw pose now
  rw [← hupdate] at hid hposition hlast hconfig
  have hexpired : (v.targetTracker.update batch.targets now).expired now = false := by
    rw [TargetTracker.expired, hlast, hconfig, TargetTracker.unexpired_config]
    dsimp only
    rw [Int.sub_self, decide_eq_false (Int.not_lt.2 (Int.le_of_lt htimeout)), Bool.and_false]
  refine ⟨hposition, ?_⟩
  rw [process]
  dsimp only
  rw [TargetTracker.snapshot, hid, hexpired, hposition]
  rfl

theorem process_rejected {v : VisionMonitor}
    (h : v.targetTracker.selected ⟨now, batch.targets⟩ = none) :
    (v.process batch now).latestTargets =
      match (v.targetTracker.unexpired now).miss.targetId,
        (v.targetTracker.unexpired now).miss.position with
      | some id, some position => overlayTrack id position batch.targets
      | _, _ => batch.targets := by
  have hupdate := TargetTracker.update_none h
  dsimp only at hupdate
  have hexpired : (v.targetTracker.unexpired now).miss.expired now = false := by
    rw [TargetTracker.miss]
    split
    · rfl
    · exact TargetTracker.unexpired_expired _ _
  rw [process]
  dsimp only
  rw [hupdate, TargetTracker.snapshot, hexpired, Bool.or_false]
  cases (v.targetTracker.unexpired now).miss.targetId with
  | none => rfl
  | some id => rfl

/-- Without an accepted observation the overlay moves an entry of the tag that is held. -/
theorem process_rejected_iff {v : VisionMonitor}
    (h : v.targetTracker.selected ⟨now, batch.targets⟩ = none) :
    (v.process batch now).latestTargets = batch.targets ↔
      (v.targetTracker.config.requiredConsecutiveObservations ≤
          (v.targetTracker.unexpired now).consecutiveObservations →
        ∀ id p x, (v.targetTracker.unexpired now).targetId = some id →
          (v.targetTracker.unexpired now).position = some p →
          batch.targets.find? (TargetObservation.posed id) = some x → x.position = some p) := by
  rw [process_rejected h, TargetTracker.miss, TargetTracker.unexpired_config]
  generalize v.targetTracker.unexpired now = u
  generalize v.targetTracker.config.requiredConsecutiveObservations = required
  cases hid : u.targetId with
  | none =>
    rw [Option.isSome_none, Bool.false_and, if_neg Bool.false_ne_true, hid]
    exact ⟨fun _ _ id p x h => (by cases h), fun _ => rfl⟩
  | some id =>
    rw [Option.isSome_some, Bool.true_and]
    by_cases hconfirmed : required ≤ u.consecutiveObservations
    · rw [if_neg fun he => Nat.not_lt.2 hconfirmed (of_decide_eq_true he), hid]
      cases hposition : u.position with
      | none => exact ⟨fun _ _ id p x _ h => (by cases h), fun _ => rfl⟩
      | some p =>
        dsimp only
        rw [overlayTrack_eq_self]
        constructor
        · intro h _ id' p' x hid' hp' hx
          cases hid'
          cases hp'
          exact h x hx
        · exact fun h x hx => h hconfirmed id p x rfl rfl hx
    · rw [if_pos (decide_eq_true (Nat.lt_of_not_le hconfirmed))]
      exact ⟨fun _ hc => absurd hc hconfirmed, fun _ => rfl⟩

theorem touches_rejected_iff {v : VisionMonitor}
    (hnone : v.targetTracker.selected ⟨now, batch.targets⟩ = none)
    (hall : ∀ o ∈ batch.targets, (v.targetTracker.unexpired now).wants o = false) :
    v.targetTracker.TouchesTracked ⟨now, batch.targets⟩ (v.process batch now).latestTargets ↔
      v.targetTracker.Unambiguous ⟨now, batch.targets⟩ := by
  have hiff := process_rejected_iff hnone
  constructor
  · intro ht
    refine ⟨fun _ => hiff.1 (ht.rejected hnone), ?_⟩
    intro before o rest pose x hsplit hmax
    dsimp only at hsplit hmax
    rw [hsplit] at hall
    exact (hmax.not_unwanted hall).elim
  · intro hu
    refine ⟨fun _ => hiff.2 (hu.held hall), ?_⟩
    intro o ho
    rw [hnone] at ho
    cases ho

theorem touches_accepted_iff {v : VisionMonitor}
    (htimeout : 0 < v.targetTracker.config.lossTimeout)
    (hsplit : batch.targets = before ++ o :: rest)
    (hsome : v.targetTracker.selected ⟨now, batch.targets⟩ = some o)
    (hmax : Foremost (v.targetTracker.unexpired now).wants TargetObservation.margin before o rest) :
    v.targetTracker.TouchesTracked ⟨now, batch.targets⟩ (v.process batch now).latestTargets ↔
      v.targetTracker.Unambiguous ⟨now, batch.targets⟩ := by
  obtain ⟨_, pose, hpose⟩ := TargetTracker.wants_valid hmax.chosen
  obtain ⟨hposition, hoverlay⟩ := process_accepted htimeout hsome hmax.chosen hpose
  have hposed : o.pose.isSome = true := by rw [hpose]; rfl
  have ho : o.position = some pose.position := by rw [TargetObservation.position, hpose]; rfl
  have hiff := overlayTrack_eq_moved hposed
    ((v.targetTracker.unexpired now).nextPosition pose) before rest
  rw [← hsplit, ← hoverlay, ho, Option.some.injEq] at hiff
  constructor
  · intro ht
    obtain ⟨before', rest', p, hsplit', hmax', hp, hresult⟩ := ht.accepted o hsome
    obtain ⟨hb, _, hr⟩ := hmax.unique hmax' (hsplit.symm.trans hsplit')
    rw [← hb, ← hr, Option.some.inj (hp.symm.trans hposition)] at hresult
    refine ⟨fun hall => ?_, ?_⟩
    · dsimp only at hall
      rw [hsplit] at hall
      exact (hmax.not_unwanted hall).elim
    · intro before'' o'' rest'' pose'' x hsplit'' hmax'' hpose'' hx
      obtain ⟨hb, he, _⟩ := hmax.unique hmax'' (hsplit.symm.trans hsplit'')
      rw [← hb, ← he] at hx
      rw [← he, hpose] at hpose''
      cases hpose''
      exact hiff.1 hresult x hx
  · intro hu
    refine ⟨fun hnone => ?_, ?_⟩
    · rw [hsome] at hnone
      cases hnone
    · intro o' ho'
      rw [hsome] at ho'
      cases ho'
      exact ⟨before, rest, _, hsplit, hmax, hposition,
        hiff.2 fun x hx => hu.accepted before o rest pose x hsplit hmax hpose hx⟩

/-- In every state whose tracker could be built, the overlay touches only the observation that was
accepted if and only if the batch does not offer it another one. -/
theorem overlay_touches_tracked_iff {v : VisionMonitor}
    (h : TargetTracker.new v.targetTracker.config = .ok t) (batch : TargetDetectionBatch)
    (now : TimePoint) :
    v.targetTracker.TouchesTracked ⟨now, batch.targets⟩ (v.process batch now).latestTargets ↔
      v.targetTracker.Unambiguous ⟨now, batch.targets⟩ := by
  obtain ⟨rules, hconfig, _, htimeout, _⟩ := TargetTracker.new_accepted h
  have htimeout : 0 < v.targetTracker.config.lossTimeout := by rw [hconfig]; exact htimeout
  rcases v.targetTracker.selected_cases ⟨now, batch.targets⟩ with
    ⟨hnone, hall⟩ | ⟨before, o, rest, hsplit, hsome, hmax⟩
  · exact touches_rejected_iff hnone hall
  · exact touches_accepted_iff htimeout hsplit hsome hmax

/-- Three frames of a tag lock the tracker on it. -/
def lockedMonitor : VisionMonitor :=
  ((VisionMonitor.process {} ⟨0, [centredTag]⟩ 0).process ⟨0, [centredTag]⟩
    (milliseconds 33)).process ⟨0, [centredTag]⟩ (milliseconds 66)

/-- The tag again, read with a correction and seen a metre further away. -/
def correctedTag : TargetObservation :=
  { centredTag with
    correctedBits := 1
    pose := some { position := ⟨.finite 0, .finite 0, .finite (3 / 2)⟩ } }

/-- The tag is offered twice, and the tracker rejects the sighting that comes first. -/
theorem overlay_touches_tracked_doubled :
    let batch : TargetDetectionBatch := ⟨0, [correctedTag, centredTag]⟩
    lockedMonitor.targetTracker.TouchesTracked ⟨milliseconds 99, batch.targets⟩
        (lockedMonitor.process batch (milliseconds 99)).latestTargets ↔
      lockedMonitor.targetTracker.Unambiguous ⟨milliseconds 99, batch.targets⟩ := by
  have hconfig : lockedMonitor.targetTracker.config = {} := by decide +kernel
  exact overlay_touches_tracked_iff (hconfig ▸ TargetTracker.new_default)
    ⟨0, [correctedTag, centredTag]⟩ (milliseconds 99)

/-- A sighting the tracker rejects is shown at the position of the track. -/
theorem overlay_moves_rejected : ¬ lockedMonitor.targetTracker.TouchesTracked
    ⟨milliseconds 99, [correctedTag]⟩
    (lockedMonitor.process ⟨0, [correctedTag]⟩ (milliseconds 99)).latestTargets := by
  intro h
  have hnone : lockedMonitor.targetTracker.selected ⟨milliseconds 99, [correctedTag]⟩ = none :=
    Option.isNone_iff_eq_none.1 (by decide +kernel)
  have hsame := congrArg (List.map TargetObservation.position) (h.rejected hnone)
  have hmoved : (lockedMonitor.process ⟨0, [correctedTag]⟩ (milliseconds 99)).latestTargets.map
      TargetObservation.position ≠ [correctedTag].map TargetObservation.position := by
    decide +kernel
  exact hmoved hsame

end VisionMonitor

end OnboardAutonomy
