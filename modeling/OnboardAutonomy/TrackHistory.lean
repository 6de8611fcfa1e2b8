import OnboardAutonomy.Selection
import OnboardAutonomy.TargetTracks
import Mathlib.Algebra.Order.Ring.Rat

namespace OnboardAutonomy
open ExactDouble Selection
set_option autoImplicit true

/-- An observation that was taken from a frame, at the time of the frame. -/
structure Acceptance where
  time : TimePoint
  observation : TargetObservation

/-- The measured position of an observation. -/
def TargetObservation.measured (o : TargetObservation) : Fin 3 → ℚ :=
  match o.pose with
  | some pose => ![pose.position.rightM.value, pose.position.downM.value,
      pose.position.forwardM.value]
  | none => 0

def TargetObservation.margin (o : TargetObservation) : ℚ := o.decisionMargin.value

/-- The largest value of the counter of consecutive observations. -/
def kMaximumCount : Nat := 4294967295

namespace TrackRules

def valid (rules : TrackRules) (o : TargetObservation) : Bool :=
  validObservation o rules.config.minimumDecisionMargin

/-- What is left of a track when a frame comes: all of it within the timeout, nothing after. -/
def alive (rules : TrackRules) (now : TimePoint) : List Acceptance → List Acceptance
  | [] => []
  | a :: earlier => if rules.lossTimeout < now - a.time then [] else a :: earlier

/-- The valid observations, of the tag of the track if there is one. -/
def allows (rules : TrackRules) (track : List Acceptance) (o : TargetObservation) : Bool :=
  rules.valid o && track.head?.all fun a => o.id == a.observation.id

/-- The observation a frame contributes to a track. -/
def accepted (rules : TrackRules) (track : List Acceptance) (f : ProcessedFrame) :
    Option TargetObservation :=
  selectObservation (rules.allows (rules.alive f.time track)) f.observations

def confirmed (rules : TrackRules) (track : List Acceptance) : Bool :=
  rules.requiredConsecutiveObservations ≤ min track.length kMaximumCount

/-- A frame extends the track, leaves it, or ends it. -/
def extend (rules : TrackRules) (track : List Acceptance) (f : ProcessedFrame) : List Acceptance :=
  match rules.accepted track f with
  | some o => ⟨f.time, o⟩ :: rules.alive f.time track
  | none => if rules.confirmed (rules.alive f.time track) then rules.alive f.time track else []

/-- The observations accepted since the current track was acquired, newest first. -/
def track (rules : TrackRules) : List ProcessedFrame → List Acceptance
  | [] => []
  | f :: fs => rules.extend (rules.track fs) f

end TrackRules

/-- An observation a tracker may take: read without correction, with a margin of at least the
minimum, a position in numbers and in front of the camera. -/
structure TrackRules.Valid (rules : TrackRules) (o : TargetObservation) : Prop where
  corrected : o.correctedBits = 0
  margin : o.decisionMargin = .finite o.margin
  enough : rules.minimumDecisionMargin ≤ o.margin
  pose : ∃ pose, o.pose = some pose ∧ pose.position = .exact o.measured
  ahead : 0 < depth o.measured

theorem TrackRules.valid_iff {rules : TrackRules} (o : TargetObservation) :
    rules.valid o = true ↔ rules.Valid o := by
  constructor
  · intro h
    obtain ⟨pose, v, hpose, hposition, _, x, hx, hid, hbits, ⟨margin, hm, hle⟩, _, hforward⟩ :=
      validObservation_sighted ⟨0, [o]⟩ List.mem_cons_self h
    rw [List.mem_singleton.1 hx] at hbits hm
    have hmeasured : o.measured = v := by
      rw [TargetObservation.measured, hpose]
      dsimp only
      rw [hposition]
      funext i
      match i with
      | 0 | 1 | 2 => rfl
    have hmargin : o.margin = margin := by
      rw [TargetObservation.margin, hm]
      rfl
    rw [← hmargin] at hm hle
    rw [← hmeasured] at hposition hforward
    exact ⟨hbits, hm, hle, ⟨pose, hpose, hposition⟩, hforward⟩
  · intro h
    obtain ⟨pose, hpose, hposition⟩ := h.pose
    simp only [TrackRules.valid, validObservation, hpose, hposition, h.corrected, h.margin,
      TrackRules.config, Double.isFinite_finite, Double.blt_finite, finitePosition,
      CameraFramePosition.exact, Bool.and_true, beq_self_eq_true, Bool.true_and, Bool.and_eq_true,
      Bool.not_eq_true', decide_eq_false_iff_not, not_lt, decide_eq_true_eq]
    exact ⟨h.enough, h.ahead⟩

theorem selectObservation_select (wanted : TargetObservation → Bool)
    (observations : List TargetObservation) : selectObservation wanted observations =
      select wanted (fun best o => best.decisionMargin.blt o.decisionMargin) observations := by
  rw [selectObservation, select]
  congr 1
  funext selected o
  cases selected <;> rfl

theorem selectObservation_foremost {wanted : TargetObservation → Bool}
    (hwanted : ∀ o, wanted o = true → o.decisionMargin = .finite o.margin)
    (observations : List TargetObservation) :
    (selectObservation wanted observations = none ∧ ∀ o ∈ observations, wanted o = false) ∨
      ∃ before o rest, observations = before ++ o :: rest ∧
        selectObservation wanted observations = some o ∧
        Foremost wanted TargetObservation.margin before o rest := by
  rw [selectObservation_select]
  apply select_foremost
  intro a b ha hb
  rw [hwanted a ha, hwanted b hb, Double.blt_finite, decide_eq_true_iff]

namespace TrackRules

theorem allows_iff {rules : TrackRules} (track : List Acceptance) (o : TargetObservation) :
    rules.allows track o = true ↔
      rules.Valid o ∧ ∀ a, track.head? = some a → o.id = a.observation.id := by
  rw [allows, Bool.and_eq_true, valid_iff]
  cases track.head? with
  | none => simp
  | some a => simp

theorem accepted_cases (rules : TrackRules) (track : List Acceptance) (f : ProcessedFrame) :
    (rules.accepted track f = none ∧
      ∀ o ∈ f.observations, rules.allows (rules.alive f.time track) o = false) ∨
    ∃ before o rest, f.observations = before ++ o :: rest ∧ rules.accepted track f = some o ∧
      Foremost (rules.allows (rules.alive f.time track)) TargetObservation.margin before o rest :=
  selectObservation_foremost (fun o ho => ((allows_iff _ o).1 ho).1.margin) f.observations

theorem alive_cases (rules : TrackRules) (now : TimePoint) (track : List Acceptance) :
    (rules.alive now track = track ∧ ∀ a, track.head? = some a → now - a.time ≤ rules.lossTimeout) ∨
    (rules.alive now track = [] ∧ ∃ a, track.head? = some a ∧ rules.lossTimeout < now - a.time) := by
  cases track with
  | nil => exact .inl ⟨rfl, fun a h => by cases h⟩
  | cons a earlier =>
    rw [alive]
    split
    · rename_i hold
      exact .inr ⟨rfl, a, rfl, hold⟩
    · rename_i hrecent
      refine .inl ⟨rfl, fun b h => ?_⟩
      cases h
      exact Int.not_lt.1 hrecent

/-- The observations of a track are valid and show one tag. -/
structure Sound (rules : TrackRules) (track : List Acceptance) : Prop where
  valid : ∀ a ∈ track, rules.Valid a.observation
  uniform : ∀ a ∈ track, ∀ b, track.head? = some b → a.observation.id = b.observation.id

theorem Sound.nil (rules : TrackRules) : Sound rules [] :=
  ⟨fun a h => (by cases h), fun a h => (by cases h)⟩

theorem Sound.alive {track : List Acceptance} (h : Sound rules track) (now : TimePoint) :
    Sound rules (rules.alive now track) := by
  rcases rules.alive_cases now track with ⟨hkept, _⟩ | ⟨hgone, _⟩
  · rw [hkept]
    exact h
  · rw [hgone]
    exact .nil rules

theorem Sound.cons {track : List Acceptance} (h : Sound rules track)
    (ho : rules.allows track o = true) : Sound rules (⟨now, o⟩ :: track) := by
  obtain ⟨hvalid, hid⟩ := (allows_iff track o).1 ho
  constructor
  · intro a ha
    rcases List.mem_cons.1 ha with ha | ha
    · rw [ha]
      exact hvalid
    · exact h.valid a ha
  · intro a ha b hb
    cases hb
    rcases List.mem_cons.1 ha with ha | ha
    · rw [ha]
    · cases track with
      | nil => cases ha
      | cons c earlier => exact (h.uniform a ha c rfl).trans (hid c rfl).symm

theorem Sound.extend {track : List Acceptance} (h : Sound rules track) (f : ProcessedFrame) :
    Sound rules (rules.extend track f) := by
  rw [TrackRules.extend]
  rcases rules.accepted_cases track f with ⟨hnone, _⟩ | ⟨_, o, _, _, hsome, hmax⟩
  · rw [hnone]
    dsimp only
    split
    · exact h.alive f.time
    · exact .nil rules
  · rw [hsome]
    exact (h.alive f.time).cons hmax.chosen

theorem track_sound (rules : TrackRules) (fs : List ProcessedFrame) :
    Sound rules (rules.track fs) := by
  induction fs with
  | nil => exact .nil rules
  | cons f fs ih => exact ih.extend f

end TrackRules

namespace TargetTracker

/-- The tracker once an expired track is dropped. -/
def unexpired (t : TargetTracker) (now : TimePoint) : TargetTracker :=
  if t.expired now then t.reset else t

/-- The observation an update accepts. -/
def selected (t : TargetTracker) (f : ProcessedFrame) : Option TargetObservation :=
  selectObservation (t.unexpired f.time).wants f.observations

/-- What an update does without an observation to accept. -/
def miss (t : TargetTracker) : TargetTracker :=
  if t.targetId.isSome && t.consecutiveObservations < t.config.requiredConsecutiveObservations
  then t.reset else t

theorem update_some {t : TargetTracker} (h : t.selected f = some o) (hpose : o.pose = some pose) :
    t.update f.observations f.time = (t.unexpired f.time).accept o pose.position f.time := by
  rw [selected, unexpired] at h
  rw [update, h]
  dsimp only
  rw [hpose, unexpired]

theorem update_none {t : TargetTracker} (h : t.selected f = none) :
    t.update f.observations f.time = (t.unexpired f.time).miss := by
  rw [selected, unexpired] at h
  rw [update, miss, unexpired]
  generalize (if t.expired f.time then t.reset else t) = u at h
  rw [h]
  dsimp only
  cases htarget : u.targetId with
  | some id =>
    rw [Option.isSome_some, if_pos rfl, Bool.true_and]
    simp only [decide_eq_true_eq]
  | none =>
    have hsecond : (fun o => validObservation o u.config.minimumDecisionMargin) = u.wants := by
      funext o
      rw [wants, htarget, Bool.and_true]
    rw [hsecond, h, Option.isSome_none, Bool.false_and]
    rfl

/-- The state of a tracker says of its track what the code keeps of it. -/
structure Holds (rules : TrackRules) (track : List Acceptance) (t : TargetTracker) : Prop where
  config : t.config = rules.config
  targetId : t.targetId = track.head?.map (·.observation.id)
  consecutive : t.consecutiveObservations = min track.length kMaximumCount
  accepted : t.acceptedObservations = track.length
  last : t.lastObservedAt = track.head?.map (·.time)
  margin : t.latestDecisionMargin = track.head?.map (·.observation.decisionMargin)
  position : t.position = track.head?.map fun _ =>
    .exact (smoothed rules.positionSmoothingFactor (track.map (·.observation.measured)))

theorem Holds.nil {t : TargetTracker} (hc : t.config = rules.config) :
    Holds rules [] t.reset :=
  ⟨hc, rfl, rfl, rfl, rfl, rfl, rfl⟩

theorem countObservation_min (n : Nat) :
    countObservation (min n kMaximumCount) = min (n + 1) kMaximumCount := by
  rw [countObservation, kMaximumCount]
  split
  · omega
  · omega

theorem Holds.expired_cons {a : Acceptance} (h : Holds rules (a :: earlier) t)
    (htimeout : 0 < rules.lossTimeout) (now : TimePoint) :
    t.expired now = true ↔ rules.lossTimeout < now - a.time := by
  have hlast : t.lastObservedAt = some a.time := h.last
  rw [expired, hlast, h.config, TrackRules.config, Bool.and_eq_true, decide_eq_true_eq,
    decide_eq_true_eq]
  constructor
  · exact fun hold => hold.2
  · intro hold
    exact ⟨Int.le_of_lt (Int.lt_of_sub_pos (Int.lt_trans htimeout hold)), hold⟩

theorem Holds.unexpired (h : Holds rules track t) (htimeout : 0 < rules.lossTimeout)
    (now : TimePoint) : Holds rules (rules.alive now track) (t.unexpired now) := by
  rw [TargetTracker.unexpired]
  cases track with
  | nil =>
    have hexpired : t.expired now = false := by rw [expired, h.last]; rfl
    rw [hexpired]
    exact h
  | cons a earlier =>
    rw [TrackRules.alive]
    by_cases hold : rules.lossTimeout < now - a.time
    · rw [if_pos ((h.expired_cons htimeout now).2 hold), if_pos hold]
      exact .nil h.config
    · rw [if_neg fun he => hold ((h.expired_cons htimeout now).1 he), if_neg hold]
      exact h

theorem Holds.accept {pose : TargetPose} (h : Holds rules track t)
    (hposition : pose.position = .exact o.measured)
    (hid : ∀ a, track.head? = some a → o.id = a.observation.id)
    (now : TimePoint) : Holds rules (⟨now, o⟩ :: track) (t.accept o pose.position now) := by
  cases track with
  | nil =>
    have htarget : t.targetId = none := h.targetId
    rw [TargetTracker.accept, htarget, hposition]
    exact ⟨h.config, rfl, rfl, rfl, rfl, rfl, rfl⟩
  | cons a earlier =>
    have htarget : t.targetId = some a.observation.id := h.targetId
    have hold : t.position = some (.exact (smoothed rules.positionSmoothingFactor
        ((a :: earlier).map (·.observation.measured)))) := h.position
    rw [TargetTracker.accept, htarget, hold, hposition]
    exact {
      config := h.config
      targetId := by rw [← hid a rfl]; rfl
      consecutive := by
        dsimp only
        rw [h.consecutive, countObservation_min]
        rfl
      accepted := congrArg (· + 1) h.accepted
      last := rfl
      margin := rfl
      position := by
        dsimp only
        rw [h.config, TrackRules.config, smoothPosition_exact]
        rfl }

theorem Holds.miss (h : Holds rules track t) :
    Holds rules (if rules.confirmed track then track else []) t.miss := by
  cases track with
  | nil =>
    have htarget : t.targetId = none := h.targetId
    rw [ite_self, TargetTracker.miss, htarget]
    exact h
  | cons a earlier =>
    have htarget : t.targetId = some a.observation.id := h.targetId
    rw [TargetTracker.miss, TrackRules.confirmed, htarget, h.config, TrackRules.config,
      h.consecutive, Option.isSome_some, Bool.true_and]
    by_cases hconfirmed : rules.requiredConsecutiveObservations ≤
        min (a :: earlier).length kMaximumCount
    · rw [if_pos (decide_eq_true hconfirmed),
        if_neg fun he => Nat.not_lt.2 hconfirmed (of_decide_eq_true he)]
      exact h
    · rw [if_neg fun he => hconfirmed (of_decide_eq_true he),
        if_pos (decide_eq_true (Nat.lt_of_not_le hconfirmed))]
      exact .nil h.config

theorem Holds.selected (h : Holds rules track t) (htimeout : 0 < rules.lossTimeout)
    (f : ProcessedFrame) : t.selected f = rules.accepted track f := by
  have hd := h.unexpired htimeout f.time
  have hwants : (t.unexpired f.time).wants = rules.allows (rules.alive f.time track) := by
    funext o
    rw [wants, TrackRules.allows, TrackRules.valid, hd.config, hd.targetId]
    cases rules.alive f.time track <;> rfl
  rw [TargetTracker.selected, hwants, TrackRules.accepted]

/-- The tracker refines the track: one update does what one frame does. -/
theorem Holds.update (h : Holds rules track t) (htimeout : 0 < rules.lossTimeout)
    (f : ProcessedFrame) :
    Holds rules (rules.extend track f) (t.update f.observations f.time) := by
  have hd := h.unexpired htimeout f.time
  have hselected := h.selected htimeout f
  rw [TrackRules.extend]
  rcases rules.accepted_cases track f with ⟨hnone, _⟩ | ⟨_, o, _, _, hsome, hmax⟩
  · rw [hnone] at hselected ⊢
    rw [update_none hselected]
    exact hd.miss
  · rw [hsome] at hselected ⊢
    obtain ⟨hvalid, hid⟩ := (TrackRules.allows_iff _ o).1 hmax.chosen
    obtain ⟨pose, hpose, hposition⟩ := hvalid.pose
    rw [update_some hselected hpose]
    exact hd.accept hposition hid f.time

/-- The tracker after some frames, the newest first. -/
def processed (t : TargetTracker) : List ProcessedFrame → TargetTracker
  | [] => t
  | f :: fs => (t.processed fs).update f.observations f.time

/-- All the observations a tracker accepts from some frames, newest first. -/
def acceptances (t : TargetTracker) : List ProcessedFrame → List Acceptance
  | [] => []
  | f :: fs => match (t.processed fs).selected f with
    | some o => ⟨f.time, o⟩ :: t.acceptances fs
    | none => t.acceptances fs

theorem new_accepted {config : TargetTrackerConfig} (h : TargetTracker.new config = .ok t) :
    ∃ rules : TrackRules, config = rules.config ∧ 0 < rules.requiredConsecutiveObservations ∧
      0 < rules.lossTimeout ∧ 0 < rules.positionSmoothingFactor ∧
      rules.positionSmoothingFactor ≤ 1 ∧ Holds rules [] t := by
  obtain ⟨rules, hconfig, _⟩ := new_follows h
  rw [hconfig, TargetTracker.new] at h
  split at h
  · cases h
  rename_i hrequired
  split at h
  · cases h
  rename_i htimeout
  split at h
  · cases h
  rename_i hfactor
  split at h
  · cases h
  simp only [TrackRules.config, Double.isFinite_finite, Double.ble_finite, Double.blt_finite,
    Bool.or_eq_true, Bool.not_true, Bool.false_eq_true, false_or, decide_eq_true_eq, not_or,
    not_le, not_lt] at hfactor
  cases h
  exact ⟨rules, hconfig, Nat.pos_of_ne_zero hrequired, Int.not_le.1 htimeout, hfactor.1, hfactor.2,
    rfl, rfl, rfl, rfl, rfl, rfl, rfl⟩

theorem Holds.processed (h : Holds rules [] t) (htimeout : 0 < rules.lossTimeout)
    (fs : List ProcessedFrame) : Holds rules (rules.track fs) (t.processed fs) := by
  induction fs with
  | nil => exact h
  | cons f fs ih => exact ih.update htimeout f

theorem Holds.track_prefix (h : Holds rules [] t) (htimeout : 0 < rules.lossTimeout)
    (fs : List ProcessedFrame) : rules.track fs <+: t.acceptances fs := by
  induction fs with
  | nil => exact List.prefix_refl []
  | cons f fs ih =>
    have hselected := (h.processed htimeout fs).selected htimeout f
    have halive : rules.alive f.time (rules.track fs) <+: t.acceptances fs := by
      rcases rules.alive_cases f.time (rules.track fs) with ⟨hkept, _⟩ | ⟨hgone, _⟩
      · rw [hkept]
        exact ih
      · rw [hgone]
        exact List.nil_prefix
    rw [TargetTracker.acceptances, hselected, TrackRules.track, TrackRules.extend]
    cases rules.accepted (rules.track fs) f with
    | none =>
      dsimp only
      split
      · exact halive
      · exact List.nil_prefix
    | some o => exact List.cons_prefix_cons.2 ⟨rfl, halive⟩

/-- How a tracker keeps to a tag, in one of its states and in the next update. -/
structure KeepsIdentity (rules : TrackRules) (accepted : List Acceptance) (t : TargetTracker) :
    Prop where
  together : t.position.isSome = t.targetId.isSome ∧
    t.lastObservedAt.isSome = t.targetId.isSome ∧
    t.latestDecisionMargin.isSome = t.targetId.isSome
  tracking : ∀ now, (t.snapshot now).phase = .tracking →
    ∃ id last since before, (t.snapshot now).targetId = some id ∧
      accepted = last :: since ++ before ∧ t.acceptedObservations = (last :: since).length ∧
      rules.requiredConsecutiveObservations ≤ (last :: since).length ∧
      (∀ a ∈ last :: since, a.observation.id = id) ∧ now - last.time ≤ rules.lossTimeout
  keeps : ∀ (f : ProcessedFrame) id last, t.targetId = some id → t.lastObservedAt = some last →
    rules.requiredConsecutiveObservations ≤ t.consecutiveObservations →
    f.time - last ≤ rules.lossTimeout →
    (t.update f.observations f.time).targetId = some id ∧
      rules.requiredConsecutiveObservations ≤
        (t.update f.observations f.time).consecutiveObservations
  drops : ∀ (f : ProcessedFrame) id last, t.targetId = some id → t.lastObservedAt = some last →
    t.consecutiveObservations < rules.requiredConsecutiveObservations →
    (∀ o ∈ f.observations, rules.Valid o → o.id ≠ id) →
    (t.update f.observations f.time).targetId ≠ some id ∧
      (f.time - last ≤ rules.lossTimeout → t.update f.observations f.time = t.reset)
  accepts : ∀ (f : ProcessedFrame) o, t.selected f = some o → o ∈ f.observations ∧ rules.Valid o ∧
    (∀ id, (t.unexpired f.time).targetId = some id → o.id = id) ∧
    (∀ x ∈ f.observations, rules.Valid x →
      (∀ id, (t.unexpired f.time).targetId = some id → x.id = id) → x.margin ≤ o.margin) ∧
    (t.update f.observations f.time).targetId = some o.id ∧
    (t.update f.observations f.time).lastObservedAt = some f.time ∧
    (t.update f.observations f.time).latestDecisionMargin = some o.decisionMargin

theorem Holds.together (h : Holds rules track t) : t.position.isSome = t.targetId.isSome ∧
    t.lastObservedAt.isSome = t.targetId.isSome ∧
    t.latestDecisionMargin.isSome = t.targetId.isSome := by
  rw [h.position, h.last, h.margin, h.targetId]
  simp only [Option.isSome_map, and_self]

theorem Holds.no_track (h : Holds rules [] t) : t = { config := rules.config } := by
  obtain ⟨hconfig, hid, hconsecutive, haccepted, hlast, hmargin, hposition⟩ := h
  cases t
  dsimp only at hconfig hid hconsecutive haccepted hlast hmargin hposition
  rw [hconfig, hid, hconsecutive, haccepted, hlast, hmargin, hposition]
  rfl

/-- A snapshot that is tracking shows a confirmed track whose end is recent. -/
theorem Holds.tracking (h : Holds rules track t) (hs : TrackRules.Sound rules track)
    (htimeout : 0 < rules.lossTimeout) (hp : (t.snapshot now).phase = .tracking) :
    ∃ id last since, track = last :: since ∧ (t.snapshot now).targetId = some id ∧
      rules.requiredConsecutiveObservations ≤ track.length ∧
      (∀ a ∈ track, a.observation.id = id) ∧ now - last.time ≤ rules.lossTimeout := by
  rw [TargetTracker.snapshot] at hp ⊢
  split at hp
  · cases hp
  rename_i hshown
  rw [Bool.or_eq_true, not_or] at hshown
  obtain ⟨hid, hrecent⟩ := hshown
  rw [if_neg (by rw [Bool.or_eq_true, not_or]; exact ⟨hid, hrecent⟩)]
  dsimp only at hp ⊢
  split at hp
  · rename_i hrequired
    rw [h.config, TrackRules.config, h.consecutive] at hrequired
    cases track with
    | nil =>
      rw [h.targetId] at hid
      exact absurd rfl hid
    | cons last since =>
      refine ⟨last.observation.id, last, since, rfl, h.targetId,
        hrequired.trans (Nat.min_le_left _ _), fun a ha => hs.uniform a ha last rfl, ?_⟩
      rw [h.expired_cons htimeout] at hrecent
      exact Int.not_lt.1 hrecent
  · cases hp

theorem Holds.keeps {id : Int} {last : TimePoint} (h : Holds rules track t)
    (htimeout : 0 < rules.lossTimeout) (f : ProcessedFrame) (hid : t.targetId = some id)
    (hlast : t.lastObservedAt = some last)
    (hconfirmed : rules.requiredConsecutiveObservations ≤ t.consecutiveObservations)
    (hrecent : f.time - last ≤ rules.lossTimeout) :
    (t.update f.observations f.time).targetId = some id ∧
      rules.requiredConsecutiveObservations ≤
        (t.update f.observations f.time).consecutiveObservations := by
  have hu := h.update htimeout f
  cases track with
  | nil =>
    rw [h.targetId] at hid
    cases hid
  | cons a earlier =>
    have ha : a.observation.id = id := Option.some.inj (h.targetId.symm.trans hid)
    have hlast : a.time = last := Option.some.inj (h.last.symm.trans hlast)
    have halive : rules.alive f.time (a :: earlier) = a :: earlier := by
      rw [TrackRules.alive, hlast, if_neg (Int.not_lt.2 hrecent)]
    rw [h.consecutive] at hconfirmed
    rw [TrackRules.extend, halive] at hu
    rcases rules.accepted_cases (a :: earlier) f with ⟨hnone, _⟩ | ⟨_, o, _, _, hsome, hmax⟩
    · rw [hnone] at hu
      dsimp only at hu
      rw [if_pos (by rw [TrackRules.confirmed]; exact decide_eq_true hconfirmed)] at hu
      rw [hu.targetId, hu.consecutive, ← ha]
      exact ⟨rfl, hconfirmed⟩
    · rw [hsome] at hu
      rw [halive] at hmax
      have ho := ((TrackRules.allows_iff _ o).1 hmax.chosen).2 a rfl
      rw [hu.targetId, hu.consecutive, ← ha, ← ho]
      refine ⟨rfl, hconfirmed.trans ?_⟩
      dsimp only [List.length_cons]
      omega

theorem Holds.drops {id : Int} {last : TimePoint} (h : Holds rules track t)
    (htimeout : 0 < rules.lossTimeout) (f : ProcessedFrame) (hid : t.targetId = some id)
    (hlast : t.lastObservedAt = some last)
    (hunconfirmed : t.consecutiveObservations < rules.requiredConsecutiveObservations)
    (hmissing : ∀ o ∈ f.observations, rules.Valid o → o.id ≠ id) :
    (t.update f.observations f.time).targetId ≠ some id ∧
      (f.time - last ≤ rules.lossTimeout → t.update f.observations f.time = t.reset) := by
  have hu := h.update htimeout f
  cases track with
  | nil =>
    rw [h.targetId] at hid
    cases hid
  | cons a earlier =>
    have ha : a.observation.id = id := Option.some.inj (h.targetId.symm.trans hid)
    have hlast : a.time = last := Option.some.inj (h.last.symm.trans hlast)
    rw [h.consecutive] at hunconfirmed
    have hconfirmed : rules.confirmed (a :: earlier) = false :=
      decide_eq_false (Nat.not_le.2 hunconfirmed)
    rw [TrackRules.extend] at hu
    rcases rules.accepted_cases (a :: earlier) f with
      ⟨hnone, _⟩ | ⟨before, o, rest, hsplit, hsome, hmax⟩
    · have hended : (if rules.confirmed (rules.alive f.time (a :: earlier)) = true
          then rules.alive f.time (a :: earlier) else []) = [] := by
        rcases rules.alive_cases f.time (a :: earlier) with ⟨hkept, _⟩ | ⟨hgone, _⟩
        · rw [hkept, hconfirmed]
          rfl
        · rw [hgone, ite_self]
      rw [hnone] at hu
      dsimp only at hu
      rw [hended] at hu
      rw [hu.no_track, reset, h.config]
      exact ⟨Option.some_ne_none id |>.symm, fun _ => rfl⟩
    · have ho : o ∈ f.observations := by
        rw [hsplit]
        exact List.mem_append_right _ List.mem_cons_self
      obtain ⟨hvalid, hallowed⟩ := (TrackRules.allows_iff _ o).1 hmax.chosen
      have hne := hmissing o ho hvalid
      rw [hsome] at hu
      constructor
      · rw [hu.targetId]
        exact fun he => hne (Option.some.inj he)
      · intro hrecent
        rw [TrackRules.alive, hlast, if_neg (Int.not_lt.2 hrecent)] at hallowed
        exact absurd ((hallowed a rfl).trans ha) hne

theorem Holds.accepts (h : Holds rules track t) (htimeout : 0 < rules.lossTimeout)
    (f : ProcessedFrame) (hselected : t.selected f = some o) :
    o ∈ f.observations ∧ rules.Valid o ∧
    (∀ id, (t.unexpired f.time).targetId = some id → o.id = id) ∧
    (∀ x ∈ f.observations, rules.Valid x →
      (∀ id, (t.unexpired f.time).targetId = some id → x.id = id) → x.margin ≤ o.margin) ∧
    (t.update f.observations f.time).targetId = some o.id ∧
    (t.update f.observations f.time).lastObservedAt = some f.time ∧
    (t.update f.observations f.time).latestDecisionMargin = some o.decisionMargin := by
  have hd := h.unexpired htimeout f.time
  have hu := h.update htimeout f
  have hid : ∀ x : TargetObservation,
      (∀ id, (t.unexpired f.time).targetId = some id → x.id = id) ↔
      ∀ a, (rules.alive f.time track).head? = some a → x.id = a.observation.id := by
    intro x
    rw [hd.targetId]
    cases (rules.alive f.time track).head? with
    | none => simp
    | some a => simp
  rw [h.selected htimeout] at hselected
  rw [TrackRules.extend, hselected] at hu
  rcases rules.accepted_cases track f with
    ⟨hnone, _⟩ | ⟨before, winner, rest, hsplit, hsome, hmax⟩
  · rw [hnone] at hselected
    cases hselected
  · rw [hsome] at hselected
    cases hselected
    obtain ⟨hvalid, hallowed⟩ := (TrackRules.allows_iff _ o).1 hmax.chosen
    refine ⟨?_, hvalid, (hid o).2 hallowed, ?_, hu.targetId, hu.last, hu.margin⟩
    · rw [hsplit]
      exact List.mem_append_right _ List.mem_cons_self
    · intro x hx hv hsame
      rw [hsplit] at hx
      exact hmax.le hx ((TrackRules.allows_iff _ x).2 ⟨hv, (hid x).1 hsame⟩)

/-- After any frames a tracker that was built keeps to the tag it follows. -/
theorem track_keeps_identity {config : TargetTrackerConfig}
    (h : TargetTracker.new config = .ok t) :
    ∃ rules : TrackRules, config = rules.config ∧
      ∀ fs, KeepsIdentity rules (t.acceptances fs) (t.processed fs) := by
  obtain ⟨rules, hconfig, _, htimeout, _, _, hstart⟩ := new_accepted h
  refine ⟨rules, hconfig, fun fs => ?_⟩
  have hholds := hstart.processed htimeout fs
  exact {
    together := hholds.together
    tracking := by
      intro now hp
      obtain ⟨id, last, since, htrack, hid, hrequired, huniform, hrecent⟩ :=
        hholds.tracking (rules.track_sound fs) htimeout hp
      obtain ⟨before, hbefore⟩ := hstart.track_prefix htimeout fs
      have haccepted := hholds.accepted
      rw [htrack] at hbefore haccepted hrequired huniform
      exact ⟨id, last, since, before, hid, hbefore.symm, haccepted, hrequired, huniform, hrecent⟩
    keeps := fun f id last => hholds.keeps htimeout f
    drops := fun f id last => hholds.drops htimeout f
    accepts := fun f o => hholds.accepts htimeout f }

/-- A tag in the middle of the image, half a metre in front of the camera. -/
def centredTag : TargetObservation where
  id := 7
  decisionMargin := .finite 50
  pose := some { position := ⟨.finite 0, .finite 0, .finite (1 / 2)⟩ }

theorem new_default : TargetTracker.new {} = .ok {} := by
  rw [TargetTracker.new, if_neg (by decide), if_neg (by decide), if_neg (by decide +kernel),
    if_neg (by decide +kernel)]

theorem track_keeps_identity_default :
    (∃ rules : TrackRules, ({} : TargetTrackerConfig) = rules.config ∧
      ∀ fs, KeepsIdentity rules (TargetTracker.acceptances {} fs) (TargetTracker.processed {} fs)) ∧
    ((TargetTracker.processed {} [⟨milliseconds 66, [centredTag]⟩, ⟨milliseconds 33, [centredTag]⟩,
      ⟨0, [centredTag]⟩]).snapshot (milliseconds 70)).phase = .tracking :=
  ⟨track_keeps_identity new_default, by decide +kernel⟩

end TargetTracker

end OnboardAutonomy
