import OnboardAutonomy.TargetTransform
import Mathlib.Data.Fin.VecNotation
import Mathlib.Algebra.Module.Pi

namespace OnboardAutonomy
open ExactDouble
set_option autoImplicit true

/-- A tracker configuration in exact numbers. -/
structure TrackRules where
  requiredConsecutiveObservations : Nat
  lossTimeout : Duration
  positionSmoothingFactor : ℚ
  minimumDecisionMargin : ℚ

def TrackRules.config (rules : TrackRules) : TargetTrackerConfig where
  requiredConsecutiveObservations := rules.requiredConsecutiveObservations
  lossTimeout := rules.lossTimeout
  positionSmoothingFactor := .finite rules.positionSmoothingFactor
  minimumDecisionMargin := .finite rules.minimumDecisionMargin

/-- One answer of the detector and the time it was processed. -/
structure ProcessedFrame where
  time : TimePoint
  observations : List TargetObservation

/-- An observation that was taken from a frame. -/
structure Sighting where
  time : TimePoint
  measured : Fin 3 → ℚ

/-- The frame shows the tag, read without correction, with enough margin and in front of the
camera. -/
def Sighted (rules : TrackRules) (id : Int) (f : ProcessedFrame) (s : Sighting) : Prop :=
  s.time = f.time ∧ ∃ o ∈ f.observations, o.id = id ∧ o.correctedBits = 0 ∧
    (∃ margin, o.decisionMargin = .finite margin ∧ rules.minimumDecisionMargin ≤ margin) ∧
    (∃ pose, o.pose = some pose ∧ pose.position = .exact s.measured) ∧ 0 < depth s.measured

/-- The tracks of a tag through the processed frames, newest first. A frame without the tag ends
a track that has not been confirmed yet. -/
inductive Tracked (rules : TrackRules) (id : Int) :
    List ProcessedFrame → List Sighting → Prop where
  | acquired : Sighted rules id f s → Tracked rules id (f :: fs) [s]
  | extended : Tracked rules id fs (last :: ss) → Sighted rules id f s →
      s.time - last.time ≤ rules.lossTimeout → Tracked rules id (f :: fs) (s :: last :: ss)
  | held : Tracked rules id fs ss → rules.requiredConsecutiveObservations ≤ ss.length →
      Tracked rules id (f :: fs) ss

/-- The exponentially smoothed position of a track, newest measurement first. -/
def smoothed (factor : ℚ) : List (Fin 3 → ℚ) → Fin 3 → ℚ
  | [] => 0
  | [measured] => measured
  | measured :: last :: earlier =>
    (1 - factor) • smoothed factor (last :: earlier) + factor • measured

theorem smoothPosition_exact (factor : ℚ) (v w : Fin 3 → ℚ) :
    smoothPosition (.exact v) (.exact w) (.finite factor) =
      .exact ((1 - factor) • v + factor • w) := by
  simp only [smoothPosition, CameraFramePosition.exact, Double.sub_finite, Double.mul_finite,
    Double.add_finite, Pi.add_apply, Pi.smul_apply, smul_eq_mul]

theorem Tracked.time_mem {id : Int} (ht : Tracked rules id fs ss) (hs : s ∈ ss) :
    ∃ f ∈ fs, s.time = f.time := by
  induction ht with
  | acquired h =>
    rw [List.mem_singleton] at hs
    rw [hs]
    exact ⟨_, List.mem_cons_self, h.1⟩
  | extended _ h _ ih =>
    rcases List.mem_cons.1 hs with hs | hs
    · rw [hs]
      exact ⟨_, List.mem_cons_self, h.1⟩
    · obtain ⟨f, hf, he⟩ := ih hs
      exact ⟨f, List.mem_cons_of_mem _ hf, he⟩
  | held _ _ ih =>
    obtain ⟨f, hf, he⟩ := ih hs
    exact ⟨f, List.mem_cons_of_mem _ hf, he⟩

theorem selectObservation_some (h : selectObservation wanted observations = some o) :
    o ∈ observations ∧ wanted o = true := by
  have hselected : ∀ o, selectObservation wanted observations = some o →
      o ∈ observations ∧ wanted o = true := by
    apply List.foldlRecOn (motive := fun selected => ∀ o, selected = some o →
      o ∈ observations ∧ wanted o = true) observations
    · intro o h
      cases h
    intro selected hold observation hm o hs
    split at hs
    · exact hold o hs
    rename_i hwanted
    rw [Bool.not_eq_true', Bool.not_eq_false] at hwanted
    split at hs
    · cases hs
      exact ⟨hm, hwanted⟩
    · split at hs
      · cases hs
        exact ⟨hm, hwanted⟩
      · exact hold o hs
  exact hselected o h

theorem finitePosition_exact (h : finitePosition p = true) : ∃ v, p = .exact v := by
  simp only [finitePosition, Bool.and_eq_true, Double.isFinite_iff] at h
  obtain ⟨⟨⟨x, hx⟩, y, hy⟩, z, hz⟩ := h
  refine ⟨![x, y, z], ?_⟩
  cases p
  dsimp only at hx hy hz
  rw [hx, hy, hz]
  rfl

theorem validObservation_sighted (f : ProcessedFrame) (ho : o ∈ f.observations)
    (hv : validObservation o rules.config.minimumDecisionMargin = true) :
    ∃ pose v, o.pose = some pose ∧ pose.position = .exact v ∧
      Sighted rules o.id f ⟨f.time, v⟩ := by
  rw [validObservation] at hv
  split at hv
  · cases hv
  rename_i pose hpose
  simp only [Bool.and_eq_true, beq_iff_eq, Bool.not_eq_true'] at hv
  obtain ⟨⟨⟨⟨hbits, hfinite⟩, hmargin⟩, hposition⟩, hforward⟩ := hv
  obtain ⟨margin, hm⟩ := (Double.isFinite_iff _).1 hfinite
  obtain ⟨v, hposition⟩ := finitePosition_exact hposition
  rw [hm, TrackRules.config, Double.blt_finite, decide_eq_false_iff_not, not_lt] at hmargin
  rw [hposition, CameraFramePosition.exact, Double.blt_finite, decide_eq_true_eq] at hforward
  exact ⟨pose, v, hpose, hposition, rfl, o, ho, rfl, hbits, ⟨margin, hm, hmargin⟩,
    ⟨pose, hpose, hposition⟩, hforward⟩

namespace TargetTracker

/-- What a tracker knows after some frames is a track through them. -/
structure Follows (rules : TrackRules) (fs : List ProcessedFrame) (t : TargetTracker) : Prop where
  config : t.config = rules.config
  track : ∀ id, t.targetId = some id → ∃ last earlier,
    Tracked rules id fs (last :: earlier) ∧ t.lastObservedAt = some last.time ∧
    t.consecutiveObservations ≤ (last :: earlier).length ∧
    t.position = some (.exact (smoothed rules.positionSmoothingFactor
      ((last :: earlier).map Sighting.measured)))

theorem Follows.idle (hc : t.config = rules.config) (hid : t.targetId = none) :
    Follows rules fs t :=
  ⟨hc, fun id h => by rw [hid] at h; cases h⟩

theorem new_follows {config : TargetTrackerConfig} (h : TargetTracker.new config = .ok t) :
    ∃ rules : TrackRules, config = rules.config ∧ Follows rules [] t := by
  rw [TargetTracker.new] at h
  split at h
  · cases h
  split at h
  · cases h
  split at h
  · cases h
  rename_i hfactor
  split at h
  · cases h
  rename_i hmargin
  simp only [Bool.or_eq_true, Bool.not_eq_true', not_or, Bool.not_eq_false] at hfactor hmargin
  obtain ⟨factor, hf⟩ := (Double.isFinite_iff _).1 hfactor.1.1
  obtain ⟨margin, hm⟩ := (Double.isFinite_iff _).1 hmargin.1
  have he : config = TrackRules.config ⟨config.requiredConsecutiveObservations,
      config.lossTimeout, factor, margin⟩ := by
    rw [TrackRules.config, ← hf, ← hm]
  cases h
  exact ⟨_, he, .idle he rfl⟩

theorem countObservation_le (n : Nat) : countObservation n ≤ n + 1 := by
  rw [countObservation]
  split
  · exact Nat.le_refl _
  · exact Nat.le_succ n

/-- A sighting of the current tag within the timeout extends the track, any other starts one. -/
theorem Follows.accept (ht : Follows rules fs t) (hs : Sighted rules o.id f ⟨f.time, v⟩)
    (hid : ∀ id, t.targetId = some id → o.id = id)
    (hfresh : ∀ id last, t.targetId = some id → t.lastObservedAt = some last →
      f.time - last ≤ rules.lossTimeout) :
    Follows rules (f :: fs) (t.accept o (.exact v) f.time) := by
  cases htarget : t.targetId with
  | none =>
    rw [TargetTracker.accept, htarget]
    refine ⟨ht.config, ?_⟩
    intro id he
    cases he
    exact ⟨⟨f.time, v⟩, [], .acquired hs, rfl, Nat.le_refl _, rfl⟩
  | some id =>
    obtain ⟨last, earlier, htrack, hlast, hcount, hposition⟩ := ht.track id htarget
    rw [TargetTracker.accept, htarget, hposition]
    refine ⟨ht.config, ?_⟩
    intro id' he
    cases he
    rw [hid id htarget] at hs
    refine ⟨⟨f.time, v⟩, last :: earlier, .extended htrack hs (hfresh id _ htarget hlast), rfl,
      ?_, ?_⟩
    · exact (countObservation_le _).trans (Nat.succ_le_succ hcount)
    · dsimp only
      rw [ht.config, TrackRules.config, smoothPosition_exact]
      rfl

theorem Follows.held (ht : Follows rules fs t)
    (hn : rules.requiredConsecutiveObservations ≤ t.consecutiveObservations) :
    Follows rules (f :: fs) t := by
  refine ⟨ht.config, ?_⟩
  intro id hid
  obtain ⟨last, earlier, htrack, hlast, hcount, hposition⟩ := ht.track id hid
  exact ⟨last, earlier, .held htrack (hn.trans hcount), hlast, hcount, hposition⟩

theorem Follows.drop_expired (ht : Follows rules fs t) (hpast : ∀ f ∈ fs, f.time ≤ now) :
    Follows rules fs (if t.expired now then t.reset else t) ∧
      ∀ id last, (if t.expired now then t.reset else t).targetId = some id →
        (if t.expired now then t.reset else t).lastObservedAt = some last →
          now - last ≤ rules.lossTimeout := by
  split
  · exact ⟨.idle ht.config rfl, fun id last h => by cases h⟩
  · rename_i hx
    refine ⟨ht, ?_⟩
    intro id last hid hlast
    obtain ⟨s, earlier, htrack, hs, _, _⟩ := ht.track id hid
    rw [hlast] at hs
    obtain ⟨f, hf, htime⟩ := htrack.time_mem List.mem_cons_self
    have hle := hpast f hf
    rw [← htime, ← Option.some.inj hs] at hle
    rw [expired, hlast, ht.config] at hx
    simp only [Bool.and_eq_true, decide_eq_true_eq, not_and, not_lt] at hx
    exact hx hle

/-- Every processed frame extends, holds, ends or starts a track. -/
theorem Follows.update (ht : Follows rules fs t) (hpast : ∀ f ∈ fs, f.time ≤ now)
    (observations : List TargetObservation) :
    Follows rules (⟨now, observations⟩ :: fs) (t.update observations now) := by
  obtain ⟨hd, hfresh⟩ := ht.drop_expired hpast
  rw [TargetTracker.update]
  generalize (if t.expired now then t.reset else t) = u at hd hfresh
  cases hfirst : selectObservation u.wants observations with
  | some o =>
    obtain ⟨ho, hw⟩ := selectObservation_some hfirst
    rw [wants, Bool.and_eq_true, hd.config] at hw
    obtain ⟨pose, v, hpose, hposition, hs⟩ :=
      validObservation_sighted ⟨now, observations⟩ ho hw.1
    dsimp only
    rw [hpose]
    dsimp only
    rw [hposition]
    apply hd.accept hs
    · intro id hid
      rw [hid, beq_iff_eq] at hw
      exact hw.2
    · exact hfresh
  | none =>
    dsimp only
    split
    · split
      · exact .idle hd.config rfl
      · rename_i hn
        rw [hd.config] at hn
        exact hd.held (Nat.le_of_not_lt hn)
    · rename_i hid
      rw [Option.not_isSome_iff_eq_none] at hid
      cases hsecond : selectObservation (validObservation · u.config.minimumDecisionMargin)
          observations with
      | none => exact .idle hd.config hid
      | some o =>
        obtain ⟨ho, hw⟩ := selectObservation_some hsecond
        rw [hd.config] at hw
        obtain ⟨pose, v, hpose, hposition, hs⟩ :=
          validObservation_sighted ⟨now, observations⟩ ho hw
        dsimp only
        rw [hpose]
        dsimp only
        rw [hposition]
        apply hd.accept hs
        · intro id he
          rw [hid] at he
          cases he
        · exact hfresh

/-- A snapshot that is tracking shows the end of a confirmed track. -/
theorem Follows.snapshot (ht : Follows rules fs t)
    (hp : (t.snapshot now).phase = .tracking) :
    ∃ id last earlier, t.targetId = some id ∧ Tracked rules id fs (last :: earlier) ∧
      rules.requiredConsecutiveObservations ≤ (last :: earlier).length ∧
      t.position = some (.exact (smoothed rules.positionSmoothingFactor
        ((last :: earlier).map Sighting.measured))) ∧
      (t.snapshot now).position = t.position ∧
      (t.snapshot now).observationAgeMs =
        some (((if last.time ≤ now then now - last.time else 0 : Int) : ℚ) / 1000000) := by
  rw [TargetTracker.snapshot] at hp ⊢
  split at hp
  · cases hp
  rename_i hshown
  rw [Bool.or_eq_true, not_or] at hshown
  obtain ⟨id, hid⟩ :=
    Option.ne_none_iff_exists'.1 fun h => hshown.1 (Option.isNone_iff_eq_none.2 h)
  obtain ⟨last, earlier, htrack, hlast, hcount, hposition⟩ := ht.track id hid
  rw [if_neg (by rw [Bool.or_eq_true, not_or]; exact hshown)]
  dsimp only at hp ⊢
  split at hp
  · rename_i hn
    rw [ht.config] at hn
    exact ⟨id, last, earlier, hid, htrack, hn.trans hcount, hposition, rfl, by rw [hlast]; rfl⟩
  · cases hp

end TargetTracker
end OnboardAutonomy
