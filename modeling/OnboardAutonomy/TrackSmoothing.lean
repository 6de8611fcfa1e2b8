import OnboardAutonomy.NearIsometry
import OnboardAutonomy.TrackHistory
import Mathlib.Algebra.Order.Module.Rat
import Mathlib.Analysis.Convex.Basic
import Mathlib.Data.List.Chain

namespace OnboardAutonomy
open ExactDouble NearIsometry
set_option autoImplicit true

/-- The smoothed position is an average of the measurements. -/
theorem smoothed_mem {s : Set (Fin 3 → ℚ)} (hs : Convex ℚ s) (h0 : 0 ≤ factor) (h1 : factor ≤ 1)
    (ms : List (Fin 3 → ℚ)) (hne : ms ≠ []) (hmem : ∀ m ∈ ms, m ∈ s) : smoothed factor ms ∈ s := by
  induction ms with
  | nil => exact absurd rfl hne
  | cons m earlier ih =>
    have hm := hmem m List.mem_cons_self
    cases earlier with
    | nil => exact hm
    | cons last earlier =>
      have hlast := ih (List.cons_ne_nil _ _) fun x hx => hmem x (List.mem_cons_of_mem _ hx)
      apply hs hlast hm (sub_nonneg.2 h1) h0
      rw [sub_add_cancel]

theorem convex_ball (c : Fin 3 → ℚ) (r : ℚ) :
    Convex ℚ {v : Fin 3 → ℚ | lengthSq (v - c) ≤ r} := by
  intro v hv w hw a b ha hb hab
  have hsplit : a • v + b • w - c = a • (v - c) + b • (w - c) := by
    rw [smul_sub, smul_sub, sub_add_sub_comm, ← add_smul, hab, one_smul]
  change lengthSq (a • v + b • w - c) ≤ r
  rw [hsplit]
  calc lengthSq (a • (v - c) + b • (w - c))
      ≤ a * lengthSq (v - c) + b * lengthSq (w - c) := lengthSq_combo_le ha hb hab _ _
    _ ≤ a * r + b * r :=
        add_le_add (mul_le_mul_of_nonneg_left hv ha) (mul_le_mul_of_nonneg_left hw hb)
    _ = r := by rw [← add_mul, hab, one_mul]

theorem smoothed_between (h0 : 0 ≤ factor) (h1 : factor ≤ 1) (ms : List (Fin 3 → ℚ))
    (hne : ms ≠ []) (i : Fin 3) :
    ∃ low ∈ ms, ∃ high ∈ ms, low i ≤ smoothed factor ms i ∧ smoothed factor ms i ≤ high i := by
  have hlinear : IsLinearMap ℚ fun v : Fin 3 → ℚ => v i := (LinearMap.proj i).isLinear
  have hlow : ∃ low ∈ ms, low i ≤ smoothed factor ms i := by
    by_contra hnone
    have hall : ∀ m ∈ ms, m ∈ {v : Fin 3 → ℚ | smoothed factor ms i < v i} :=
      fun m hm => not_le.1 fun hle => hnone ⟨m, hm, hle⟩
    have hself : smoothed factor ms i < smoothed factor ms i :=
      smoothed_mem (convex_halfSpace_gt hlinear _) h0 h1 ms hne hall
    exact lt_irrefl _ hself
  have hhigh : ∃ high ∈ ms, smoothed factor ms i ≤ high i := by
    by_contra hnone
    have hall : ∀ m ∈ ms, m ∈ {v : Fin 3 → ℚ | v i < smoothed factor ms i} :=
      fun m hm => not_le.1 fun hle => hnone ⟨m, hm, hle⟩
    have hself : smoothed factor ms i < smoothed factor ms i :=
      smoothed_mem (convex_halfSpace_lt hlinear _) h0 h1 ms hne hall
    exact lt_irrefl _ hself
  obtain ⟨low, hl, hlow⟩ := hlow
  obtain ⟨high, hh, hhigh⟩ := hhigh
  exact ⟨low, hl, high, hh, hlow, hhigh⟩

/-- No gap of a track is longer than the timeout. -/
def TrackRules.Fresh (rules : TrackRules) (track : List Acceptance) : Prop :=
  track.IsChain fun later earlier => later.time - earlier.time ≤ rules.lossTimeout

theorem TrackRules.track_fresh (rules : TrackRules) (fs : List ProcessedFrame) :
    rules.Fresh (rules.track fs) := by
  induction fs with
  | nil => exact .nil
  | cons f fs ih =>
    have halive : rules.Fresh (rules.alive f.time (rules.track fs)) ∧
        ∀ a ∈ (rules.alive f.time (rules.track fs)).head?, f.time - a.time ≤ rules.lossTimeout := by
      rcases rules.alive_cases f.time (rules.track fs) with ⟨hkept, hrecent⟩ | ⟨hgone, _⟩
      · rw [hkept]
        exact ⟨ih, hrecent⟩
      · rw [hgone]
        exact ⟨.nil, fun a h => by cases h⟩
    rw [track, extend]
    cases rules.accepted (rules.track fs) f with
    | none =>
      dsimp only
      split
      · exact halive.1
      · exact .nil
    | some o => exact List.isChain_cons.2 ⟨halive.2, halive.1⟩

namespace TargetTracker

/-- The observations accepted since the current track was acquired, by the count of the code. -/
def sinceAcquired (t : TargetTracker) (fs : List ProcessedFrame) : List Acceptance :=
  (t.acceptances fs).take (t.processed fs).acceptedObservations

theorem Holds.sinceAcquired (h : Holds rules [] t) (htimeout : 0 < rules.lossTimeout)
    (fs : List ProcessedFrame) : t.sinceAcquired fs = rules.track fs := by
  rw [TargetTracker.sinceAcquired, (h.processed htimeout fs).accepted]
  exact (List.prefix_iff_eq_take.1 (h.track_prefix htimeout fs)).symm

/-- What the position of a track owes to its measurements. -/
structure StaysWithin (rules : TrackRules) (since : List Acceptance) (id : Int)
    (position : Fin 3 → ℚ) : Prop where
  acquired : since ≠ []
  average : position =
    smoothed rules.positionSmoothingFactor (since.map (·.observation.measured))
  between : ∀ i, ∃ low ∈ since, ∃ high ∈ since,
    low.observation.measured i ≤ position i ∧ position i ≤ high.observation.measured i
  forward : 0 < position 2
  sameTag : ∀ a ∈ since, a.observation.id = id
  unexpired : rules.Fresh since
  near : ∀ c r, (∀ a ∈ since, lengthSq (a.observation.measured - c) ≤ r) →
    lengthSq (position - c) ≤ r

theorem StaysWithin.of_sound (h0 : 0 ≤ rules.positionSmoothingFactor)
    (h1 : rules.positionSmoothingFactor ≤ 1) (hsound : rules.Sound (last :: earlier))
    (hfresh : rules.Fresh (last :: earlier)) :
    StaysWithin rules (last :: earlier) last.observation.id
      (smoothed rules.positionSmoothingFactor
        ((last :: earlier).map (·.observation.measured))) := by
  generalize hms : (last :: earlier).map (·.observation.measured) = ms
  have hne : ms ≠ [] := by rw [← hms]; exact List.cons_ne_nil _ _
  have hmem : ∀ a ∈ last :: earlier, a.observation.measured ∈ ms := by
    intro a ha
    rw [← hms]
    exact List.mem_map_of_mem ha
  have hof : ∀ m ∈ ms, ∃ a ∈ last :: earlier, a.observation.measured = m := by
    intro m hm
    rw [← hms] at hm
    exact List.mem_map.1 hm
  exact {
    acquired := List.cons_ne_nil _ _
    average := by rw [hms]
    between := by
      intro i
      obtain ⟨low, hlow, high, hhigh, hle⟩ := smoothed_between h0 h1 ms hne i
      obtain ⟨a, ha, hlow⟩ := hof low hlow
      obtain ⟨b, hb, hhigh⟩ := hof high hhigh
      rw [← hlow, ← hhigh] at hle
      exact ⟨a, ha, b, hb, hle⟩
    forward := by
      have hlinear : IsLinearMap ℚ fun v : Fin 3 → ℚ => v 2 := (LinearMap.proj 2).isLinear
      apply smoothed_mem (convex_halfSpace_gt hlinear 0) h0 h1 ms hne
      intro m hm
      obtain ⟨a, ha, hm⟩ := hof m hm
      rw [← hm]
      exact (hsound.valid a ha).ahead
    sameTag := fun a ha => hsound.uniform a ha last rfl
    unexpired := hfresh
    near := by
      intro c r hall
      apply smoothed_mem (convex_ball c r) h0 h1 ms hne
      intro m hm
      obtain ⟨a, ha, hm⟩ := hof m hm
      rw [← hm]
      exact hall a ha }

/-- Whenever a tracker has a position, it lies among the measurements of the current track. -/
theorem position_stays_within {config : TargetTrackerConfig}
    (h : TargetTracker.new config = .ok t) :
    ∃ rules : TrackRules, config = rules.config ∧
      ∀ fs p, (t.processed fs).position = some p → ∃ id v, p = .exact v ∧
        (t.processed fs).targetId = some id ∧ StaysWithin rules (t.sinceAcquired fs) id v := by
  obtain ⟨rules, hconfig, _, htimeout, h0, h1, hstart⟩ := new_accepted h
  refine ⟨rules, hconfig, fun fs p hp => ?_⟩
  have hholds := hstart.processed htimeout fs
  have hsound := rules.track_sound fs
  have hfresh := rules.track_fresh fs
  rw [hstart.sinceAcquired htimeout]
  have hid := hholds.targetId
  have hposition := hholds.position
  generalize rules.track fs = track at hsound hfresh hid hposition
  cases track with
  | nil =>
    rw [hposition] at hp
    cases hp
  | cons last earlier =>
    rw [hposition] at hp
    cases hp
    exact ⟨last.observation.id, _, rfl, hid, .of_sound h0.le h1 hsound hfresh⟩

/-- The tag is seen once near the camera and twice further away. -/
def recedingTag : List ProcessedFrame :=
  let farther := { centredTag with
    pose := some { position := ⟨.finite (1 / 8), .finite 0, .finite 1⟩ } }
  [⟨milliseconds 66, [farther]⟩, ⟨milliseconds 33, [farther]⟩, ⟨0, [centredTag]⟩]

theorem position_stays_within_default :
    (∃ rules : TrackRules, ({} : TargetTrackerConfig) = rules.config ∧
      ∀ fs p, (TargetTracker.processed {} fs).position = some p → ∃ id v, p = .exact v ∧
        (TargetTracker.processed {} fs).targetId = some id ∧
        StaysWithin rules (TargetTracker.sinceAcquired {} fs) id v) ∧
    (TargetTracker.processed {} recedingTag).position =
      some ⟨.finite (231 / 3200), .finite 0, .finite (631 / 800)⟩ :=
  ⟨position_stays_within new_default, by decide +kernel⟩

end TargetTracker

end OnboardAutonomy
