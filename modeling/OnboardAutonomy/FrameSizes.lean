import OnboardAutonomy.CameraSource
import Mathlib.Tactic.Ring

namespace OnboardAutonomy
set_option autoImplicit true

structure RpicamCameraConfig where
  width : UInt32 := 640
  height : UInt32 := 480
  framesPerSecond : UInt32 := 30
  cameraIndex : UInt32 := 0
  frameTimeoutMs : UInt32 := 2000
  restartDelayMs : UInt32 := 500

/-- What both camera sources make of the dimensions: the number of bytes, counted in 64 bits. -/
def frameBytes (width height : UInt32) (refused : Prop) [Decidable refused]
    (refusal tooLarge : String) : Except String Nat :=
  if refused then .error refusal
  else
    let pixels := width.toNat * height.toNat
    let bytes := (pixels + pixels / 2) % 2 ^ 64
    if 2 ^ 64 - 1 < bytes then .error tooLarge else .ok bytes

def RpicamCameraConfig.Refused (config : RpicamCameraConfig) : Prop :=
  config.width = 0 ∨ config.height = 0 ∨ config.framesPerSecond = 0 ∨ config.frameTimeoutMs = 0 ∨
    config.restartDelayMs = 0 ∨ config.width % 2 ≠ 0 ∨ config.height % 2 ≠ 0
deriving Decidable

def RpicamCameraConfig.checkedFrameSize (config : RpicamCameraConfig) : Except String Nat :=
  frameBytes config.width config.height config.Refused
    ("camera width, height and FPS must be positive; " ++
      "recovery timings must be non-zero; YUV420 dimensions " ++
      "must be even")
    "camera frame size is too large"

def GStreamerCameraConfig.Refused (config : GStreamerCameraConfig) : Prop :=
  config.width = 0 ∨ config.height = 0 ∨ config.udpPort = 0 ∨ config.frameTimeoutMs = 0 ∨
    config.restartDelayMs = 0 ∨ config.width % 2 ≠ 0 ∨ config.height % 2 ≠ 0
deriving Decidable

theorem checkedFrameSize_eq (config : GStreamerCameraConfig) : checkedFrameSize config =
    frameBytes config.width config.height config.Refused
      ("GStreamer camera dimensions and UDP port must be " ++
        "positive, recovery timings must be non-zero; I420 dimensions must be even")
      "GStreamer camera frame size is too large" := rfl

/-- Both dimensions are positive and even. -/
def EvenDimensions (width height : UInt32) : Prop :=
  (width ≠ 0 ∧ ¬width % 2 ≠ 0) ∧ height ≠ 0 ∧ ¬height % 2 ≠ 0

theorem RpicamCameraConfig.accepted (config : RpicamCameraConfig) (h : ¬config.Refused) :
    EvenDimensions config.width config.height := by
  simp only [Refused, not_or] at h
  exact ⟨⟨h.1, h.2.2.2.2.2.1⟩, h.2.1, h.2.2.2.2.2.2⟩

theorem GStreamerCameraConfig.accepted (config : GStreamerCameraConfig) (h : ¬config.Refused) :
    EvenDimensions config.width config.height := by
  simp only [Refused, not_or] at h
  exact ⟨⟨h.1, h.2.2.2.2.2.1⟩, h.2.1, h.2.2.2.2.2.2⟩

theorem EvenDimensions.blocks (h : EvenDimensions width height) :
    ∃ n, width.toNat * height.toNat = 4 * n ∧ 0 < n ∧ n < 2 ^ 62 := by
  have half (x : UInt32) (h : x ≠ 0 ∧ ¬x % 2 ≠ 0) :
      ∃ n, x.toNat = 2 * n ∧ 0 < n ∧ n < 2 ^ 31 := by
    have hzero : x.toNat ≠ 0 := fun he => h.1 (UInt32.toNat_inj.1 he)
    have heven : x.toNat % 2 = 0 := by
      have := congrArg UInt32.toNat (not_not.1 h.2)
      rwa [UInt32.toNat_mod] at this
    have hlt := x.toNat_lt
    exact ⟨x.toNat / 2, by omega⟩
  obtain ⟨m, hm, hm0, hmlt⟩ := half width h.1
  obtain ⟨n, hn, hn0, hnlt⟩ := half height h.2
  refine ⟨m * n, ?_, Nat.mul_pos hm0 hn0, ?_⟩
  · rw [hm, hn]
    ring
  · calc m * n < 2 ^ 31 * 2 ^ 31 := Nat.mul_lt_mul'' hmlt hnlt
      _ = 2 ^ 62 := by norm_num

theorem block_bytes_wrapped {n : Nat} (h : n < 2 ^ 62) (hw : 2 ^ 64 ≤ 6 * n) :
    6 * n % 2 ^ 64 = 6 * n - 2 ^ 64 := by
  rw [Nat.mod_eq_sub_mod hw, Nat.mod_eq_of_lt (by omega)]

theorem block_bytes_pos {n : Nat} (h0 : 0 < n) (h : n < 2 ^ 62) : 0 < 6 * n % 2 ^ 64 := by
  rcases Nat.lt_or_ge (6 * n) (2 ^ 64) with hlt | hw
  · rw [Nat.mod_eq_of_lt hlt]
    omega
  · rw [block_bytes_wrapped h hw]
    omega

section
variable {refused : Prop} [Decidable refused]

theorem frameBytes_ok {width height : UInt32} (hpixels : width.toNat * height.toNat = 4 * n)
    (h : ¬refused) : frameBytes width height refused refusal tooLarge = .ok (6 * n % 2 ^ 64) := by
  have hbytes : 4 * n + 4 * n / 2 = 6 * n := by omega
  have hfits : ¬2 ^ 64 - 1 < 6 * n % 2 ^ 64 :=
    Nat.not_lt.2 (Nat.le_sub_one_of_lt (Nat.mod_lt _ (Nat.two_pow_pos 64)))
  rw [frameBytes, if_neg h]
  dsimp only
  rw [hpixels, hbytes, if_neg hfits]

theorem frameBytes_pos (heven : ¬refused → EvenDimensions width height)
    (h : frameBytes width height refused refusal tooLarge = .ok bytes) : 0 < bytes := by
  by_cases hr : refused
  · rw [frameBytes, if_pos hr] at h
    cases h
  · obtain ⟨n, hpixels, hn0, hn⟩ := (heven hr).blocks
    rw [frameBytes_ok hpixels hr, Except.ok.injEq] at h
    rw [← h]
    exact block_bytes_pos hn0 hn

/-- A frame size that is returned is one and a half bytes for each pixel and has 64 bits. -/
def FrameSizeExact (width height : UInt32) (size : Except String Nat) : Prop :=
  ∀ bytes, size = .ok bytes → 2 * bytes = 3 * (width.toNat * height.toNat) ∧ bytes < 2 ^ 64

/-- The bytes of the frame have 64 bits. -/
def FrameFits (width height : UInt32) : Prop := width.toNat * height.toNat * 3 / 2 < 2 ^ 64

theorem frameFits_iff {width height : UInt32} (h : width.toNat * height.toNat = 4 * n) :
    FrameFits width height ↔ 6 * n < 2 ^ 64 := by
  have hbytes : 4 * n * 3 / 2 = 6 * n := by omega
  rw [FrameFits, h, hbytes]

theorem frameBytes_exact_iff (heven : ¬refused → EvenDimensions width height) :
    FrameSizeExact width height (frameBytes width height refused refusal tooLarge) ↔
      refused ∨ FrameFits width height := by
  by_cases hr : refused
  · refine ⟨fun _ => .inl hr, fun _ bytes hbytes => ?_⟩
    rw [frameBytes, if_pos hr] at hbytes
    cases hbytes
  · obtain ⟨n, hpixels, hn0, hn⟩ := (heven hr).blocks
    rw [or_iff_right hr, frameFits_iff hpixels, frameBytes_ok hpixels hr]
    constructor
    · intro h
      obtain ⟨hexact, hlt⟩ := h _ rfl
      rw [hpixels] at hexact
      omega
    · intro h bytes hbytes
      rw [Except.ok.injEq, Nat.mod_eq_of_lt h] at hbytes
      rw [hpixels, ← hbytes]
      exact ⟨by omega, h⟩

/-- A byte for each pixel is left exactly when the size has not wrapped. -/
theorem frameBytes_luma_iff {width height : UInt32}
    (heven : ¬refused → EvenDimensions width height) :
    (∀ bytes, frameBytes width height refused refusal tooLarge = .ok bytes →
      width.toNat * height.toNat ≤ bytes) ↔ refused ∨ FrameFits width height := by
  by_cases hr : refused
  · refine ⟨fun _ => .inl hr, fun _ bytes hbytes => ?_⟩
    rw [frameBytes, if_pos hr] at hbytes
    cases hbytes
  · obtain ⟨n, hpixels, hn0, hn⟩ := (heven hr).blocks
    rw [or_iff_right hr, frameFits_iff hpixels, frameBytes_ok hpixels hr, hpixels]
    constructor
    · intro h
      by_contra hw
      have hluma := h _ rfl
      rw [block_bytes_wrapped hn (Nat.le_of_not_lt hw)] at hluma
      omega
    · intro h bytes hbytes
      rw [Except.ok.injEq, Nat.mod_eq_of_lt h] at hbytes
      omega

end

end OnboardAutonomy
