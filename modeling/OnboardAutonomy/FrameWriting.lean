import OnboardAutonomy.CompanionApplication

namespace OnboardAutonomy
set_option autoImplicit true

/-- The write side of a transport: every call accepts some of the bytes offered, from the front. -/
structure Transport (σ : Type u) where
  write : σ → List UInt8 → σ × Nat
  bounded : ∀ s bytes, (write s bytes).2 ≤ bytes.length

/-- A transport in its state, with all bytes it has accepted. -/
structure Wire (σ : Type u) where
  transport : σ
  accepted : List UInt8 := []

namespace Wire

/-- One call of `write`. -/
def write (t : Transport σ) (w : Wire σ) (bytes : List UInt8) : Wire σ × Nat :=
  let (transport, written) := t.write w.transport bytes
  ({ transport := transport, accepted := w.accepted ++ bytes.take written }, written)

/-- The loop of `write_frame` from an offset, for a limited number of rounds. -/
def writeFrom (t : Transport σ) (frame : List UInt8) (w : Wire σ) (offset : Nat) :
    Nat → Option (Wire σ × Bool)
  | 0 => none
  | rounds + 1 =>
    if offset < frame.length then
      let (w, written) := w.write t (frame.drop offset)
      if written = 0 then some (w, false) else writeFrom t frame w (offset + written) rounds
    else some (w, true)

/-- `write_frame`; without a result the rounds were too few. -/
def writeFrame (t : Transport σ) (w : Wire σ) (frame : List UInt8) : Option (Wire σ × Bool) :=
  writeFrom t frame w 0 (frame.length + 1)

def writeFrames (t : Transport σ) (w : Wire σ) : List (List UInt8) → Option (Wire σ × List Bool)
  | [] => some (w, [])
  | frame :: frames => do
    let (w, sent) ← w.writeFrame t frame
    let (w, outcomes) ← w.writeFrames t frames
    return (w, sent :: outcomes)

end Wire

/-- What the transport took of a frame: its beginning, all of it exactly when it was sent. -/
structure Piece where
  frame : List UInt8
  taken : List UInt8
  sent : Bool
  isPrefix : taken <+: frame
  complete : sent = true ↔ taken = frame

namespace Wire

theorem writeFrom_takes (t : Transport σ) (frame : List UInt8) (w : Wire σ) {offset rounds : Nat}
    (ho : offset ≤ frame.length) (hr : frame.length < offset + rounds) :
    ∃ w' sent more, writeFrom t frame w offset rounds = some (w', sent) ∧
      w'.accepted = w.accepted ++ more ∧ frame.take offset ++ more <+: frame ∧
      (sent = true ↔ frame.take offset ++ more = frame) := by
  induction rounds generalizing w offset with
  | zero => exact absurd hr (Nat.not_lt_of_le ho)
  | succ rounds ih =>
    rw [writeFrom]
    by_cases hlt : offset < frame.length
    · rw [if_pos hlt]
      dsimp only
      obtain ⟨n, hn⟩ : ∃ n, n = (w.write t (frame.drop offset)).2 := ⟨_, rfl⟩
      have hle : offset + n ≤ frame.length := by
        have hbounded := t.bounded w.transport (frame.drop offset)
        rw [List.length_drop] at hbounded
        rw [hn]
        exact Nat.add_le_of_le_sub' ho hbounded
      have hwrite : (w.write t (frame.drop offset)).1.accepted =
          w.accepted ++ (frame.drop offset).take n := by rw [hn]; rfl
      rw [← hn]
      split
      · rename_i hzero
        rw [hzero, List.take_zero] at hwrite
        refine ⟨_, false, [], rfl, hwrite, ?_, ?_⟩
        · rw [List.append_nil]
          exact List.take_prefix offset frame
        · rw [List.append_nil]
          refine ⟨fun h => (by cases h), fun h => ?_⟩
          have hlength := congrArg List.length h
          rw [List.length_take, Nat.min_eq_left ho] at hlength
          exact absurd hlength (Nat.ne_of_lt hlt)
      · rename_i hpos
        have hpos : 0 < n := Nat.pos_of_ne_zero hpos
        obtain ⟨w', sent, more, hw', hmore, hprefix, hsent⟩ :=
          ih (w := (w.write t (frame.drop offset)).1) hle (by omega)
        rw [List.take_add, List.append_assoc] at hprefix hsent
        refine ⟨w', sent, (frame.drop offset).take n ++ more, hw', ?_, hprefix, hsent⟩
        rw [hmore, hwrite, List.append_assoc]
    · rw [if_neg hlt]
      have htake : frame.take offset = frame := List.take_of_length_le (Nat.not_lt.1 hlt)
      refine ⟨w, true, [], rfl, (List.append_nil _).symm, ?_, ?_⟩
      · rw [htake, List.append_nil]
      · rw [htake, List.append_nil]
        exact ⟨fun _ => rfl, fun _ => rfl⟩

/-- A frame is written in a bounded number of calls, and taken up to where it was refused. -/
theorem writeFrame_takes (t : Transport σ) (w : Wire σ) (frame : List UInt8) :
    ∃ w' p, w.writeFrame t frame = some (w', Piece.sent p) ∧ p.frame = frame ∧
      w'.accepted = w.accepted ++ p.taken := by
  obtain ⟨w', sent, taken, hw', htaken, hprefix, hsent⟩ :=
    writeFrom_takes t frame w (Nat.zero_le frame.length)
      (show frame.length < 0 + (frame.length + 1) by omega)
  exact ⟨w', ⟨frame, taken, sent, hprefix, hsent⟩, hw', rfl, htaken⟩

theorem writeFrames_takes (t : Transport σ) (w : Wire σ) (frames : List (List UInt8)) :
    ∃ (w' : Wire σ) (pieces : List Piece),
      w.writeFrames t frames = some (w', pieces.map Piece.sent) ∧
      pieces.map Piece.frame = frames ∧
      w'.accepted = w.accepted ++ (pieces.map Piece.taken).flatten := by
  induction frames generalizing w with
  | nil => exact ⟨w, [], rfl, rfl, (List.append_nil _).symm⟩
  | cons frame frames ih =>
    obtain ⟨w₁, p, hw₁, hframe, htaken⟩ := w.writeFrame_takes t frame
    obtain ⟨w₂, pieces, hw₂, hframes, hrest⟩ := ih w₁
    refine ⟨w₂, p :: pieces, ?_, by rw [List.map_cons, hframe, hframes], ?_⟩
    · rw [writeFrames, hw₁]
      simp only [Option.bind_eq_bind, Option.bind_some, hw₂]
      rfl
    · rw [hrest, htaken, List.map_cons, List.flatten_cons, List.append_assoc]

end Wire

/-- The frames that were sent, one after the other. -/
def sentFrames (pieces : List Piece) : List UInt8 :=
  ((pieces.filter Piece.sent).map Piece.frame).flatten

theorem sentFrames_cons (p : Piece) (pieces : List Piece) :
    sentFrames (p :: pieces) = (if p.sent then p.taken else []) ++ sentFrames pieces := by
  rw [sentFrames, List.filter_cons]
  cases hs : p.sent with
  | true => rw [p.complete.1 hs]; rfl
  | false => rfl

theorem sentFrames_length (pieces : List Piece) :
    (sentFrames pieces).length ≤ (pieces.map Piece.taken).flatten.length := by
  induction pieces with
  | nil => exact Nat.le_refl 0
  | cons p pieces ih =>
    rw [sentFrames_cons, List.map_cons, List.flatten_cons, List.length_append, List.length_append]
    cases p.sent with
    | true => exact Nat.add_le_add_left ih _
    | false => exact Nat.add_le_add (Nat.zero_le _) ih

/-- Only whole frames are on the wire exactly when every frame that was not sent was refused at its
first byte. -/
theorem whole_frames_iff (pieces : List Piece) :
    (pieces.map Piece.taken).flatten = sentFrames pieces ↔
      ∀ p ∈ pieces, p.sent = false → p.taken = [] := by
  induction pieces with
  | nil => exact ⟨fun _ p hp => absurd hp List.not_mem_nil, fun _ => rfl⟩
  | cons p pieces ih =>
    rw [sentFrames_cons, List.map_cons, List.flatten_cons, List.forall_mem_cons, ← ih]
    cases hs : p.sent with
    | true =>
      rw [if_pos rfl, List.append_cancel_left_eq]
      exact ⟨fun h => ⟨fun h' => (by cases h'), h⟩, fun h => h.2⟩
    | false =>
      rw [if_neg Bool.false_ne_true, List.nil_append]
      constructor
      · intro h
        have hlength := congrArg List.length h
        have hle := sentFrames_length pieces
        rw [List.length_append] at hlength
        have htaken : p.taken = [] := List.length_eq_zero_iff.1 (by omega)
        rw [htaken, List.nil_append] at h
        exact ⟨fun _ => htaken, h⟩
      · intro ⟨htaken, h⟩
        rw [htaken rfl, List.nil_append, h]

/-- Every frame is written in a bounded number of calls, reported as sent exactly when the transport
took all of it, and the wire carries what was taken: only whole frames exactly when every frame that
was not sent was refused at its first byte. -/
theorem frames_on_wire (t : Transport σ) (w : Wire σ) (frames : List (List UInt8)) :
    ∃ (w' : Wire σ) (pieces : List Piece),
      w.writeFrames t frames = some (w', pieces.map Piece.sent) ∧
      pieces.map Piece.frame = frames ∧
      w'.accepted = w.accepted ++ (pieces.map Piece.taken).flatten ∧
      (w'.accepted = w.accepted ++ sentFrames pieces ↔
        ∀ p ∈ pieces, p.sent = false → p.taken = []) := by
  obtain ⟨w', pieces, hw', hframes, htaken⟩ := w.writeFrames_takes t frames
  refine ⟨w', pieces, hw', hframes, htaken, ?_⟩
  rw [htaken, List.append_cancel_left_eq]
  exact whole_frames_iff pieces

/-- A transport that takes one byte, then refuses, then takes whatever it is offered. -/
def hesitant : Transport Nat where
  write calls bytes := (calls + 1, if calls = 0 then min 1 bytes.length
    else if calls = 1 then 0 else bytes.length)
  bounded calls bytes := by
    dsimp only
    split
    · exact Nat.min_le_right _ _
    · split
      · exact Nat.zero_le _
      · exact Nat.le_refl _

/-- A refused frame can leave its beginning on the wire in front of the next frame. -/
theorem partial_frame_left :
    ¬∀ (σ : Type) (t : Transport σ) (w w' : Wire σ) frames outcomes,
      w.writeFrames t frames = some (w', outcomes) →
      w'.accepted = w.accepted ++
        (((frames.zip outcomes).filter Prod.snd).map Prod.fst).flatten := by
  intro hclaim
  have hrun : Wire.writeFrames hesitant ⟨0, []⟩ [[253, 9], [253, 7]] =
      some (⟨3, [253, 253, 7]⟩, [false, true]) := rfl
  have hbytes := hclaim Nat hesitant _ _ _ _ hrun
  exact absurd hbytes (by decide)

section Application

/-- A transport that takes whole frames or nothing, as it was told beforehand. -/
def obedient : Transport (List Bool) where
  write outcomes bytes := (outcomes.tail, if outcomes.headD false then bytes.length else 0)
  bounded outcomes bytes := by
    dsimp only
    split
    · exact Nat.le_refl _
    · exact Nat.zero_le _

theorem obedient_writes (frame : List UInt8) (hf : frame ≠ []) (w : Wire (List Bool)) :
    ∃ w', w.writeFrame obedient frame = some (w', w.transport.headD false) ∧
      w'.transport = w.transport.tail := by
  have hpos : 0 < frame.length := List.length_pos_iff.2 hf
  rw [Wire.writeFrame, Wire.writeFrom, if_pos hpos]
  dsimp only
  cases ho : w.transport.headD false with
  | false =>
    have hn : (w.write obedient (frame.drop 0)).2 = 0 := by
      simp only [Wire.write, obedient, ho, Bool.false_eq_true, ↓reduceIte]
    rw [if_pos hn]
    exact ⟨_, rfl, rfl⟩
  | true =>
    have hn : (w.write obedient (frame.drop 0)).2 = frame.length := by
      simp only [Wire.write, obedient, ho, ↓reduceIte, List.drop_zero]
    rw [hn, if_neg (Nat.ne_of_gt hpos)]
    obtain ⟨rounds, hr⟩ := Nat.exists_eq_succ_of_ne_zero (Nat.ne_of_gt hpos)
    rw [hr, Wire.writeFrom, if_neg (by rw [hr]; omega)]
    exact ⟨_, rfl, rfl⟩

/-- Whatever outcomes the writes of a poll are given, some transport gives them. -/
theorem written_realised (encode : OutboundFrame → List UInt8) (hencode : ∀ f, encode f ≠ [])
    (written : List (OutboundFrame × Bool)) :
    ∃ w', Wire.writeFrames obedient ⟨written.map Prod.snd, accepted⟩
      (written.map fun x => encode x.1) = some (w', written.map Prod.snd) := by
  induction written generalizing accepted with
  | nil => exact ⟨_, rfl⟩
  | cons x written ih =>
    obtain ⟨w₁, hw₁, htail⟩ := obedient_writes (encode x.1) (hencode x.1)
      ⟨(x :: written).map Prod.snd, accepted⟩
    obtain ⟨w₂, hw₂⟩ := @ih w₁.accepted
    have hw : w₁ = ⟨written.map Prod.snd, w₁.accepted⟩ := by
      cases w₁
      cases htail
      rfl
    refine ⟨w₂, ?_⟩
    simp only [List.map_cons] at hw₁ ⊢
    rw [Wire.writeFrames, hw₁]
    rw [← hw] at hw₂
    simp only [Option.bind_eq_bind, Option.bind_some, hw₂]
    rfl

end Application

end OnboardAutonomy
