import OnboardAutonomy.RpicamAccounts

namespace OnboardAutonomy
open Histories
set_option autoImplicit true

/-- How many of its own actions a worker that was asked to stop has left. -/
def RpicamStage.remaining : RpicamStage → Nat
  | .stopped => 0
  | .head | .returned | .pausing => 1
  | .reaping => 2
  | .closing => 3
  | .turning => 4
  | .forked | .publishing => 5
  | .opening | .waiting => 6
  | .preparing | .reading => 7

/-- Whether a worker that was asked to stop can still publish a frame. -/
def RpicamStage.owed : RpicamStage → Nat
  | .reading | .waiting | .publishing => 1
  | _ => 0

/-- From the store of the child's number on. -/
def RpicamStage.late : RpicamStage → Bool
  | .turning | .reading | .waiting | .publishing | .closing | .reaping | .returned | .stopped => true
  | _ => false

/-- Between the fork of the child and the end of the wait for it. -/
def RpicamStage.parental : RpicamStage → Bool
  | .forked | .turning | .reading | .waiting | .publishing | .closing | .reaping => true
  | _ => false

def RpicamStep.ofWorker : RpicamStep → Bool
  | .metadataLine _ | .processMessage _ | .take | .childExits _ | .requestStop | .stopChild => false
  | _ => true

theorem Child.interrupt_ne_running (child : Child) : child.interrupt ≠ .running false := by
  cases child <;> exact fun h => by cases h

theorem Child.interrupt_absent {child : Child} : child.interrupt = .absent ↔ child = .absent := by
  cases child with
  | absent => exact Iff.rfl
  | running => exact iff_of_false (fun h => by cases h) (fun h => by cases h)
  | exited => exact iff_of_false (fun h => by cases h) (fun h => by cases h)

namespace RpicamWorker

/-- The call begins an attempt. -/
def begins (e : RpicamEntry) : Bool :=
  e.before.stage ≠ .preparing && (e.after step).stage = .preparing

theorem stopRequested_step (w : RpicamWorker) (i : RpicamStep) (hstop : w.stopRequested = true) :
    (w.step i).1.stopRequested = true := by
  cases i with
  | enter =>
    rw [step, enter, if_pos hstop]
    exact hstop
  | «open» failure => cases failure <;> exact hstop
  | turn =>
    rw [step, turn, if_pos hstop]
    exact hstop
  | stamp =>
    rw [step, stamp, RpicamCameraSource.waitForMetadata]
    cases w.source.metadataTimestamps <;> exact hstop
  | reconnect =>
    rw [step, reconnect, if_pos hstop]
    exact hstop
  | resume =>
    rw [step, resume, if_pos hstop]
    exact hstop
  | requestStop => rfl
  | clearTimestamps | attend | frameRead | readEnded | publish | hangUp | join | metadataLine
  | processMessage | take | childExits | stopChild =>
    exact hstop

/-- After a stop was asked for, an action of the worker brings it nearer to its end, and every
other one leaves it where it is. -/
theorem stop_step (hstop : w.stopRequested = true) (hl : w.legal i = true) :
    ((w.step i).1.stage.remaining + (if i.ofWorker then 1 else 0) ≤ w.stage.remaining) ∧
      (publishes ⟨w, i, (w.step i).2⟩).toList.length + (w.step i).1.stage.owed ≤ w.stage.owed := by
  cases i with
  | enter =>
    have hstage : w.stage = .head := of_decide_eq_true hl
    rw [step, enter, if_pos hstop, hstage]
    exact ⟨Nat.le_refl 1, Nat.le_refl 0⟩
  | clearTimestamps =>
    have hstage : w.stage = .preparing := of_decide_eq_true hl
    rw [hstage]
    exact ⟨Nat.le_refl 7, Nat.le_refl 0⟩
  | «open» failure =>
    have hstage : w.stage = .opening := of_decide_eq_true hl
    rw [hstage]
    cases failure with
    | none => exact ⟨Nat.le_refl 6, Nat.le_refl 0⟩
    | some failure => exact ⟨(by decide : 1 + 1 ≤ 6), Nat.le_refl 0⟩
  | attend =>
    have hstage : w.stage = .forked := of_decide_eq_true hl
    rw [hstage]
    exact ⟨Nat.le_refl 5, Nat.le_refl 0⟩
  | turn =>
    have hstage : w.stage = .turning := of_decide_eq_true hl
    rw [step, turn, if_pos hstop, hstage]
    exact ⟨Nat.le_refl 4, Nat.le_refl 0⟩
  | frameRead yuv420 receivedAt =>
    have hstage : w.stage = .reading := (of_decide_eq_true hl).1
    rw [hstage]
    exact ⟨Nat.le_refl 7, Nat.le_refl 1⟩
  | readEnded result =>
    have hstage : w.stage = .reading := (of_decide_eq_true hl).1
    rw [hstage]
    exact ⟨(by decide : 3 + 1 ≤ 7), Nat.zero_le 1⟩
  | stamp =>
    have hstage : w.stage = .waiting := of_decide_eq_true hl
    rw [step, stamp, RpicamCameraSource.waitForMetadata, hstage]
    cases w.source.metadataTimestamps with
    | nil => exact ⟨(by decide : 3 + 1 ≤ 6), Nat.zero_le 1⟩
    | cons timestamp queue => exact ⟨Nat.le_refl 6, Nat.le_refl 1⟩
  | publish =>
    have hstage : w.stage = .publishing := of_decide_eq_true hl
    rw [hstage]
    exact ⟨Nat.le_refl 5, Nat.le_refl 1⟩
  | hangUp =>
    have hstage : w.stage = .closing := of_decide_eq_true hl
    rw [hstage]
    exact ⟨Nat.le_refl 3, Nat.le_refl 0⟩
  | join status =>
    have hstage : w.stage = .reaping := (of_decide_eq_true hl).1
    rw [hstage]
    exact ⟨Nat.le_refl 2, Nat.le_refl 0⟩
  | reconnect =>
    have hstage : w.stage = .returned := of_decide_eq_true hl
    rw [step, reconnect, if_pos hstop, hstage]
    exact ⟨Nat.le_refl 1, Nat.le_refl 0⟩
  | resume =>
    have hstage : w.stage = .pausing := of_decide_eq_true hl
    rw [step, resume, if_pos hstop, hstage]
    exact ⟨Nat.le_refl 1, Nat.le_refl 0⟩
  | metadataLine | processMessage | take | childExits | requestStop | stopChild =>
    exact ⟨Nat.le_refl _, Nat.le_of_eq (Nat.zero_add _)⟩

/-- The loop of `run` is entered with a stop in sight only to be left. -/
theorem begins_step (hstop : w.stopRequested = true) (hl : w.legal i = true) :
    begins ⟨w, i, (w.step i).2⟩ = false := by
  cases hbegins : begins ⟨w, i, (w.step i).2⟩ with
  | false => rfl
  | true =>
    rw [begins, Bool.and_eq_true, decide_eq_true_eq, decide_eq_true_eq] at hbegins
    obtain ⟨hbefore, hafter⟩ := hbegins
    have hafter : (w.step i).1.stage = .preparing := hafter
    have hnear := (stop_step hstop hl).1
    rw [hafter] at hnear
    cases hworker : i.ofWorker with
    | true =>
      -- Nothing has more left to do than a worker that prepares an attempt.
      rw [hworker, if_pos rfl] at hnear
      have hmost : w.stage.remaining ≤ 7 := by
        cases w.stage <;> decide
      have hleft : RpicamStage.preparing.remaining = 7 := rfl
      omega
    | false =>
      cases i with
      | metadataLine | processMessage | take | childExits | requestStop | stopChild =>
        exact absurd hafter hbefore
      | _ => cases hworker

theorem stop_run (hstop : w.stopRequested = true)
    (hp : playable step (fun w i => w.legal i) w is = true) :
    (play step h w is).2.stage.remaining + (is.filter (·.ofWorker)).length ≤ w.stage.remaining ∧
      (inOrder publishes (play step h w is).1).length + (play step h w is).2.stage.owed ≤
        (inOrder publishes h).length + w.stage.owed ∧
      (play step h w is).1.filter begins = h.filter begins := by
  induction is generalizing h w with
  | nil => exact ⟨Nat.le_refl _, Nat.le_refl _, rfl⟩
  | cons i is ih =>
    rw [playable, Bool.and_eq_true] at hp
    obtain ⟨hnear, howed⟩ := stop_step hstop hp.1
    obtain ⟨hnear', howed', hbegins⟩ :=
      ih (h := ⟨w, i, (w.step i).2⟩ :: h) (w.stopRequested_step i hstop) hp.2
    rw [inOrder_cons, List.length_append] at howed'
    rw [List.filter_cons_of_neg (by rw [begins_step hstop hp.1]; exact Bool.false_ne_true)]
      at hbegins
    rw [play, List.filter_cons]
    split
    · rename_i hworker
      rw [if_pos hworker] at hnear
      rw [List.length_cons]
      exact ⟨by omega, by omega, hbegins⟩
    · rename_i hworker
      rw [if_neg hworker] at hnear
      exact ⟨by omega, by omega, hbegins⟩

/-- The child is there, and its number, where the worker has to do with them. -/
structure Kept (w : RpicamWorker) : Prop where
  pid : w.childPid = w.stage.attended
  child : w.child = .absent ↔ w.stage.parental = false

theorem Kept.move {w' : RpicamWorker} {stage : RpicamStage} (hk : Kept w)
    (hstage : w.stage = stage) (hpid : w'.childPid = w.childPid) (hchild : w'.child = w.child)
    (hattended : w'.stage.attended = stage.attended)
    (hparental : w'.stage.parental = stage.parental) : Kept w' := by
  subst hstage
  constructor
  · rw [hpid, hattended]
    exact hk.pid
  · rw [hchild, hparental]
    exact hk.child

theorem Kept.step (hk : Kept w) (hl : w.legal i = true) : Kept (w.step i).1 := by
  cases i with
  | enter =>
    have hstage : w.stage = .head := of_decide_eq_true hl
    rw [RpicamWorker.step, enter]
    split
    · exact hk.move hstage rfl rfl rfl rfl
    · exact hk.move hstage rfl rfl rfl rfl
  | clearTimestamps =>
    have hstage : w.stage = .preparing := of_decide_eq_true hl
    exact hk.move hstage rfl rfl rfl rfl
  | «open» failure =>
    have hstage : w.stage = .opening := of_decide_eq_true hl
    cases failure with
    | none =>
      have hpid := hk.pid
      rw [hstage] at hpid
      exact ⟨hpid, iff_of_false (fun h => by cases h) (fun h => by cases h)⟩
    | some failure => exact hk.move hstage rfl rfl rfl rfl
  | attend =>
    have hstage : w.stage = .forked := of_decide_eq_true hl
    have hchild := hk.child
    rw [hstage] at hchild
    exact ⟨rfl, hchild⟩
  | turn =>
    have hstage : w.stage = .turning := of_decide_eq_true hl
    rw [RpicamWorker.step, turn]
    split
    · exact hk.move hstage rfl rfl rfl rfl
    · exact hk.move hstage rfl rfl rfl rfl
  | frameRead =>
    have hstage : w.stage = .reading := (of_decide_eq_true hl).1
    exact hk.move hstage rfl rfl rfl rfl
  | readEnded =>
    have hstage : w.stage = .reading := (of_decide_eq_true hl).1
    exact hk.move hstage rfl rfl rfl rfl
  | stamp =>
    have hstage : w.stage = .waiting := of_decide_eq_true hl
    rw [RpicamWorker.step, stamp, RpicamCameraSource.waitForMetadata]
    cases w.source.metadataTimestamps with
    | nil => exact hk.move hstage rfl rfl rfl rfl
    | cons => exact hk.move hstage rfl rfl rfl rfl
  | publish =>
    have hstage : w.stage = .publishing := of_decide_eq_true hl
    exact hk.move hstage rfl rfl rfl rfl
  | hangUp =>
    have hstage : w.stage = .closing := of_decide_eq_true hl
    have hpid := hk.pid
    have hchild := hk.child
    rw [hstage] at hpid hchild
    refine ⟨hpid, ?_⟩
    rw [RpicamWorker.step, hangUp]
    dsimp only
    split
    · exact hchild
    · rw [Child.interrupt_absent]
      exact hchild
  | join => exact ⟨rfl, iff_of_true rfl rfl⟩
  | reconnect =>
    have hstage : w.stage = .returned := of_decide_eq_true hl
    rw [RpicamWorker.step, reconnect]
    split
    · exact hk.move hstage rfl rfl rfl rfl
    · exact hk.move hstage rfl rfl rfl rfl
  | resume =>
    have hstage : w.stage = .pausing := of_decide_eq_true hl
    rw [RpicamWorker.step, resume]
    split
    · exact hk.move hstage rfl rfl rfl rfl
    · exact hk.move hstage rfl rfl rfl rfl
  | childExits =>
    have hrunning : w.child ≠ .absent := by
      intro habsent
      rw [legal, habsent] at hl
      cases hl
    exact ⟨hk.pid, iff_of_false (fun h => by cases h) fun h => hrunning (hk.child.2 h)⟩
  | stopChild =>
    refine ⟨hk.pid, ?_⟩
    rw [RpicamWorker.step, stopChild]
    dsimp only
    split
    · rw [Child.interrupt_absent]
      exact hk.child
    · exact hk.child
  | metadataLine | processMessage | take | requestStop => exact hk.move rfl rfl rfl rfl rfl

/-- A worker that goes to its end, with a child that was interrupted if it is still there. -/
structure Warned (w : RpicamWorker) : Prop where
  asked : w.stopRequested = true
  late : w.stage.late = true
  child : w.child ≠ .running false

theorem RpicamStage.late_of_attended {stage : RpicamStage} (h : stage.attended = true) :
    stage.late = true := by
  cases stage with
  | turning | reading | waiting | publishing | closing | reaping => rfl
  | _ => cases h

theorem Kept.warned (hk : Kept w) (hpid : w.childPid = true) (hstop : w.stopRequested = true) :
    Warned w.stopChild := by
  refine ⟨hstop, RpicamStage.late_of_attended (hk.pid.symm.trans hpid), ?_⟩
  rw [stopChild, hpid]
  exact w.child.interrupt_ne_running

theorem Warned.step (hw : Warned w) (hl : w.legal i = true) : Warned (w.step i).1 := by
  have hasked := w.stopRequested_step i hw.asked
  have hlate := hw.late
  cases i with
  | enter | clearTimestamps | «open» | attend | resume =>
    rw [of_decide_eq_true hl] at hlate
    cases hlate
  | turn =>
    rw [RpicamWorker.step, turn, if_pos hw.asked]
    exact ⟨hw.asked, rfl, hw.child⟩
  | stamp =>
    rw [RpicamWorker.step, stamp, RpicamCameraSource.waitForMetadata]
    cases w.source.metadataTimestamps with
    | nil => exact ⟨hw.asked, rfl, hw.child⟩
    | cons => exact ⟨hw.asked, rfl, hw.child⟩
  | hangUp =>
    rw [RpicamWorker.step, hangUp, if_pos hw.asked]
    exact ⟨hw.asked, rfl, hw.child⟩
  | reconnect =>
    rw [RpicamWorker.step, reconnect, if_pos hw.asked]
    exact ⟨hw.asked, rfl, hw.child⟩
  | join => exact ⟨hasked, rfl, fun h => by cases h⟩
  | childExits => exact ⟨hasked, hlate, fun h => by cases h⟩
  | stopChild =>
    refine ⟨hasked, hlate, ?_⟩
    rw [RpicamWorker.step, stopChild]
    dsimp only
    split
    · exact w.child.interrupt_ne_running
    · exact hw.child
  | frameRead | readEnded | publish => exact ⟨hasked, rfl, hw.child⟩
  | metadataLine | processMessage | take | requestStop => exact ⟨hasked, hlate, hw.child⟩

/-- The destructor looked for the child and found its number. -/
def finds (e : RpicamEntry) : Bool :=
  match e.input with
  | .stopChild => e.before.childPid
  | _ => false

theorem Run.minded {h : List RpicamEntry} {source : RpicamCameraSource}
    (hr : Run step (fun _ w i => w.legal i = true) { source := source } h w) :
    Kept w ∧ ((∃ e ∈ h, finds e = true) → Warned w) := by
  apply hr.history_invariant fun h w => Kept w ∧ ((∃ e ∈ h, finds e = true) → Warned w)
  · exact ⟨⟨rfl, iff_of_true rfl rfl⟩, fun ⟨e, he, _⟩ => absurd he List.not_mem_nil⟩
  · intro h w i _ hm hl
    obtain ⟨hk, hwarned⟩ := hm
    refine ⟨hk.step hl, ?_⟩
    rintro ⟨e, he, hfinds⟩
    rcases List.mem_cons.1 he with rfl | he
    · cases i with
      | stopChild => exact hk.warned hfinds hl
      | _ => cases hfinds
    · exact (hwarned ⟨e, he, hfinds⟩).step hl

/-- The worker waits for its child to exit. The child was interrupted if the destructor has ever
found its number. -/
def Reaps (h : List RpicamEntry) (w : RpicamWorker) : Prop :=
  w.stage = .reaping ∧ ∃ interrupted, w.child = .running interrupted ∧
    ((∃ e ∈ h, finds e = true) → interrupted = true)

/-- The worker can always go on until it has stopped, but for its child. -/
theorem worker_enabled (hk : Kept w) (hwarned : (∃ e ∈ h, finds e = true) → Warned w) :
    w.stage = .stopped ∨ (∃ i : RpicamStep, i.ofWorker = true ∧ w.legal i = true) ∨
      Reaps h w := by
  cases hs : w.stage with
  | head => exact .inr (.inl ⟨.enter, rfl, decide_eq_true hs⟩)
  | preparing => exact .inr (.inl ⟨.clearTimestamps, rfl, decide_eq_true hs⟩)
  | opening => exact .inr (.inl ⟨.open none, rfl, decide_eq_true hs⟩)
  | forked => exact .inr (.inl ⟨.attend, rfl, decide_eq_true hs⟩)
  | turning => exact .inr (.inl ⟨.turn, rfl, decide_eq_true hs⟩)
  | reading =>
    exact .inr (.inl ⟨.readEnded .stopped, rfl, decide_eq_true ⟨hs, fun h => by cases h⟩⟩)
  | waiting => exact .inr (.inl ⟨.stamp, rfl, decide_eq_true hs⟩)
  | publishing => exact .inr (.inl ⟨.publish, rfl, decide_eq_true hs⟩)
  | closing => exact .inr (.inl ⟨.hangUp, rfl, decide_eq_true hs⟩)
  | reaping =>
    cases hchild : w.child with
    | absent =>
      have hgone := hk.child.1 hchild
      rw [hs] at hgone
      cases hgone
    | exited status => exact .inr (.inl ⟨.join status, rfl, decide_eq_true ⟨hs, hchild⟩⟩)
    | running interrupted =>
      refine .inr (.inr ⟨hs, interrupted, hchild, fun hfinds => ?_⟩)
      cases interrupted with
      | true => rfl
      | false => exact absurd hchild (hwarned hfinds).child
  | returned => exact .inr (.inl ⟨.reconnect, rfl, decide_eq_true hs⟩)
  | pausing => exact .inr (.inl ⟨.resume, rfl, decide_eq_true hs⟩)
  | stopped => exact .inl rfl

/-- Once a stop was asked for, the worker takes at most seven more actions, publishes at most one
more frame and begins no further attempt, whatever the other threads do. It can go on until it has
stopped, but for the time it waits for its child to exit; the destructor has interrupted the child
if it looked for it while its number was stored. -/
theorem stop_heeded (hr : Ran config h w) (hstop : w.stopRequested = true)
    (hp : playable step (fun w i => w.legal i) w is = true) :
    (is.filter (·.ofWorker)).length ≤ 7 ∧
      (inOrder publishes (play step h w is).1).length ≤ (inOrder publishes h).length + 1 ∧
      (play step h w is).1.filter begins = h.filter begins ∧
      ((play step h w is).2.stage = .stopped ∨
        (∃ i : RpicamStep, i.ofWorker = true ∧ (play step h w is).2.legal i = true) ∨
        Reaps (play step h w is).1 (play step h w is).2) := by
  obtain ⟨hnear, howed, hbegins⟩ := stop_run (h := h) hstop hp
  have hremaining : w.stage.remaining ≤ 7 := by
    cases w.stage <;> decide
  have hone : w.stage.owed ≤ 1 := by
    cases w.stage <;> decide
  obtain ⟨source, -, hr⟩ := hr
  obtain ⟨hk, hwarned⟩ := Run.minded (hr.play_legal hp)
  exact ⟨by omega, by omega, hbegins, worker_enabled hk hwarned⟩

/-- The destructor asks for a stop while a frame is read. -/
def askedSteps : List RpicamStep :=
  [.enter, .clearTimestamps, .open none, .attend, .turn, .requestStop]

theorem stop_heeded_played :
    let h := (play step [] smallWorker askedSteps).1
    let w := (play step [] smallWorker askedSteps).2
    let is : List RpicamStep :=
      [.stopChild, .metadataLine "\"FrameWallClock\": 5".toList, .frameRead (.replicate 6 1) 10,
        .stamp, .publish, .take, .turn, .hangUp, .childExits (.signalled 2), .join (.signalled 2)]
    (is.filter (·.ofWorker)).length ≤ 7 ∧
      (inOrder publishes (play step h w is).1).length ≤ (inOrder publishes h).length + 1 ∧
      (play step h w is).1.filter begins = h.filter begins ∧
      ((play step h w is).2.stage = .stopped ∨
        (∃ i : RpicamStep, i.ofWorker = true ∧ (play step h w is).2.legal i = true) ∨
        Reaps (play step h w is).1 (play step h w is).2) :=
  stop_heeded (Ran.played askedSteps (by decide +kernel)) (by decide +kernel) (by decide +kernel)

-- The destructor looks for the child between the fork and the store of its number: nobody
-- interrupts the child the worker waits for.
example :
    let is : List RpicamStep :=
      [.enter, .clearTimestamps, .open none, .requestStop, .stopChild, .attend, .turn, .hangUp]
    playable step (fun w i => w.legal i) smallWorker is = true ∧
      (play step [] smallWorker is).2.stage = .reaping ∧
      (play step [] smallWorker is).2.child = .running false := by
  decide +kernel

end RpicamWorker

end OnboardAutonomy
