import OnboardAutonomy.MainLoop

namespace OnboardAutonomy
open Histories
set_option autoImplicit true

/-- The snapshot that a step showed. -/
def shows (e : LoopEntry) : Option AppSnapshot :=
  match e.output with
  | some (.snapshot s) => some s
  | _ => none

/-- A signal, or a key to quit. -/
def asksToStop (e : LoopEntry) : Bool :=
  match e.input with
  | .handleSignal => true
  | .key key _ => key == 'q' || key == 'Q'
  | _ => false

/-- An exception came out of the application. -/
def threw (e : LoopEntry) : Bool :=
  match e.output with
  | some (.poll outcome) => outcome.thrown.isSome
  | some (.threw _ _) => true
  | _ => false

def endsWith (options : CommandLineOptions) (phase : AutonomyRuntimePhase) (e : LoopEntry) :
    Bool :=
  (shows e).any fun s => options.exitAfterAutonomy && s.autonomy.phase == phase

/-- The program showed the end of the flight it was to exit after. -/
def flightEnded (options : CommandLineOptions) (e : LoopEntry) : Bool :=
  (shows e).any (endsProgram options)

theorem ended_eq (options : CommandLineOptions) (e : LoopEntry) :
    flightEnded options e = (endsWith options .completed e || endsWith options .failed e) := by
  rw [flightEnded, endsWith, endsWith]
  cases shows e with
  | none => rfl
  | some s => exact Bool.and_or_distrib_left _ _ _

theorem endsWith_failed (options : CommandLineOptions) (s : AppSnapshot) :
    (if endsProgram options s then s.autonomy.phase == .failed else false) =
      (options.exitAfterAutonomy && s.autonomy.phase == .failed) := by
  rw [endsProgram]
  cases options.exitAfterAutonomy with
  | false => rfl
  | true =>
    cases s.autonomy.phase == .failed with
    | false => exact ite_self false
    | true => rw [Bool.or_true, Bool.and_true, if_pos rfl]

/-- What the loop remembers of its past. -/
structure Settled (options : CommandLineOptions) (h : List LoopEntry) (loop : MainLoop) :
    Prop where
  running : loop.keepRunning = !(h.any asksToStop || h.any (flightEnded options))
  failed : loop.autonomyFailed = h.any (endsWith options .failed)
  ending : h.any (flightEnded options) = true →
    loop.stage = .head ∨ ∃ status, loop.stage = .returned status
  thrown : h.any threw = true → ∃ status, loop.stage = .returned status
  returned : ∀ status, loop.stage = .returned status →
    status = (if h.any threw then 1 else if h.any (endsWith options .failed) then 2 else 0) ∧
      (h.any threw || (h.any asksToStop || h.any (flightEnded options))) = true
  quiet : ∀ newer e older, h = newer ++ e :: older → flightEnded options e = true →
    ∀ e' ∈ newer, applicationCall e' = none ∧ threw e' = false

section Steps
variable {options : CommandLineOptions} {h : List LoopEntry} {loop : MainLoop} {active : Bool}

theorem legal_open (hl : loop.legal active i = true) (status : Nat) :
    loop.stage ≠ .returned status := by
  intro hs
  cases i <;> simp [MainLoop.legal, hs] at hl

theorem Settled.unthrown (hs : Settled options h loop) (hl : loop.legal active i = true) :
    h.any threw = false := by
  by_contra hany
  obtain ⟨status, hstage⟩ := hs.thrown (Bool.eq_true_of_not_eq_false hany)
  exact legal_open hl status hstage

theorem Settled.unended (hs : Settled options h loop) (hl : loop.legal active i = true)
    (hstage : loop.stage ≠ .head) : h.any (flightEnded options) = false := by
  by_contra hany
  rcases hs.ending (Bool.eq_true_of_not_eq_false hany) with hhead | ⟨status, hreturned⟩
  · exact hstage hhead
  · exact legal_open hl status hreturned

theorem Settled.quiet_cons (hs : Settled options h loop)
    (he : h.any (flightEnded options) = true → applicationCall e = none ∧ threw e = false) :
    ∀ newer e' older, e :: h = newer ++ e' :: older → flightEnded options e' = true →
      ∀ e'' ∈ newer, applicationCall e'' = none ∧ threw e'' = false := by
  intro newer e' older hsplit hended e'' hmem
  cases newer with
  | nil => cases hmem
  | cons x newer =>
    obtain ⟨rfl, hrest⟩ := List.cons.inj hsplit
    rcases List.mem_cons.1 hmem with rfl | hmem
    · apply he
      rw [hrest]
      exact List.any_eq_true.2 ⟨e', List.mem_append_right _ List.mem_cons_self, hended⟩
    · exact hs.quiet newer e' older hrest hended e'' hmem

theorem Settled.goOn (hs : Settled options h loop) {loop' : MainLoop}
    (hl : loop.legal active i = true) (hshows : shows ⟨loop, i, output⟩ = none)
    (hthrew : threw ⟨loop, i, output⟩ = false)
    (hcall : h.any (flightEnded options) = true → applicationCall ⟨loop, i, output⟩ = none)
    (hrunning : loop'.keepRunning = (loop.keepRunning && !asksToStop ⟨loop, i, output⟩))
    (hfailed : loop'.autonomyFailed = loop.autonomyFailed)
    (hopen : ∀ status, loop'.stage ≠ .returned status)
    (hhead : h.any (flightEnded options) = true → loop'.stage = .head) :
    Settled options (⟨loop, i, output⟩ :: h) loop' := by
  have hended : flightEnded options ⟨loop, i, output⟩ = false := by
    rw [flightEnded, hshows]
    rfl
  constructor
  · rw [hrunning, hs.running, List.any_cons, List.any_cons, hended, Bool.false_or, Bool.and_comm,
      ← Bool.not_or, Bool.or_assoc]
  · rw [hfailed, hs.failed, List.any_cons, endsWith, hshows]
    rfl
  · rw [List.any_cons, hended, Bool.false_or]
    exact fun hany => .inl (hhead hany)
  · rw [List.any_cons, hthrew, hs.unthrown hl]
    exact fun h => by cases h
  · exact fun status hstage => absurd hstage (hopen status)
  · exact hs.quiet_cons fun hany => ⟨hcall hany, hthrew⟩

theorem Settled.proceed (hs : Settled options h loop) (hl : loop.legal active i = true)
    (hshows : shows ⟨loop, i, output⟩ = none) (hthrew : threw ⟨loop, i, output⟩ = false)
    (hasks : asksToStop ⟨loop, i, output⟩ = false)
    (hcall : applicationCall ⟨loop, i, output⟩ = none) (hto : ∀ status, stage ≠ .returned status) :
    Settled options (⟨loop, i, output⟩ :: h) (loop.proceed stage) := by
  by_cases hkeep : loop.keepRunning = true
  · have hrunning := hs.running
    rw [hkeep] at hrunning
    have hno : h.any (flightEnded options) = false := by
      cases hany : h.any (flightEnded options) with
      | false => rfl
      | true =>
        rw [hany, Bool.or_true] at hrunning
        cases hrunning
    have hstage : (loop.proceed stage).stage = stage := if_pos hkeep
    refine hs.goOn hl hshows hthrew (fun _ => hcall) ?_ rfl ?_ fun hany => ?_
    · rw [hasks]
      exact (Bool.and_true _).symm
    · rw [hstage]
      exact hto
    · rw [hno] at hany
      cases hany
  · have hended : flightEnded options ⟨loop, i, output⟩ = false := by
      rw [flightEnded, hshows]
      rfl
    have hfails : endsWith options .failed ⟨loop, i, output⟩ = false := by
      rw [endsWith, hshows]
      rfl
    have hstage : (loop.proceed stage).stage =
        .returned (if loop.autonomyFailed then 2 else 0) := if_neg hkeep
    constructor
    · rw [List.any_cons, List.any_cons, hasks, hended, Bool.false_or, Bool.false_or]
      exact hs.running
    · rw [List.any_cons, hfails, Bool.false_or]
      exact hs.failed
    · exact fun _ => .inr ⟨_, hstage⟩
    · exact fun _ => ⟨_, hstage⟩
    · intro status hreturned
      rw [hstage] at hreturned
      cases hreturned
      rw [List.any_cons, List.any_cons, List.any_cons, List.any_cons, hthrew, hasks, hended, hfails,
        Bool.false_or, Bool.false_or, Bool.false_or, Bool.false_or, hs.unthrown hl, hs.failed]
      refine ⟨rfl, ?_⟩
      have hrunning := hs.running
      rw [Bool.eq_false_iff.2 hkeep] at hrunning
      rw [Bool.false_or]
      exact (Bool.not_eq_false' _).mp hrunning.symm
    · exact hs.quiet_cons fun _ => ⟨hcall, hthrew⟩

theorem Settled.polled (hs : Settled options h loop) (hl : loop.legal active (.poll input) = true) :
    Settled options (⟨loop, .poll input, (loop.polled input).2⟩ :: h) (loop.polled input).1 := by
  have hstage : loop.stage = .polling := beq_iff_eq.1 hl
  have hno : h.any (flightEnded options) = false :=
    hs.unended hl (by rw [hstage]; exact fun h => by cases h)
  have hsilent {P : Prop} (hany : h.any (flightEnded options) = true) : P := by
    rw [hno] at hany
    cases hany
  rw [MainLoop.polled]
  rcases loop.application.poll input with ⟨application, outcome⟩
  cases hthrown : outcome.thrown with
  | none =>
    have hthrew : threw ⟨loop, .poll input, some (.poll outcome)⟩ = false :=
      congrArg Option.isSome hthrown
    refine hs.goOn hl rfl hthrew hsilent (Bool.and_true _).symm rfl ?_ hsilent
    dsimp only
    rw [hthrown]
    exact fun _ h => by cases h
  | some message =>
    have hthrew : threw ⟨loop, .poll input, some (.poll outcome)⟩ = true :=
      congrArg Option.isSome hthrown
    dsimp only
    rw [hthrown]
    constructor
    · exact hs.running
    · exact hs.failed
    · exact fun _ => .inr ⟨1, rfl⟩
    · exact fun _ => ⟨1, rfl⟩
    · intro status hreturned
      cases hreturned
      rw [List.any_cons, hthrew, Bool.true_or]
      exact ⟨rfl, rfl⟩
    · exact hs.quiet_cons hsilent

theorem Settled.pollThrew (hs : Settled options h loop)
    (hl : loop.legal active (.pollThrows input message) = true) :
    Settled options (⟨loop, .pollThrows input message, (loop.pollThrew input message).2⟩ :: h)
      (loop.pollThrew input message).1 := by
  have hstage : loop.stage = .polling := beq_iff_eq.1 hl
  have hno : h.any (flightEnded options) = false :=
    hs.unended hl (by rw [hstage]; exact fun h => by cases h)
  constructor
  · exact hs.running
  · exact hs.failed
  · exact fun _ => .inr ⟨1, rfl⟩
  · exact fun _ => ⟨1, rfl⟩
  · intro status hreturned
    cases hreturned
    exact ⟨rfl, rfl⟩
  · refine hs.quiet_cons fun hany => ?_
    rw [hno] at hany
    cases hany

theorem Settled.pressed (hs : Settled options h loop)
    (hl : loop.legal active (.key key commandTime) = true) :
    Settled options (⟨loop, .key key commandTime, (loop.pressed key commandTime).2⟩ :: h)
      (loop.pressed key commandTime).1 := by
  have hstage : loop.stage = .keys := beq_iff_eq.1 ((Bool.and_eq_true _ _).mp hl).2
  have hopen := legal_open hl
  have hno : h.any (flightEnded options) = false :=
    hs.unended hl (by rw [hstage]; exact fun h => by cases h)
  have hsilent {P : Prop} (hany : h.any (flightEnded options) = true) : P := by
    rw [hno] at hany
    cases hany
  rw [MainLoop.pressed]
  split
  · rename_i hstart
    rcases loop.application.requestAutonomyStart commandTime with ⟨application, started⟩
    refine hs.goOn hl rfl rfl hsilent ?_ rfl hopen hsilent
    rcases hstart with rfl | rfl
    · exact (Bool.and_true _).symm
    · exact (Bool.and_true _).symm
  split
  · rename_i hquit
    refine hs.goOn hl rfl rfl hsilent ?_ rfl hopen hsilent
    rcases hquit with rfl | rfl
    · exact (Bool.and_false _).symm
    · exact (Bool.and_false _).symm
  · rename_i hother
    refine hs.goOn hl rfl rfl hsilent ?_ rfl hopen hsilent
    rw [not_or] at hother
    have hasks : asksToStop ⟨loop, .key key commandTime, none⟩ = false := by
      dsimp only [asksToStop]
      rw [beq_eq_false_iff_ne.2 hother.1, beq_eq_false_iff_ne.2 hother.2]
      rfl
    rw [hasks]
    exact (Bool.and_true _).symm

theorem Settled.shown (hs : Settled options h loop)
    (hl : loop.legal active (.snapshot now source detector) = true) :
    Settled options (⟨loop, .snapshot now source detector,
      (loop.shown options now source detector).2⟩ :: h)
      (loop.shown options now source detector).1 := by
  have hstage : loop.stage = .showing := beq_iff_eq.1 hl
  have hno : h.any (flightEnded options) = false :=
    hs.unended hl (by rw [hstage]; exact fun h => by cases h)
  have hfails : h.any (endsWith options .failed) = false := by
    rw [List.any_eq_false] at hno ⊢
    intro e he hf
    refine hno e he ?_
    rw [ended_eq, hf, Bool.or_true]
  rw [MainLoop.shown]
  split
  · rcases loop.application.snapshot source detector now with ⟨application, s⟩
    dsimp only
    constructor
    · rw [List.any_cons, List.any_cons, hs.running, hno, Bool.or_false, Bool.or_false]
      exact (Bool.not_or _ _).symm
    · rw [List.any_cons, hs.failed, hfails, Bool.or_false]
      exact endsWith_failed options s
    · exact fun _ => .inl rfl
    · rw [List.any_cons, hs.unthrown hl]
      exact fun h => by cases h
    · exact fun status h => by cases h
    · refine hs.quiet_cons fun hany => ?_
      rw [hno] at hany
      cases hany
  · refine hs.goOn hl rfl rfl (fun _ => rfl) (Bool.and_true _).symm rfl ?_ fun _ => rfl
    exact fun _ h => by cases h

theorem Settled.step (hs : Settled options h loop) (hl : loop.legal active i = true) :
    Settled options (⟨loop, i, (loop.step options i).2⟩ :: h) (loop.step options i).1 := by
  cases i with
  | handleSignal =>
    have hopen := legal_open hl
    refine hs.goOn hl rfl rfl (fun _ => rfl) (Bool.and_false _).symm rfl hopen fun hany => ?_
    rcases hs.ending hany with hhead | ⟨status, hstage⟩
    · exact hhead
    · exact absurd hstage (hopen status)
  | head => exact hs.proceed hl rfl rfl rfl rfl fun _ h => by cases h
  | key key commandTime => exact hs.pressed hl
  | noKey => exact hs.proceed hl rfl rfl rfl rfl fun _ h => by cases h
  | poll input => exact hs.polled hl
  | pollThrows input message => exact hs.pollThrew hl
  | snapshot now source detector => exact hs.shown hl

/-- Along every run the loop remembers its past. -/
theorem MainLoop.Ran.settled {application : CompanionApplication}
    (hr : MainLoop.Ran options active startedAt application h loop) : Settled options h loop := by
  apply hr.history_invariant (Settled options)
  · exact {
      running := rfl
      failed := rfl
      ending := fun h => by cases h
      thrown := fun h => by cases h
      returned := fun _ h => by cases h
      quiet := fun newer e older hsplit => by
        have hlength := congrArg List.length hsplit
        rw [List.length_append, List.length_cons] at hlength
        cases hlength }
  · exact fun h loop i _ hs hl => hs.step hl.1

end Steps

/-- Once the program has shown the end of the flight it was to exit after, it does nothing more
with the application, and no exception comes out of it. It returns 1 for an exception, 2 when that
end was a failure and 0 otherwise, and only after an exception, a signal, a key to quit or that
end. -/
theorem loop_exit {application : CompanionApplication}
    (hr : MainLoop.Ran options active startedAt application h loop) :
    (∀ newer e older, h = newer ++ e :: older → flightEnded options e = true →
      ∀ e' ∈ newer, applicationCall e' = none ∧ threw e' = false) ∧
    ∀ status, loop.stage = .returned status →
      status = (if h.any threw then 1 else if h.any (endsWith options .failed) then 2 else 0) ∧
        (h.any threw || (h.any asksToStop || h.any (flightEnded options))) = true := by
  have hs := hr.settled
  exact ⟨hs.quiet, hs.returned⟩

/-- A vehicle that is no multicopter, and what the program does about it in two turns. -/
def refusedFlight : List LoopStep :=
  [.head, .noKey, .poll { cameraNow := 0, now := 0, inbound := [heartbeatFrom 1 1 0 0] },
    .snapshot 0 {} "", .head]

theorem loop_exit_failed : ∃ options application h loop,
    MainLoop.Ran options false 0 application h loop ∧ loop.stage = .returned 2 ∧
      h.any (endsWith options .failed) = true := by
  let options : CommandLineOptions := { autonomous := true, exitAfterAutonomy := true }
  have hcheck : ((CompanionApplication.new flightOptions).toOption.any fun application =>
      playable (MainLoop.step options) (MainLoop.legal false)
        { application := application, nextSnapshot := 0 } refusedFlight &&
      (play (MainLoop.step options) [] { application := application, nextSnapshot := 0 }
        refusedFlight).2.stage == .returned 2) = true := by decide +kernel
  obtain ⟨application, _, hc⟩ := (Option.any_eq_true _ _).1 hcheck
  rw [Bool.and_eq_true] at hc
  have hr : MainLoop.Ran options false 0 application _ _ :=
    Run.start.play_checked hc.1 (by decide) (fun e he => absurd he List.not_mem_nil) (by decide)
  have hstage := beq_iff_eq.1 hc.2
  have hfailed {a b : Bool} (h : 2 = if a then 1 else if b then 2 else 0) : b = true := by
    cases a with
    | true => cases h
    | false =>
      cases b with
      | true => rfl
      | false => cases h
  exact ⟨options, application, _, _, hr, hstage, hfailed ((loop_exit hr).2 2 hstage).1⟩

end OnboardAutonomy
