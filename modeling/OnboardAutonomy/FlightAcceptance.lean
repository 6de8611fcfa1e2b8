import OnboardAutonomy.Guidance
import OnboardAutonomy.HarnessVerdicts
import OnboardAutonomy.JsonLines
import OnboardAutonomy.LoopExit

namespace OnboardAutonomy
open Histories JsonText
set_option autoImplicit true

/-- What one turn of the harness meets: a dependency that has ended, a line that can be read, and
whether the program is found to have ended. -/
structure WaitTurn where
  exited : Option (String × Int) := none
  readable : Bool := false
  ended : Bool := false

section Wait
variable (loads : List Char → Option Json) (str dumps : Json → String)

def didNotComplete (lastSnapshot : Option Json) : String :=
  "Production autonomy did not complete: " ++
    (lastSnapshot.map dumps).getD "no JSON snapshot received"

/-- A line that is no dictionary is passed over. -/
def candidate (line : List Char) : Option Json := (loads line).filter Json.isDictionary

/-- What the program wrote before it ended is only searched for a completed flight. -/
def drain (lastSnapshot : Option Json) : List (List Char) → Except String Json
  | [] => .error (didNotComplete dumps lastSnapshot)
  | line :: lines =>
    match candidate loads line with
    | none => drain lastSnapshot lines
    | some snapshot =>
      if snapshotCompletedAutonomy snapshot then .ok snapshot else drain (some snapshot) lines

/-- The turns end with the deadline. The lines are all that the program ever writes. -/
def waitForTerminalSnapshot (lastSnapshot : Option Json) :
    List WaitTurn → List (List Char) → Except String Json
  | [], _ => .error (didNotComplete dumps lastSnapshot)
  | turn :: turns, lines =>
    match turn.exited with
    | some (name, code) => .error (name ++ " exited early with code " ++ toString code)
    | none =>
      let line := if turn.readable then lines.head? else none
      let lines := if turn.readable then lines.tail else lines
      let goOn (lastSnapshot : Option Json) :=
        if turn.ended then drain loads dumps lastSnapshot lines
        else waitForTerminalSnapshot lastSnapshot turns lines
      match line.bind (candidate loads) with
      | none => goOn lastSnapshot
      | some snapshot =>
        if snapshotFailedAutonomy snapshot then
          .error ("Production autonomy failed: " ++ str (snapshot.get "autonomy"))
        else if snapshotCompletedAutonomy snapshot then .ok snapshot
        else goOn (some snapshot)

section
variable {loads : List Char → Option Json} {str dumps : Json → String}

/-- A line ends the wait well when it is a snapshot of a completed flight. -/
def Completes (loads : List Char → Option Json) (line : List Char) (j : Json) : Prop :=
  candidate loads line = some j ∧ snapshotCompletedAutonomy j = true

theorem drain_ok (h : drain loads dumps last lines = .ok j) :
    ∃ line ∈ lines, Completes loads line j := by
  induction lines generalizing last with
  | nil => cases h
  | cons line lines ih =>
    rw [drain] at h
    split at h
    · obtain ⟨line', hmem, hc⟩ := ih h
      exact ⟨line', List.mem_cons_of_mem line hmem, hc⟩
    · rename_i snapshot hsnapshot
      split at h
      · rename_i hcompleted
        cases h
        exact ⟨line, List.mem_cons_self, hsnapshot, hcompleted⟩
      · obtain ⟨line', hmem, hc⟩ := ih h
        exact ⟨line', List.mem_cons_of_mem line hmem, hc⟩

theorem wait_ok (h : waitForTerminalSnapshot loads str dumps last turns lines = .ok j) :
    ∃ line ∈ lines, Completes loads line j := by
  induction turns generalizing last lines with
  | nil => cases h
  | cons turn turns ih =>
    rw [waitForTerminalSnapshot] at h
    split at h
    · cases h
    have hrest (last : Option Json)
        (h : (if turn.ended then
            drain loads dumps last (if turn.readable then lines.tail else lines)
          else waitForTerminalSnapshot loads str dumps last turns
            (if turn.readable then lines.tail else lines)) = .ok j) :
        ∃ line ∈ lines, Completes loads line j := by
      have hsome : ∃ line ∈ (if turn.readable then lines.tail else lines),
          Completes loads line j := by
        split at h
        · exact drain_ok h
        · exact ih h
      obtain ⟨line, hmem, hc⟩ := hsome
      split at hmem
      · exact ⟨line, List.mem_of_mem_tail hmem, hc⟩
      · exact ⟨line, hmem, hc⟩
    dsimp only at h
    split at h
    · exact hrest _ h
    · rename_i snapshot hsnapshot
      split at h
      · cases h
      split at h
      · rename_i hcompleted
        cases h
        obtain ⟨line, hline, hcandidate⟩ := Option.bind_eq_some_iff.1 hsnapshot
        split at hline
        · exact ⟨line, List.mem_of_mem_head? hline, hcandidate, hcompleted⟩
        · cases hline
      · exact hrest _ h

/-- A line that neither ends the wait well nor badly. -/
def Passed (loads : List Char → Option Json) (line : List Char) : Prop :=
  ∀ j, candidate loads line = some j →
    snapshotFailedAutonomy j = false ∧ snapshotCompletedAutonomy j = false

theorem completed_not_failed (h : snapshotCompletedAutonomy j = true) :
    snapshotFailedAutonomy j = false := by
  rw [snapshotCompletedAutonomy] at h
  simp only [Bool.and_eq_true] at h
  obtain ⟨⟨_, hcompleted⟩, _⟩ := h
  rw [snapshotFailedAutonomy]
  cases hphase : (j.get "autonomy").get "phase" with
  | string text =>
    rw [hphase] at hcompleted
    have htext : text = "completed".toList := beq_iff_eq.1 hcompleted
    rw [htext]
    exact Bool.and_false _
  | null | bool _ | number _ | array _ | object _ => exact Bool.and_false _

theorem drain_passed (hp : ∀ line ∈ lines, Passed loads line) (hc : Completes loads line j) :
    drain loads dumps last (lines ++ [line]) = .ok j := by
  induction lines generalizing last with
  | nil =>
    rw [List.nil_append, drain, hc.1]
    exact if_pos hc.2
  | cons first lines ih =>
    rw [List.forall_mem_cons] at hp
    rw [List.cons_append, drain]
    cases hfirst : candidate loads first with
    | none => exact ih hp.2
    | some snapshot =>
      dsimp only
      rw [if_neg (by rw [(hp.1 snapshot hfirst).2]; decide)]
      exact ih hp.2

/-- When all lines but the last pass, and nothing breaks before the program ends, the wait ends
with the last line. -/
theorem wait_passed (hp : ∀ line ∈ lines, Passed loads line) (hc : Completes loads line j)
    (hexited : ∀ turn ∈ turns, turn.exited = none) (hended : ∃ turn ∈ turns, turn.ended = true) :
    waitForTerminalSnapshot loads str dumps last turns (lines ++ [line]) = .ok j := by
  induction turns generalizing last lines with
  | nil =>
    obtain ⟨_, hmem, _⟩ := hended
    cases hmem
  | cons turn turns ih =>
    rw [List.forall_mem_cons] at hexited
    have hlater (hmore : ¬turn.ended = true) : ∃ turn ∈ turns, turn.ended = true := by
      obtain ⟨t, hmem, ht⟩ := hended
      rcases List.mem_cons.1 hmem with rfl | hmem
      · exact absurd ht hmore
      · exact ⟨t, hmem, ht⟩
    have hgoOn {lines : List (List Char)} (hp : ∀ line ∈ lines, Passed loads line)
        (last : Option Json) : (if turn.ended then drain loads dumps last (lines ++ [line])
          else waitForTerminalSnapshot loads str dumps last turns (lines ++ [line])) =
            .ok j := by
      split
      · exact drain_passed hp hc
      · rename_i hmore
        exact ih hp hexited.2 (hlater hmore)
    rw [waitForTerminalSnapshot, hexited.1]
    dsimp only
    by_cases hreadable : turn.readable = true
    · rw [if_pos hreadable, if_pos hreadable]
      cases lines with
      | nil =>
        have hbind : ([] ++ [line]).head?.bind (candidate loads) = some j := hc.1
        rw [hbind]
        dsimp only
        rw [if_neg (by rw [completed_not_failed hc.2]; decide), if_pos hc.2]
      | cons first lines =>
        rw [List.forall_mem_cons] at hp
        have hbind : (first :: lines ++ [line]).head?.bind (candidate loads) =
            candidate loads first := rfl
        rw [hbind]
        cases hfirst : candidate loads first with
        | none => exact hgoOn hp.2 last
        | some snapshot =>
          obtain ⟨hfails, hcompletes⟩ := hp.1 snapshot hfirst
          dsimp only
          rw [if_neg (by rw [hfails]; decide), if_neg (by rw [hcompletes]; decide)]
          exact hgoOn hp.2 (some snapshot)
    · rw [if_neg hreadable, if_neg hreadable]
      exact hgoOn hp last

end

end Wait

open Classical in
/-- `json.loads`: what a text of the grammar stands for. -/
noncomputable def loads (text : List Char) : Option Json :=
  if h : ∃ j, Document text j then some h.choose else none

theorem loads_line (s : Serialised.AppSnapshot) :
    loads (s.toJson.toList ++ ['\n']) = some j ↔ Document s.toJson.toList j := by
  have hline {j : Json} :
      Document (s.toJson.toList ++ ['\n']) j ↔ Document s.toJson.toList j := by
    rw [toJson_toList]
    exact document_line escapeChar_total s.prints.sound
  constructor
  · intro h
    rw [loads] at h
    split at h
    · rename_i hread
      rw [← Option.some.inj h]
      exact hline.1 hread.choose_spec
    · cases h
  · intro h
    have hread : ∃ j, Document (s.toJson.toList ++ ['\n']) j := ⟨j, hline.2 h⟩
    rw [loads, dif_pos hread]
    have hchosen := ((toJson_document s).1 (hline.1 hread.choose_spec)).2
    rw [hchosen, ((toJson_document s).1 h).2]

/-- The snapshots the program showed, oldest first. -/
def shown (h : List LoopEntry) : List AppSnapshot := h.reverse.filterMap shows

/-- What the program writes when it is told to write JSON. -/
def printedLines (h : List LoopEntry) : List (List Char) :=
  (shown h).map fun s => s.serialised.toJson.toList ++ ['\n']

theorem candidate_line {s : AppSnapshot} :
    candidate loads (s.serialised.toJson.toList ++ ['\n']) = some j ↔
      Document s.serialised.toJson.toList j := by
  rw [candidate, Option.filter_eq_some_iff, loads_line]
  refine and_iff_left_of_imp fun h => ?_
  rw [((toJson_document _).1 h).2]
  rfl

theorem startup_completed (phase : FlightStartupPhase) :
    ((flightStartupPhaseName phase).toList == "completed".toList) = true ↔ phase = .completed := by
  cases phase <;> decide

theorem autonomy_completed (phase : AutonomyRuntimePhase) :
    ((autonomyPhaseName phase).toList == "completed".toList) = true ↔ phase = .completed := by
  cases phase <;> decide

theorem autonomy_failed (phase : AutonomyRuntimePhase) :
    ((autonomyPhaseName phase).toList == "failed".toList) = true ↔ phase = .failed := by
  cases phase <;> decide

theorem failed_tree (s : AppSnapshot) :
    snapshotFailedAutonomy s.serialised.tree = true ↔ s.autonomy.phase = .failed := by
  rw [← autonomy_failed]
  exact Iff.rfl

theorem completed_tree (s : AppSnapshot) :
    snapshotCompletedAutonomy s.serialised.tree = true ↔ s.flightStartup.phase = .completed ∧
      s.autonomy.phase = .completed ∧ s.vehicle.armed = false := by
  have hverdict : snapshotCompletedAutonomy s.serialised.tree =
      (((flightStartupPhaseName s.flightStartup.phase).toList == "completed".toList) && true &&
        ((autonomyPhaseName s.autonomy.phase).toList == "completed".toList) &&
        !s.vehicle.armed) := rfl
  rw [hverdict, Bool.and_true, Bool.and_eq_true, Bool.and_eq_true, startup_completed,
    autonomy_completed, Bool.not_eq_true', and_assoc]

section Program
variable {options : CommandLineOptions} {h : List LoopEntry} {loop : MainLoop} {active : Bool}
  {startedAt : TimePoint} {application : CompanionApplication}

theorem mem_shown : s ∈ shown h ↔ ∃ e ∈ h, shows e = some s := by
  simp only [shown, List.mem_filterMap, List.mem_reverse]

theorem shows_output (hs : shows e = some s) : e.output = some (.snapshot s) := by
  unfold shows at hs
  split at hs
  · rename_i hout
    rw [hout, Option.some.inj hs]
  · cases hs

theorem shows_call (hr : MainLoop.Ran options active startedAt application h loop) (he : e ∈ h)
    (hs : shows e = some s) : ∃ source detector now,
      s = (e.before.application.snapshot source detector now).2 ∧
      applicationCall e = some
        ⟨e.before.application, .snapshot source detector now, .snapshot s⟩ := by
  obtain ⟨_, _, _, _, hout⟩ := hr.reached he
  have ho := shows_output hs
  obtain ⟨before, input, output⟩ := e
  dsimp only at ho hout
  subst ho
  cases input with
  | handleSignal | head | noKey | poll | pollThrows => cases hout
  | key key commandTime =>
    rw [MainLoop.step, MainLoop.pressed] at hout
    split at hout
    · cases hout
    split at hout
    · cases hout
    · cases hout
  | snapshot now source detector =>
    rw [MainLoop.step, MainLoop.shown] at hout
    split at hout
    · exact ⟨source, detector, now, AppReturn.snapshot.inj (Option.some.inj hout), rfl⟩
    · cases hout

/-- Only the last snapshot can end the program. -/
theorem shown_split (hr : MainLoop.Ran options active startedAt application h loop)
    (hs : s ∈ shown h) (hends : endsProgram options s = true) :
    ∃ earlier, shown h = earlier ++ [s] ∧ ∀ s' ∈ earlier, endsProgram options s' = false := by
  have hquiet := hr.settled.quiet
  obtain ⟨e, he, hshows⟩ := mem_shown.1 hs
  have hended : flightEnded options e = true := by
    rw [flightEnded, hshows]
    exact hends
  obtain ⟨newer, older, rfl⟩ := List.append_of_mem he
  have hnewer : newer.reverse.filterMap shows = [] := by
    rw [List.filterMap_eq_nil_iff]
    intro e' he'
    rw [List.mem_reverse] at he'
    cases hshows' : shows e' with
    | none => rfl
    | some s' =>
      obtain ⟨_, _, _, _, hcall⟩ := shows_call hr (List.mem_append_left _ he') hshows'
      rw [(hquiet newer e older rfl hended e' he').1] at hcall
      cases hcall
  refine ⟨shown older, ?_, fun s' hs' => ?_⟩
  · rw [shown, List.reverse_append, List.reverse_cons, List.append_assoc, List.filterMap_append,
      List.filterMap_append, hnewer, List.append_nil, List.filterMap_cons_some hshows]
    rfl
  · by_contra hends'
    obtain ⟨e', he', hshows'⟩ := mem_shown.1 hs'
    have hended' : flightEnded options e' = true := by
      rw [flightEnded, hshows']
      exact Bool.eq_true_of_not_eq_false hends'
    obtain ⟨between, oldest, rfl⟩ := List.append_of_mem he'
    obtain ⟨_, _, _, _, hcall⟩ := shows_call hr he hshows
    have hnone := hquiet (newer ++ e :: between) e' oldest (by simp) hended' e (by simp)
    rw [hnone.1] at hcall
    cases hcall

theorem ended_unthrown (hr : MainLoop.Ran options active startedAt application h loop)
    (he : e ∈ h) (hended : flightEnded options e = true) : h.any threw = false := by
  have hquiet := hr.settled.quiet
  obtain ⟨newer, older, rfl⟩ := List.append_of_mem he
  obtain ⟨hbefore, hlegal, _⟩ := Run.before hr (List.suffix_append newer (e :: older))
  have hlegal : MainLoop.legal active e.before e.input = true := hlegal.1
  have holder : older.any threw = false := (MainLoop.Ran.settled hbefore).unthrown hlegal
  have hthis : threw e = false := by
    unfold flightEnded at hended
    cases hshows : shows e with
    | none =>
      rw [hshows] at hended
      cases hended
    | some s => rw [threw, shows_output hshows]
  have hnewer : newer.any threw = false := by
    rw [List.any_eq_false]
    intro e' he'
    rw [(hquiet newer e older rfl hended e' he').2]
    decide
  rw [List.any_append, List.any_cons, hnewer, hthis, holder]
  rfl

/-- The two machines are in step in every snapshot that is shown. -/
theorem shown_inStep (hr : MainLoop.Ran options active startedAt application h loop)
    (hnew : CompanionApplication.new applicationOptions = .ok application) (hs : s ∈ shown h) :
    InStep s.flightStartup.phase s.autonomy.phase := by
  obtain ⟨e, he, hshows⟩ := mem_shown.1 hs
  obtain ⟨source, detector, now, rfl, hcall⟩ := shows_call hr he hshows
  obtain ⟨initial, hinit, hran⟩ := hr.application hnew
  obtain ⟨_, _, hbefore, _⟩ := hran.reached (List.mem_filterMap.2 ⟨e, he, hcall⟩)
  exact (Lockstep.kept.reached ⟨initial, hinit, hbefore⟩).steady.inStep

end Program

/-- The last snapshot shows a completed flight with the vehicle disarmed, and it can be read. -/
def Landed (h : List LoopEntry) (j : Json) : Prop :=
  ∃ s, (shown h).getLast? = some s ∧ s.autonomy.phase = .completed ∧ s.vehicle.armed = false ∧
    Document s.serialised.toJson.toList j

section Verdict
variable {options : CommandLineOptions} {h : List LoopEntry} {loop : MainLoop} {active : Bool}
  {startedAt : TimePoint} {application : CompanionApplication}

theorem endsProgram_exit (hexit : options.exitAfterAutonomy = true) (s : AppSnapshot) :
    endsProgram options s = true ↔ s.autonomy.phase = .completed ∨ s.autonomy.phase = .failed := by
  rw [endsProgram, hexit, Bool.true_and, Bool.or_eq_true, beq_iff_eq, beq_iff_eq]

/-- The snapshot of a flight that landed is the end of the program, which returns zero. -/
theorem landed_status (hexit : options.exitAfterAutonomy = true)
    (hr : MainLoop.Ran options active startedAt application h loop)
    (hstage : loop.stage = .returned status) (hl : Landed h j) : status = 0 := by
  obtain ⟨s, hlast, hcompleted, _, _⟩ := hl
  have hs : s ∈ shown h := List.mem_of_mem_getLast? hlast
  have hends := (endsProgram_exit hexit s).2 (.inl hcompleted)
  obtain ⟨earlier, hshown, hearlier⟩ := shown_split hr hs hends
  obtain ⟨e, he, hshows⟩ := mem_shown.1 hs
  have hunthrown : h.any threw = false := ended_unthrown hr he (by
    rw [flightEnded, hshows]
    exact hends)
  have hunfailed : h.any (endsWith options .failed) = false := by
    rw [List.any_eq_false]
    intro e' he' hfailed
    obtain ⟨s', hshows', hphase⟩ := (Option.any_eq_true _ _).1 hfailed
    rw [Bool.and_eq_true, beq_iff_eq] at hphase
    have hs' : s' ∈ earlier ++ [s] := hshown ▸ mem_shown.2 ⟨e', he', hshows'⟩
    rcases List.mem_append.1 hs' with hs' | hs'
    · have hnot := hearlier s' hs'
      rw [(endsProgram_exit hexit s').2 (.inr hphase.2)] at hnot
      cases hnot
    · rw [List.mem_singleton.1 hs', hcompleted] at hphase
      cases hphase.2
  obtain ⟨hstatus, _⟩ := hr.settled.returned status hstage
  rw [hstatus, hunthrown, hunfailed]
  rfl

theorem wait_landed (hexit : options.exitAfterAutonomy = true)
    (hr : MainLoop.Ran options active startedAt application h loop)
    (hwait : waitForTerminalSnapshot loads str dumps none turns (printedLines h) = .ok j) :
    Landed h j := by
  obtain ⟨line, hmem, hcandidate, hcompletes⟩ := wait_ok hwait
  obtain ⟨s, hs, rfl⟩ := List.mem_map.1 hmem
  have hdocument := candidate_line.1 hcandidate
  rw [((toJson_document _).1 hdocument).2] at hcompletes
  obtain ⟨_, hcompleted, hdisarmed⟩ := (completed_tree s).1 hcompletes
  obtain ⟨earlier, hshown, _⟩ :=
    shown_split hr hs ((endsProgram_exit hexit s).2 (.inl hcompleted))
  refine ⟨s, ?_, hcompleted, hdisarmed, hdocument⟩
  rw [hshown]
  exact List.getLast?_concat

theorem landed_wait (hexit : options.exitAfterAutonomy = true)
    (hr : MainLoop.Ran options active startedAt application h loop)
    (hnew : CompanionApplication.new applicationOptions = .ok application)
    (hexited : ∀ turn ∈ turns, turn.exited = none) (hended : ∃ turn ∈ turns, turn.ended = true)
    (hl : Landed h j) :
    waitForTerminalSnapshot loads str dumps none turns (printedLines h) = .ok j := by
  obtain ⟨s, hlast, hcompleted, hdisarmed, hdocument⟩ := hl
  have hs : s ∈ shown h := List.mem_of_mem_getLast? hlast
  obtain ⟨earlier, hshown, hearlier⟩ :=
    shown_split hr hs ((endsProgram_exit hexit s).2 (.inl hcompleted))
  rw [printedLines, hshown, List.map_append]
  refine wait_passed (fun line hmem => ?_) ⟨candidate_line.2 hdocument, ?_⟩ hexited hended
  · obtain ⟨s', hs', rfl⟩ := List.mem_map.1 hmem
    intro j' hcandidate
    have hgoes := hearlier s' hs'
    rw [← Bool.not_eq_true, endsProgram_exit hexit, not_or] at hgoes
    rw [((toJson_document _).1 (candidate_line.1 hcandidate)).2]
    refine ⟨Bool.eq_false_iff.2 fun hf => ?_, Bool.eq_false_iff.2 fun hc => ?_⟩
    · exact hgoes.2 ((failed_tree s').1 hf)
    · exact hgoes.1 ((completed_tree s').1 hc).2.1
  · rw [((toJson_document _).1 hdocument).2, completed_tree]
    have hstep := shown_inStep hr hnew hs
    exact ⟨hstep.completed (.inr (.inr hcompleted)), hcompleted, hdisarmed⟩

end Verdict

/-- The acceptance test of a flight against the program, started to write JSON and to exit after
the flight: the test takes a snapshot for the end of the flight only when it is the last one the
program shows, completed and with the vehicle disarmed; the program then returns zero; and when no
other process ends and the test lives to see the program end, it takes every such snapshot. -/
theorem flight_accepted (options : CommandLineOptions) {application : CompanionApplication}
    (str dumps : Json → String)
    (hnew : CompanionApplication.new applicationOptions = .ok application)
    (hr : MainLoop.Ran { options with jsonOutput := true, exitAfterAutonomy := true } active
      startedAt application h loop) (hstage : loop.stage = .returned status) :
    (∀ turns j, waitForTerminalSnapshot loads str dumps none turns (printedLines h) = .ok j →
      Landed h j) ∧
    (∀ j, Landed h j → status = 0) ∧
    ∀ turns j, (∀ turn ∈ turns, turn.exited = none) → (∃ turn ∈ turns, turn.ended = true) →
      Landed h j →
        waitForTerminalSnapshot loads str dumps none turns (printedLines h) = .ok j :=
  ⟨fun _ _ hwait => wait_landed rfl hr hwait, fun _ hl => landed_status rfl hr hstage hl,
    fun _ _ hexited hended hl => landed_wait rfl hr hnew hexited hended hl⟩

/-- Nothing is seen after takeoff, so the vehicle is told to land, does, and is disarmed. -/
def blindLanding : List AppCall :=
  [pollAt 12 [heartbeatFrom 1 2 128 4], pollAt 14 [heartbeatFrom 1 2 128 4],
   pollAt 15 [heartbeatFrom 1 2 128 4],
   pollAt 16 [heartbeatFrom 1 2 128 9, acknowledgedBy 1 MAV_CMD_NAV_LAND 0],
   pollAt 17 [heartbeatFrom 1 2 0 9]]

/-- The steps of a turn without a key. -/
def wholeTurn (call : AppCall) : List LoopStep :=
  match call with
  | .poll input => [.head, .noKey, .poll input, .snapshot input.now {} ""]
  | _ => []

def landedFlight : List LoopStep :=
  (readyFlight 1 0 ++ CompanionApplication.takeoffCalls ++ blindLanding).flatMap wholeTurn ++
    [.head]

def acceptanceOptions : CommandLineOptions :=
  { autonomous := true, jsonOutput := true, exitAfterAutonomy := true }

/-- A check for the end of a flight. -/
def landedCheck (h : List LoopEntry) : Bool :=
  (shown h).getLast?.any fun s =>
    s.autonomy.phase == .completed && !s.vehicle.armed && s.serialised.readable

theorem landed_of_check (hc : landedCheck h = true) : ∃ j, Landed h j := by
  obtain ⟨s, hlast, hs⟩ := (Option.any_eq_true _ _).1 hc
  rw [Bool.and_eq_true, Bool.and_eq_true, beq_iff_eq, Bool.not_eq_true'] at hs
  exact ⟨_, s, hlast, hs.1.1, hs.1.2, readable_document hs.2⟩

/-- A flight without a target is accepted once the vehicle has landed. -/
theorem flight_accepted_blind : ∃ application h loop j,
    MainLoop.Ran acceptanceOptions false 0 application h loop ∧
    loop.stage = .returned 0 ∧
    waitForTerminalSnapshot loads (fun _ => "") (fun _ => "") none [{ ended := true }]
      (printedLines h) = .ok j := by
  have hcheck : ((CompanionApplication.new flightOptions).toOption.any fun application =>
      playable (MainLoop.step acceptanceOptions)
        (MainLoop.legal false) { application := application, nextSnapshot := 0 } landedFlight &&
      (play (MainLoop.step acceptanceOptions) []
        { application := application, nextSnapshot := 0 } landedFlight).2.stage == .returned 0 &&
      landedCheck (play (MainLoop.step acceptanceOptions) []
        { application := application, nextSnapshot := 0 } landedFlight).1) = true := by
    decide +kernel
  obtain ⟨application, hnew, hc⟩ := (Option.any_eq_true _ _).1 hcheck
  rw [Bool.and_eq_true, Bool.and_eq_true] at hc
  have hr : MainLoop.Ran acceptanceOptions false 0 application _ _ :=
    Run.start.play_checked hc.1.1 (by decide) (fun e he => absurd he List.not_mem_nil) (by decide)
  have hstage := beq_iff_eq.1 hc.1.2
  obtain ⟨j, hl⟩ := landed_of_check hc.2
  have hok : CompanionApplication.new flightOptions = .ok application := by
    cases h : CompanionApplication.new flightOptions with
    | error what =>
      rw [h] at hnew
      cases hnew
    | ok initial =>
      rw [h] at hnew
      exact congrArg Except.ok (Option.some.inj hnew)
  obtain ⟨_, _, haccepted⟩ :=
    flight_accepted acceptanceOptions (fun _ => "") (fun _ => "") hok hr hstage
  exact ⟨application, _, _, j, hr, hstage, haccepted _ j (by decide) (by decide) hl⟩

end OnboardAutonomy
