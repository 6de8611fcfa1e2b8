import OnboardAutonomy.ConsoleTexts

namespace OnboardAutonomy
open Checked Chunks
set_option autoImplicit true

namespace Console

section
variable {clean : Prop}

/-- A text of a width. Under a condition on what it shows it stays on one line. -/
structure Field (clean : Prop) (width : Nat) (text : List Char) : Prop where
  length : text.length = width
  unbroken : clean → Unbroken text

theorem Field.append (h : Field clean m a) (h' : Field clean n b) :
    Field clean (m + n) (a ++ b) where
  length := by rw [List.length_append, h.length, h'.length]
  unbroken hc := unbroken_append.2 ⟨h.unbroken hc, h'.unbroken hc⟩

theorem field_self (h : Unbroken text) : Field clean text.length text where
  length := rfl
  unbroken _ := h

theorem field_replicate {c : Char} (hc : c ≠ '\n') : Field clean n (List.replicate n c) where
  length := List.length_replicate
  unbroken _ := by
    intro hmem
    exact hc (List.eq_of_mem_replicate hmem).symm

theorem clipped_yields (width : Nat) (h : clean → Unbroken value) :
    Yields (clipped value width) fun text =>
      text.length ≤ width ∧ (clean → Unbroken text) := by
  have htake (n : Nat) (hc : clean) : Unbroken (value.take n) :=
    fun hmem => h hc (List.mem_of_mem_take hmem)
  rw [clipped]
  by_cases hle : value.length ≤ width
  · rw [if_pos hle]
    exact yields_some.2 ⟨hle, h⟩
  · rw [if_neg hle]
    by_cases hwidth : width ≤ 3
    · rw [if_pos hwidth]
      exact yields_some.2 ⟨List.length_take_le width value, htake width⟩
    · rw [if_neg hwidth]
      apply (yields_minus (Nat.le_of_lt (Nat.lt_of_not_le hwidth))).bind
      intro kept hkept
      refine yields_some.2 ⟨?_, ?_⟩
      · have hlength := List.length_take_le kept value
        rw [List.length_append]
        exact Nat.le_trans (Nat.add_le_add_right hlength 3) (Nat.le_of_eq hkept)
      · intro hc
        exact unbroken_append.2 ⟨htake kept hc, by decide⟩

theorem fitted_yields (width : Nat) (h : clean → Unbroken value) :
    Yields (fitted value width) (Field clean width) := by
  apply (clipped_yields width h).bind
  rintro text ⟨hlength, htext⟩
  apply (yields_minus hlength).bind
  intro padding hpadding
  have hfield : Field clean text.length text := ⟨rfl, htext⟩
  have hblanks : Field clean padding (List.replicate padding ' ') := field_replicate (by decide)
  have hpadded := hfield.append hblanks
  rw [Nat.add_comm, hpadding] at hpadded
  exact yields_some.2 hpadded

theorem centered_yields (width : Nat) (h : clean → Unbroken value) :
    Yields (centered value width) (Field clean width) := by
  apply (clipped_yields width h).bind
  rintro text ⟨hlength, htext⟩
  apply (yields_minus hlength).bind
  intro margin hmargin
  apply (yields_minus (Nat.div_le_self margin 2)).bind
  intro right hright
  have hfield : Field clean text.length text := ⟨rfl, htext⟩
  have hleft : Field clean (margin / 2) (List.replicate (margin / 2) ' ') :=
    field_replicate (by decide)
  have hright : Field clean right (List.replicate right ' ') := field_replicate (by decide)
  have hcentered := (hleft.append hfield).append hright
  have hwidth : margin / 2 + text.length + right = width := by omega
  rw [hwidth] at hcentered
  exact yields_some.2 hcentered

theorem deviceLine_yields {value : String} (h : clean → OneLine value) :
    Yields (deviceLine value) (Field clean kDeviceWidth) := by
  apply (yields_minus (by decide : 2 ≤ kDeviceWidth)).bind
  intro width hwidth
  apply (centered_yields width h).bind
  intro text htext
  have hbar : Field clean 1 ['|'] := field_self (by decide : Unbroken ['|'])
  have hdevice := (hbar.append htext).append hbar
  have he : 1 + width + 1 = kDeviceWidth := by omega
  rw [he] at hdevice
  exact yields_some.2 hdevice

/-- A row writes a line of the console's width: without colour nothing else, and with colour
nothing else that is shown. -/
structure Prints (clean : Prop) (row : Row) (line : List Char) : Prop where
  field : Field clean kConsoleWidth line
  plain : Yields (row false) fun spans => written spans = line ++ ['\n']
  coloured : Yields (row true) fun spans => shown spans = line ++ ['\n']

/-- Texts that are painted one behind the other. -/
def painted (cells : List (List Char × Tone)) (useColor : Bool) : List Span :=
  cells.flatMap fun cell => paint cell.1 cell.2 useColor

theorem written_painted : written (painted cells false ++ endOfLine) =
    cells.flatMap Prod.fst ++ ['\n'] := by
  rw [written, List.flatMap_append, painted, List.flatMap_assoc]
  simp [paint, Span.bytes, endOfLine]

theorem shown_painted : shown (painted cells true ++ endOfLine) =
    cells.flatMap Prod.fst ++ ['\n'] := by
  rw [shown, List.flatMap_append, painted, List.flatMap_assoc]
  simp [paint, Span.shown, endOfLine]

theorem prints_painted {row : Row} (cells : List (List Char × Tone))
    (hrow : ∀ useColor, row useColor = some (painted cells useColor ++ endOfLine))
    (hfield : Field clean kConsoleWidth (cells.flatMap Prod.fst)) :
    ∃ line, Prints clean row line := by
  refine ⟨cells.flatMap Prod.fst, hfield, ?_, ?_⟩
  · rw [hrow, yields_some]
    exact written_painted
  · rw [hrow, yields_some]
    exact shown_painted

theorem bar_field : Field clean 1 ['|'] := field_self (by decide : Unbroken ['|'])

theorem framed_field (h : Field clean kInnerWidth text) :
    Field clean kConsoleWidth (['|'] ++ (text ++ ['|'])) :=
  bar_field.append (h.append bar_field)

theorem writeBorder_prints {fill : Char} (h : fill ≠ '\n') :
    ∃ line, Prints clean (writeBorder fill) line := by
  have hplus : Field clean 1 ['+'] := field_self (by decide : Unbroken ['+'])
  have hfill : Field clean kInnerWidth (List.replicate kInnerWidth fill) := field_replicate h
  have hborder : Field clean kConsoleWidth (['+'] ++ List.replicate kInnerWidth fill ++ ['+']) :=
    (hplus.append hfill).append hplus
  apply prints_painted [(['+'] ++ List.replicate kInnerWidth fill ++ ['+'], .chrome)]
  · intro useColor
    simp [writeBorder, painted]
  · simpa using hborder

theorem writeLine_prints {value : String} (h : clean → OneLine value) :
    ∃ line, Prints clean (writeLine value tone) line := by
  obtain ⟨text, he, htext⟩ := fitted_yields kInnerWidth h
  apply prints_painted [(['|'], .chrome), (text, tone), (['|'], .chrome)]
  · intro useColor
    simp [writeLine, painted, he]
  · simpa using framed_field htext

theorem writeCenteredLine_prints {value : String} (h : clean → OneLine value) :
    ∃ line, Prints clean (writeCenteredLine value tone) line := by
  obtain ⟨text, he, htext⟩ := centered_yields kInnerWidth h
  apply prints_painted [(['|'], .chrome), (text, tone), (['|'], .chrome)]
  · intro useColor
    simp [writeCenteredLine, painted, he]
  · simpa using framed_field htext

theorem writeTopologyLine_prints
    (hcompanion : Yields companion fun text => clean → Unbroken text)
    (hlink : Yields link fun text => clean → Unbroken text)
    (hcontroller : Yields controller fun text => clean → Unbroken text) :
    ∃ line, Prints clean
      (writeTopologyLine companion companionTone link linkTone controller controllerTone) line := by
  obtain ⟨companion, rfl, hcompanion⟩ := hcompanion
  obtain ⟨link, rfl, hlink⟩ := hlink
  obtain ⟨controller, rfl, hcontroller⟩ := hcontroller
  obtain ⟨companionText, hcompanionText, hcompanionField⟩ := fitted_yields kDeviceWidth hcompanion
  obtain ⟨linkText, hlinkText, hlinkField⟩ := fitted_yields kLinkWidth hlink
  obtain ⟨controllerText, hcontrollerText, hcontrollerField⟩ :=
    fitted_yields kDeviceWidth hcontroller
  have hfront : Field clean 2 ['|', ' '] := field_self (by decide : Unbroken ['|', ' '])
  have hback : Field clean 2 [' ', '|'] := field_self (by decide : Unbroken [' ', '|'])
  have hline : Field clean kConsoleWidth
      (['|', ' '] ++ (companionText ++ (linkText ++ (controllerText ++ [' ', '|'])))) :=
    hfront.append (hcompanionField.append (hlinkField.append (hcontrollerField.append hback)))
  apply prints_painted [(['|', ' '], .chrome), (companionText, companionTone),
    (linkText, linkTone), (controllerText, controllerTone), ([' ', '|'], .chrome)]
  · intro useColor
    simp [writeTopologyLine, painted, hcompanionText, hlinkText, hcontrollerText]
  · simpa using hline

theorem writeHeader_prints {linkStatus transportDescription : String} {connected : Bool}
    (hlength : linkStatus.toList.length ≤ 60) (hstatus : OneLine linkStatus)
    (htransport : clean → OneLine transportDescription) :
    ∃ line, Prints clean (writeHeader linkStatus transportDescription connected) line := by
  have hfixed : Field clean 26 (" ONBOARD AUTONOMY   ".toList ++ "LINK: ".toList) :=
    field_self (by decide : Unbroken (" ONBOARD AUTONOMY   ".toList ++ "LINK: ".toList))
  have hblank : clean → Unbroken ("   ".toList ++ transportDescription.toList) :=
    fun hc => unbroken_append.2 ⟨by decide, htransport hc⟩
  obtain ⟨behindTitle, htitle, hsum⟩ :=
    yields_minus (by decide : " ONBOARD AUTONOMY   ".toList.length ≤ kInnerWidth)
  replace hsum : behindTitle + 20 = 86 := hsum
  obtain ⟨behindLabel, hlabel, hsum'⟩ :=
    yields_minus (show "LINK: ".toList.length ≤ behindTitle from (by omega : 6 ≤ behindTitle))
  replace hsum' : behindLabel + 6 = behindTitle := hsum'
  obtain ⟨remaining, hremaining, hrest⟩ :=
    yields_minus (by omega : linkStatus.toList.length ≤ behindLabel)
  obtain ⟨text, htext, hfield⟩ := fitted_yields remaining hblank
  have hline : Field clean kConsoleWidth (['|'] ++ ((" ONBOARD AUTONOMY   ".toList ++
      "LINK: ".toList) ++ (linkStatus.toList ++ (text ++ ['|'])))) := by
    have h := bar_field.append (hfixed.append
      ((field_self hstatus).append (hfield.append bar_field)))
    have he : 1 + (26 + (linkStatus.toList.length + (remaining + 1))) = kConsoleWidth := by
      have : kConsoleWidth = 88 := rfl
      omega
    rw [he] at h
    exact h
  apply prints_painted [(['|'], .chrome), (" ONBOARD AUTONOMY   ".toList, .accent),
    ("LINK: ".toList, .normal), (linkStatus.toList, if connected then .good else .dim),
    (text, .dim), (['|'], .chrome)]
  · intro useColor
    simp only [writeHeader, Option.bind_eq_bind, htitle, hlabel, hremaining, htext,
      Option.bind_some, painted, List.flatMap_cons, List.flatMap_nil, List.append_assoc,
      List.append_nil]
  · simpa using hline

theorem freshActivity_eq_some (h : freshActivity activity elapsed = some shownActivity) :
    activity = some shownActivity := by
  rw [freshActivity, Option.filter_eq_some_iff] at h
  exact h.1

theorem packetText_yields {activity : LinkActivity}
    (h : clean → OneLine activity.messageName ∧ OneLine activity.detail) :
    Yields (packetText activity) fun packet =>
      packet.length ≤ 37 ∧ (clean → Unbroken packet) := by
  have hlabel : clean → OneLine (activityLabel activity) := by
    intro hc
    obtain ⟨hname, hdetail⟩ := h hc
    rw [activityLabel]
    exact hname.ite (oneLine_append.2 ⟨oneLine_append.2 ⟨hname, by decide⟩, hdetail⟩)
  apply (yields_minus (by decide : 7 ≤ kLinkWidth)).bind
  intro width hwidth
  replace hwidth : width + 7 = 40 := hwidth
  apply (clipped_yields width hlabel).bind
  rintro label ⟨hlength, hunbroken⟩
  refine yields_some.2 ⟨?_, ?_⟩
  · have hbrackets : ("[ ".toList ++ label ++ " ]".toList).length = 2 + label.length + 2 := by
      rw [List.length_append, List.length_append]
      rfl
    omega
  · intro hc
    exact unbroken_append.2 ⟨unbroken_append.2 ⟨by decide, hunbroken hc⟩, by decide⟩

theorem pulses_bind {packet : List Char} {next : Nat → Option α} (h : packet.length ≤ 37)
    (hnext : ∀ length, 2 + packet.length + length + 1 = kLinkWidth → Yields (next length) P) :
    Yields (do
      let length ← minus (← minus kLinkWidth packet.length) 3
      next length) P := by
  have hwidth : kLinkWidth = 40 := rfl
  apply (yields_minus (by omega : packet.length ≤ kLinkWidth)).bind
  intro rest hrest
  apply (yields_minus (by omega : 3 ≤ rest)).bind
  intro length hlength
  exact hnext length (by omega)

theorem pulse_ne (elapsed : Int) : (if blinkIsBright elapsed then '=' else '-') ≠ '\n' := by
  split
  · decide
  · decide

theorem idle_yields : Yields (minus kLinkWidth 1) fun length => length = 39 :=
  (yields_minus (by decide)).mono fun _ h => Nat.succ.inj h

theorem outboundWire_yields
    (h : clean → ∀ a, activity = some a → OneLine a.messageName ∧ OneLine a.detail) :
    Yields (outboundWire activity elapsed) (Field clean kLinkWidth) := by
  have hend : Field clean 1 ['>'] := field_self (by decide : Unbroken ['>'])
  rw [outboundWire]
  cases hfresh : freshActivity activity elapsed with
  | none =>
    apply idle_yields.bind
    rintro length rfl
    have hdashes : Field clean 39 (List.replicate 39 '-') := field_replicate (by decide)
    exact yields_some.2 (hdashes.append hend)
  | some a =>
    apply (packetText_yields fun hc => h hc a (freshActivity_eq_some hfresh)).bind
    rintro packet ⟨hlength, hunbroken⟩
    have hpacket : Field clean packet.length packet := ⟨rfl, hunbroken⟩
    apply pulses_bind hlength
    intro length hsum
    have hpulses (n : Nat) : Field clean n _ := field_replicate (pulse_ne elapsed)
    have hwire := (((hpulses 2).append hpacket).append (hpulses length)).append hend
    rw [hsum] at hwire
    exact yields_some.2 hwire

theorem inboundWire_yields
    (h : clean → ∀ a, activity = some a → OneLine a.messageName ∧ OneLine a.detail) :
    Yields (inboundWire activity elapsed) (Field clean kLinkWidth) := by
  have hend : Field clean 1 ['<'] := field_self (by decide : Unbroken ['<'])
  rw [inboundWire]
  cases hfresh : freshActivity activity elapsed with
  | none =>
    apply idle_yields.bind
    rintro length rfl
    have hdashes : Field clean 39 (List.replicate 39 '-') := field_replicate (by decide)
    exact yields_some.2 (hend.append hdashes)
  | some a =>
    apply (packetText_yields fun hc => h hc a (freshActivity_eq_some hfresh)).bind
    rintro packet ⟨hlength, hunbroken⟩
    have hpacket : Field clean packet.length packet := ⟨rfl, hunbroken⟩
    apply pulses_bind hlength
    intro length hsum
    have hpulses (n : Nat) : Field clean n _ := field_replicate (pulse_ne elapsed)
    have hwire := ((hend.append (hpulses length)).append hpacket).append (hpulses 2)
    have he : 1 + length + packet.length + 2 = kLinkWidth := by omega
    rw [he] at hwire
    exact yields_some.2 hwire

/-- Every row of a part of the screen writes a line. -/
def AllPrint (clean : Prop) (rows : List Row) : Prop := ∀ row ∈ rows, ∃ line, Prints clean row line

theorem AllPrint.nil : AllPrint clean [] := fun _ h => absurd h List.not_mem_nil

theorem AllPrint.cons {rows : List Row} (h : ∃ line, Prints clean row line)
    (h' : AllPrint clean rows) : AllPrint clean (row :: rows) :=
  List.forall_mem_cons.2 ⟨h, h'⟩

theorem AllPrint.append {rows rows' : List Row} (h : AllPrint clean rows)
    (h' : AllPrint clean rows') : AllPrint clean (rows ++ rows') :=
  List.forall_mem_append.2 ⟨h, h'⟩

theorem AllPrint.lines {rows : List Row} (h : AllPrint clean rows) :
    ∃ lines, List.Forall₂ (Prints clean) rows lines ∧
      ∀ line ∈ lines, Field clean kConsoleWidth line := by
  induction rows with
  | nil => exact ⟨[], .nil, fun _ h => absurd h List.not_mem_nil⟩
  | cons row rows ih =>
    obtain ⟨⟨line, hline⟩, hrows⟩ := List.forall_mem_cons.1 h
    obtain ⟨lines, hlines, hfields⟩ := ih hrows
    exact ⟨line :: lines, .cons hline hlines, List.forall_mem_cons.2 ⟨hline.field, hfields⟩⟩

theorem flatMap_lines {f : Span → List Char} {lines : List (List Char)} {parts : List (List Span)}
    (h : List.Forall₂ (fun line part => part.flatMap f = line ++ ['\n']) lines parts) :
    parts.flatten.flatMap f = lines.flatMap (· ++ ['\n']) := by
  induction h with
  | nil => rfl
  | cons hhead _ ih => rw [List.flatten_cons, List.flatMap_append, hhead, ih, List.flatMap_cons]

theorem rows_yield {rows : List Row} {f : Span → List Char} {lines : List (List Char)}
    (h : List.Forall₂ (fun row line =>
      Yields (row useColor) fun part => part.flatMap f = line ++ ['\n']) rows lines) :
    Yields ((rows.mapM fun row : Row => row useColor).map List.flatten) fun spans =>
      spans.flatMap f = lines.flatMap (· ++ ['\n']) :=
  (Yields.mapM h).map fun _ hparts => flatMap_lines hparts

end

/-- The texts that come from outside are on one line each. -/
structure OneLined (snapshot : AppSnapshot) (transportDescription : String)
    (resolver : Option BoardTypeResolver) : Prop where
  transport : OneLine transportDescription
  failsafe : OneLine snapshot.companionLinkFailsafe.detail
  startup : OneLine snapshot.flightStartup.detail
  autonomy : OneLine snapshot.autonomy.detail
  warning : ∀ warning, snapshot.vehicle.warnings.head? = some warning → OneLine warning
  camera : ∀ camera, snapshot.camera = some camera → OneLine camera.error
  vision : ∀ vision, snapshot.vision = some vision → OneLine vision.detector
  outbound : ∀ activity, snapshot.txActivity = some activity →
    OneLine activity.messageName ∧ OneLine activity.detail
  inbound : ∀ activity, snapshot.rxActivity = some activity →
    OneLine activity.messageName ∧ OneLine activity.detail
  board : ∀ boardVersion found, resolveBoardType boardVersion resolver = some found →
    OneLine found.preferredName

section
variable {snapshot : AppSnapshot} {transportDescription : String}
  {resolver : Option BoardTypeResolver}

theorem boardTypeName_oneLine (h : OneLined snapshot transportDescription resolver) :
    OneLine (boardTypeName boardVersion resolver) := by
  rw [boardTypeName]
  cases hfound : resolveBoardType boardVersion resolver with
  | none => exact oneLine_append.2 ⟨by decide, toString_oneLine⟩
  | some found => exact h.board boardVersion found hfound

theorem controllerHardwareName_oneLine (h : OneLined snapshot transportDescription resolver) :
    OneLine (controllerHardwareName vehicle resolver) := by
  unfold controllerHardwareName
  split
  · exact .ite (by decide) (boardTypeName_oneLine h)
  · decide

theorem boardDetail_oneLine (h : OneLined snapshot transportDescription resolver) :
    OneLine (boardDetail vehicle resolver) := by
  have haliases (found : Option BoardTypeMatch) : OneLine (aliasesDetail found) := by
    cases found with
    | none => exact (by decide : OneLine "")
    | some found =>
      refine .ite ?_ (by decide)
      simp only [oneLine_append, toString_oneLine, and_true]
      decide
  unfold boardDetail
  split
  · refine .ite (by decide) ?_
    simp only [oneLine_append, toString_oneLine, boardTypeName_oneLine h, haliases, and_true]
    decide
  · decide

theorem fixed_yields {clean : Prop} (h : Unbroken text) :
    Yields (some text) fun text => clean → Unbroken text :=
  yields_some.2 fun _ => h

theorem device_yields {clean : Prop} {value : String} (h : OneLine value) :
    Yields (deviceLine value) fun text => clean → Unbroken text :=
  (deviceLine_yields fun _ => h).mono fun _ hfield => hfield.unbroken

theorem topologyRows_print :
    AllPrint (OneLined snapshot transportDescription resolver)
      (topologyRows snapshot resolver) := by
  rw [topologyRows]
  apply AllPrint.cons
  · refine writeTopologyLine_prints (fixed_yields (by decide)) ?_ (fixed_yields (by decide))
    exact (centered_yields kLinkWidth fun _ => by decide).mono fun _ hfield => hfield.unbroken
  apply AllPrint.cons
  · refine writeTopologyLine_prints (device_yields (by decide)) ?_ ?_
    · exact (outboundWire_yields fun h => h.outbound).mono fun _ hfield => hfield.unbroken
    · exact (deviceLine_yields controllerHardwareName_oneLine).mono fun _ hfield => hfield.unbroken
  apply AllPrint.cons
  · refine writeTopologyLine_prints (device_yields (by decide)) ?_ (device_yields (by decide))
    exact (inboundWire_yields fun h => h.inbound).mono fun _ hfield => hfield.unbroken
  apply AllPrint.cons
  · exact writeTopologyLine_prints (device_yields (.ite (by decide) (by decide)))
      (fixed_yields (by decide)) (device_yields controllerMode_oneLine)
  apply AllPrint.cons
  · exact writeTopologyLine_prints (device_yields (by decide)) (fixed_yields (by decide))
      (device_yields autopilotName_oneLine)
  apply AllPrint.cons
  · exact writeTopologyLine_prints (fixed_yields (by decide)) (fixed_yields (by decide))
      (fixed_yields (by decide))
  exact .nil

theorem cameraRows_print :
    AllPrint (OneLined snapshot transportDescription resolver) (cameraRows snapshot.camera) := by
  cases hcamera : snapshot.camera with
  | none => exact .nil
  | some camera =>
    apply AllPrint.cons
    · exact writeCenteredLine_prints fun _ => cameraStreamDetail_oneLine
    apply AllPrint.cons
    · exact writeCenteredLine_prints fun h => cameraLatencyDetail_oneLine (h.camera camera hcamera)
    exact .nil

theorem visionRows_print :
    AllPrint (OneLined snapshot transportDescription resolver) (visionRows snapshot.vision) := by
  cases hvision : snapshot.vision with
  | none => exact .nil
  | some vision =>
    apply AllPrint.append
    · apply AllPrint.cons
      · apply writeCenteredLine_prints
        exact fun h => visionPipelineDetail_oneLine (h.vision vision hvision)
      rw [trackRows]
      cases hstatus : visionTrackStatusDetail vision with
      | none => exact .nil
      | some status =>
        exact .cons (writeCenteredLine_prints fun _ => visionTrackStatusDetail_oneLine hstatus) .nil
    · exact .cons (writeCenteredLine_prints fun _ => visionTargetDetail_oneLine) .nil

theorem warningRow_prints : ∃ line,
    Prints (OneLined snapshot transportDescription resolver)
      (warningRow snapshot.vehicle) line := by
  rw [warningRow]
  cases hwarnings : snapshot.vehicle.warnings with
  | nil => exact writeCenteredLine_prints fun _ => .ite (by decide) (by decide)
  | cons warning warnings =>
    apply writeCenteredLine_prints
    intro h
    exact oneLine_append.2 ⟨by decide, h.warning warning (by rw [hwarnings]; rfl)⟩

theorem rows_print :
    AllPrint (OneLined snapshot transportDescription resolver)
      (rows snapshot transportDescription resolver) := by
  rw [rows]
  apply AllPrint.append
  · apply AllPrint.append _ visionRows_print
    apply AllPrint.append _ cameraRows_print
    apply AllPrint.append
    · apply AllPrint.append _ topologyRows_print
      apply AllPrint.cons (writeBorder_prints (by decide))
      apply AllPrint.cons
      · apply writeHeader_prints
        · split
          · decide
          · decide
        · exact .ite (by decide) (by decide)
        · exact fun h => h.transport
      apply AllPrint.cons (writeBorder_prints (by decide))
      exact .cons (writeLine_prints fun _ => by decide) .nil
    · apply AllPrint.cons (writeLine_prints fun _ => by decide)
      apply AllPrint.cons
      · apply writeCenteredLine_prints
        intro _
        simp only [oneLine_append, overallStatus_oneLine, and_true]
        decide
      apply AllPrint.cons
      · apply writeCenteredLine_prints
        intro _
        simp only [oneLine_append, telemetryDetail_oneLine, firmwareDetail_oneLine, and_true,
          true_and]
        decide
      apply AllPrint.cons (writeCenteredLine_prints boardDetail_oneLine)
      apply AllPrint.cons
      · exact writeCenteredLine_prints fun h => companionLinkFailsafeDetail_oneLine h.failsafe
      exact .nil
  · apply AllPrint.cons (writeCenteredLine_prints fun _ => modeDetail_oneLine)
    apply AllPrint.cons warningRow_prints
    apply AllPrint.cons (writeBorder_prints (by decide))
    apply AllPrint.cons
    · apply writeLine_prints
      intro _
      simp only [oneLine_append, autonomyPhaseName_oneLine, startupPhaseName_oneLine, and_true]
      decide
    apply AllPrint.cons
    · apply writeLine_prints
      intro h
      exact oneLine_append.2 ⟨by decide, .ite h.autonomy h.startup⟩
    apply AllPrint.cons
    · exact writeCenteredLine_prints fun _ => .ite (by decide) (by decide)
    exact .cons (writeBorder_prints (by decide)) .nil

end

/-- A track is shown once it has an identity and is no longer searched for. -/
def showsTrack (vision : Serialised.VisionSnapshot) : Bool :=
  vision.targetTrack.phase ≠ .searching && vision.targetTrack.targetId.isSome

def lineCount (snapshot : AppSnapshot) : Nat :=
  22 + (if snapshot.camera.isSome then 2 else 0) + (if snapshot.vision.isSome then 2 else 0) +
    (if snapshot.vision.any showsTrack then 1 else 0)

theorem trackRows_length : (trackRows vision).length = if showsTrack vision then 1 else 0 := by
  rw [trackRows, visionTrackStatusDetail, showsTrack]
  cases vision.targetTrack.phase <;> cases vision.targetTrack.targetId <;> rfl

theorem rows_length :
    (rows snapshot transportDescription resolver).length = lineCount snapshot := by
  have hcamera : (cameraRows snapshot.camera).length =
      if snapshot.camera.isSome then 2 else 0 := by
    cases snapshot.camera <;> rfl
  have hvision : (visionRows snapshot.vision).length =
      (if snapshot.vision.isSome then 2 else 0) +
        (if snapshot.vision.any showsTrack then 1 else 0) := by
    cases snapshot.vision with
    | none => rfl
    | some vision =>
      rw [visionRows, List.length_append, List.length_append, trackRows_length]
      exact Nat.add_right_comm 1 _ 1
  have htopology : (topologyRows snapshot resolver).length = 6 := rfl
  rw [rows, lineCount]
  simp only [List.length_append, List.length_cons, List.length_nil, hcamera, hvision, htopology]
  omega

/-- Every screen is made of lines of one width, however long the texts on it are. Without a newline
in a text these are also the lines it is read as, and colour only adds escape sequences. -/
theorem console_geometry (snapshot : AppSnapshot) (transportDescription : String)
    (resolver : Option BoardTypeResolver) :
    ∃ output lines,
      (renderConsole snapshot transportDescription false resolver).map written = some output ∧
      (renderConsole snapshot transportDescription true resolver).map shown = some output ∧
      output = lines.flatMap (· ++ ['\n']) ∧
      (∀ line ∈ lines, line.length = 88) ∧
      lines.length = lineCount snapshot ∧
      (OneLined snapshot transportDescription resolver → pieces '\n' output = lines) := by
  have hprint : AllPrint (OneLined snapshot transportDescription resolver)
    (rows snapshot transportDescription resolver) := rows_print
  obtain ⟨lines, hlines, hfields⟩ := hprint.lines
  obtain ⟨plain, hplain, hwritten⟩ := rows_yield (hlines.imp fun _ _ h => h.plain)
  obtain ⟨coloured, hcoloured, hshown⟩ := rows_yield (hlines.imp fun _ _ h => h.coloured)
  refine ⟨lines.flatMap (· ++ ['\n']), lines, ?_, ?_, rfl, ?_, ?_, ?_⟩
  · rw [renderConsole, hplain]
    exact congrArg some hwritten
  · rw [renderConsole, hcoloured]
    exact congrArg some hshown
  · exact fun line hline => (hfields line hline).length
  · rw [← rows_length, hlines.length_eq]
  · exact fun h => pieces_lines fun line hline => (hfields line hline).unbroken h

example : OneLined {} "serial:///dev/ttyACM0" none where
  transport := by decide
  failsafe := by decide
  startup := by decide
  autonomy := by decide
  warning := by simp
  camera := by simp
  vision := by simp
  outbound := by simp
  inbound := by simp
  board := by simp [resolveBoardType]

/-- Nothing is there yet but the vehicle's snapshot, and a warning of two lines. -/
theorem screen_miscounted :
    (renderConsole {} "" false none).map (fun spans => (pieces '\n' (written spans)).length) =
      some 22 ∧
    (renderConsole { vehicle := { warnings := ["LOW\nBATTERY"] } } "" false none).map
      (fun spans => (pieces '\n' (written spans)).all fun line => line.length = 88) =
        some false := by
  decide +kernel

end Console
end OnboardAutonomy
