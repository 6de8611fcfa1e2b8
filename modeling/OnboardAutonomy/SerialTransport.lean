import OnboardAutonomy.FrameWriting
import OnboardAutonomy.Histories

namespace OnboardAutonomy
open Histories
set_option autoImplicit true

/-- What `poll` says of the descriptor; an error, a hangup or an invalid descriptor is an error. -/
inductive PollAnswer where
  | interrupted
  | failed
  | quiet
  | ready (error readable : Bool)

inductive ReadAnswer where
  | again
  | failed
  | got (bytes : List UInt8)

inductive WriteAnswer where
  | again
  | failed
  | took (count : Nat)

/-- How an attempt to open the device ends; the settings of an unusable one cannot be read or
written. -/
inductive OpenAnswer where
  | refused
  | unusable (descriptor : Nat)
  | opened (descriptor : Nat)

/-- What the system answers during one call of the transport: the time at which it is asked to
connect, how that ends, and the time at which it disconnects. -/
structure SerialWorld where
  now : TimePoint
  opened : OpenAnswer
  poll : PollAnswer
  read : ReadAnswer
  write : WriteAnswer
  later : TimePoint

/-- The system calls of the transport. -/
inductive SystemCall where
  | «open» (time : TimePoint) (descriptor : Option Nat)
  | poll (descriptor : Nat)
  | read (descriptor : Nat)
  | write (descriptor : Nat) (taken : List UInt8)
  | close (descriptor : Nat) (time : TimePoint)

structure SerialTransport where
  reconnectInterval : Duration
  nextReconnectAttempt : TimePoint := 0
  fileDescriptor : Option Nat

namespace SerialTransport

/-- The device is opened right away, or there is no transport. -/
def make (reconnectInterval : Duration) (opened : Except String Nat) :
    Except String SerialTransport :=
  if reconnectInterval < 0 then .error "Serial reconnect interval cannot be negative"
  else
    match opened with
    | .error reason => .error reason
    | .ok descriptor => .ok {
        reconnectInterval := reconnectInterval
        fileDescriptor := some descriptor }

def ensureConnected (t : SerialTransport) (world : SerialWorld) :
    SerialTransport × List SystemCall :=
  match t.fileDescriptor with
  | some _ => (t, [])
  | none =>
    if world.now < t.nextReconnectAttempt then (t, [])
    else
      match world.opened with
      | .opened descriptor =>
        ({ t with fileDescriptor := some descriptor }, [.open world.now (some descriptor)])
      | .unusable descriptor =>
        ({ t with nextReconnectAttempt := world.now + t.reconnectInterval },
          [.open world.now (some descriptor), .close descriptor world.now])
      | .refused =>
        ({ t with nextReconnectAttempt := world.now + t.reconnectInterval },
          [.open world.now none])

def disconnect (t : SerialTransport) (world : SerialWorld) : SerialTransport × List SystemCall :=
  ({ t with
      fileDescriptor := none
      nextReconnectAttempt := world.later + t.reconnectInterval },
    match t.fileDescriptor with
    | some descriptor => [.close descriptor world.later]
    | none => [])

/-- A read on the descriptor of a connected transport. -/
def readFrom (t : SerialTransport) (world : SerialWorld) (descriptor : Nat) :
    SerialTransport × List SystemCall × List UInt8 :=
  match world.poll with
  | .interrupted | .quiet | .ready false false => (t, [.poll descriptor], [])
  | .failed | .ready true _ =>
    ((t.disconnect world).1, .poll descriptor :: (t.disconnect world).2, [])
  | .ready false true =>
    match world.read with
    | .again => (t, [.poll descriptor, .read descriptor], [])
    | .failed =>
      ((t.disconnect world).1, .poll descriptor :: .read descriptor :: (t.disconnect world).2, [])
    | .got bytes => (t, [.poll descriptor, .read descriptor], bytes)

def read (t : SerialTransport) (world : SerialWorld) :
    SerialTransport × List SystemCall × List UInt8 :=
  let (t, calls) := t.ensureConnected world
  match t.fileDescriptor with
  | none => (t, calls, [])
  | some descriptor =>
    let (t, more, bytes) := t.readFrom world descriptor
    (t, calls ++ more, bytes)

def writeTo (t : SerialTransport) (world : SerialWorld) (descriptor : Nat) (source : List UInt8) :
    SerialTransport × List SystemCall × Nat :=
  match world.write with
  | .again => (t, [.write descriptor []], 0)
  | .failed =>
    ((t.disconnect world).1, .write descriptor [] :: (t.disconnect world).2, 0)
  | .took count => (t, [.write descriptor (source.take count)], min count source.length)

def write (t : SerialTransport) (world : SerialWorld) (source : List UInt8) :
    SerialTransport × List SystemCall × Nat :=
  let (t, calls) := t.ensureConnected world
  match t.fileDescriptor with
  | none => (t, calls, 0)
  | some descriptor =>
    let (t, more, sent) := t.writeTo world descriptor source
    (t, calls ++ more, sent)

end SerialTransport

/-- A call of the transport and what the system answers meanwhile. -/
inductive SerialCall where
  | read (world : SerialWorld)
  | write (world : SerialWorld) (source : List UInt8)

def SerialCall.times : SerialCall → List TimePoint
  | .read world | .write world _ => [world.now, world.later]

def SerialCall.now : SerialCall → TimePoint
  | .read world | .write world _ => world.now

abbrev SerialEntry := Entry SerialTransport SerialCall (List SystemCall)

namespace SerialTransport

def step (t : SerialTransport) : SerialCall → SerialTransport × List SystemCall
  | .read world => ((t.read world).1, (t.read world).2.1)
  | .write world source => ((t.write world source).1, (t.write world source).2.1)

/-- The runs of a transport that was made, on a steady clock. -/
def Ran (interval : Duration) (descriptor : Nat) (h : List SerialEntry) (t : SerialTransport) :
    Prop :=
  ∃ init, make interval (.ok descriptor) = .ok init ∧
    Run step (fun h _ i => Timed SerialCall.times h i) init h t

/-- The system calls of a run, oldest first. -/
def systemCalls (h : List SerialEntry) : List SystemCall := (h.reverse.map (·.output)).flatten

/-- Which descriptor is open after a system call that finds the given one open, if the call keeps
to it: it opens one only when none is open, and uses and closes only the one that is. -/
def follow : Option Nat → SystemCall → Option (Option Nat)
  | none, .open _ descriptor => some descriptor
  | some current, .poll descriptor | some current, .read descriptor
  | some current, .write descriptor _ =>
    if descriptor = current then some (some current) else none
  | some current, .close descriptor _ => if descriptor = current then some none else none
  | _, _ => none

end SerialTransport

/-- When a connection was tried or given up. -/
def SystemCall.pauses : SystemCall → Option TimePoint
  | .open time _ | .close _ time => some time
  | _ => none

def SystemCall.attempts : SystemCall → Option TimePoint
  | .open time _ => some time
  | _ => none

/-- Each attempt to connect comes at least an interval after the one before, and after the last
connection was given up. -/
def Paced (interval : Duration) (calls : List SystemCall) : Prop :=
  calls.Pairwise fun earlier later =>
    ∀ u ∈ earlier.pauses, ∀ t ∈ later.attempts, u + interval ≤ t

namespace SerialTransport

/-- What the system calls so far have to do with the transport; nothing in them is later than
`bound`. -/
structure Sound (interval : Duration) (descriptor : Nat) (calls : List SystemCall)
    (t : SerialTransport) (bound : TimePoint) : Prop where
  kept : t.reconnectInterval = interval
  followed : calls.foldlM follow (some descriptor) = some t.fileDescriptor
  paced : Paced interval calls
  past : ∀ call ∈ calls, ∀ u ∈ call.pauses, u ≤ bound
  waits : t.fileDescriptor = none →
    ∀ call ∈ calls, ∀ u ∈ call.pauses, u + interval ≤ t.nextReconnectAttempt

theorem follow_append {calls more : List SystemCall} {start current : Option Nat}
    (h : calls.foldlM follow start = some current) :
    (calls ++ more).foldlM follow start = more.foldlM follow current := by
  rw [List.foldlM_append, h]
  rfl

theorem Sound.use {more : List SystemCall}
    (hs : Sound interval descriptor calls t bound) (hopen : t.fileDescriptor = some current)
    (hmore : more.foldlM follow (some current) = some (some current))
    (hquiet : ∀ call ∈ more, call.pauses = none ∧ call.attempts = none) :
    Sound interval descriptor (calls ++ more) t bound := by
  have hpauses : ∀ call ∈ more, ∀ u ∈ call.pauses, False := by
    intro call hcall u hu
    rw [(hquiet call hcall).1] at hu
    cases hu
  constructor
  · exact hs.kept
  · rw [follow_append hs.followed, hopen]
    exact hmore
  · rw [Paced, List.pairwise_append]
    refine ⟨hs.paced, List.pairwise_of_forall_mem_list ?_, ?_⟩
    · exact fun call hcall _ _ u hu => (hpauses call hcall u hu).elim
    · intro earlier _ later hlater u _ time htime
      rw [(hquiet later hlater).2] at htime
      cases htime
  · rw [List.forall_mem_append]
    exact ⟨hs.past, fun call hcall u hu => (hpauses call hcall u hu).elim⟩
  · intro hnone
    rw [hopen] at hnone
    cases hnone

theorem Sound.later (hs : Sound interval descriptor calls t bound) (h : bound ≤ bound') :
    Sound interval descriptor calls t bound' :=
  ⟨hs.kept, hs.followed, hs.paced, fun call hcall u hu => (hs.past call hcall u hu).trans h,
    hs.waits⟩

theorem Sound.disconnect (hs : Sound interval descriptor calls t bound)
    (hopen : t.fileDescriptor = some current) {world : SerialWorld} (h : bound ≤ world.later) :
    Sound interval descriptor (calls ++ (t.disconnect world).2) (t.disconnect world).1
      world.later := by
  have hcalls : (t.disconnect world).2 = [.close current world.later] := by
    rw [SerialTransport.disconnect, hopen]
  rw [hcalls]
  have hpast : ∀ call ∈ calls ++ [.close current world.later], ∀ u ∈ call.pauses,
      u ≤ world.later := by
    rw [List.forall_mem_append]
    refine ⟨(hs.later h).past, fun call hcall u hu => ?_⟩
    rw [List.mem_singleton.1 hcall] at hu
    exact le_of_eq (Option.some.inj hu).symm
  constructor
  · exact hs.kept
  · rw [follow_append hs.followed, hopen]
    have hclosed : follow (some current) (.close current world.later) = some none := if_pos rfl
    rw [List.foldlM_cons, hclosed]
    rfl
  · rw [Paced, List.pairwise_append]
    refine ⟨hs.paced, List.pairwise_singleton _ _, ?_⟩
    intro earlier _ later hlater u _ time htime
    rw [List.mem_singleton.1 hlater] at htime
    cases htime
  · exact hpast
  · intro _ call hcall u hu
    dsimp only [SerialTransport.disconnect]
    rw [hs.kept]
    exact Int.add_le_add_right (hpast call hcall u hu) interval

theorem Sound.ensureConnected (hs : Sound interval descriptor calls t bound) {world : SerialWorld}
    (h : bound ≤ world.now) :
    Sound interval descriptor (calls ++ (t.ensureConnected world).2) (t.ensureConnected world).1
      world.now := by
  rw [SerialTransport.ensureConnected]
  split
  · rw [List.append_nil]
    exact hs.later h
  · rename_i hnone
    split
    · rw [List.append_nil]
      exact hs.later h
    · rename_i hdue
      have hattempt (opened : Option Nat) : Paced interval (calls ++ [.open world.now opened]) := by
        rw [Paced, List.pairwise_append]
        refine ⟨hs.paced, List.pairwise_singleton _ _, ?_⟩
        intro earlier hearlier later hlater u hu time htime
        rw [List.mem_singleton.1 hlater] at htime
        rw [← Option.some.inj htime]
        exact (hs.waits hnone earlier hearlier u hu).trans (not_lt.1 hdue)
      have hpast (opened : Option Nat) : ∀ call ∈ calls ++ [.open world.now opened],
          ∀ u ∈ call.pauses, u ≤ world.now := by
        rw [List.forall_mem_append]
        refine ⟨(hs.later h).past, fun call hcall u hu => ?_⟩
        rw [List.mem_singleton.1 hcall] at hu
        exact le_of_eq (Option.some.inj hu).symm
      have hfollowed (opened : Option Nat) :
          (calls ++ [SystemCall.open world.now opened]).foldlM follow (some descriptor) =
            some opened := by
        rw [follow_append hs.followed, hnone]
        rfl
      have hopened (current : Nat) : Sound interval descriptor
          (calls ++ [.open world.now (some current)]) { t with fileDescriptor := some current }
          world.now :=
        ⟨hs.kept, hfollowed (some current), hattempt _, hpast _, fun h => by cases h⟩
      split
      · rename_i current _
        exact hopened current
      · rename_i current _
        -- The descriptor is closed as that of a connection that is given up at once.
        have hclosed := (hopened current).disconnect rfl
          (show world.now ≤ { world with later := world.now }.later from le_rfl)
        rw [List.append_assoc] at hclosed
        rw [hnone]
        exact hclosed
      · refine ⟨hs.kept, ?_, hattempt _, hpast _, fun _ call hcall u hu => ?_⟩
        · dsimp only
          rw [hnone]
          exact hfollowed none
        · dsimp only
          rw [hs.kept]
          exact Int.add_le_add_right (hpast _ call hcall u hu) interval

theorem Sound.readFrom (hs : Sound interval descriptor calls t bound)
    (hopen : t.fileDescriptor = some current) {world : SerialWorld} (h : bound ≤ world.later) :
    Sound interval descriptor (calls ++ (t.readFrom world current).2.1)
      (t.readFrom world current).1 world.later := by
  have hpoll : follow (some current) (.poll current) = some (some current) := if_pos rfl
  have hread : follow (some current) (.read current) = some (some current) := if_pos rfl
  have hpolled : Sound interval descriptor (calls ++ [.poll current]) t bound := by
    apply hs.use hopen
    · rw [List.foldlM_cons, hpoll]
      rfl
    · exact List.forall_mem_singleton.2 ⟨rfl, rfl⟩
  have hused : Sound interval descriptor (calls ++ [.poll current, .read current]) t bound := by
    apply hs.use hopen
    · simp only [List.foldlM_cons, hpoll, hread, Option.bind_eq_bind, Option.bind_some]
      rfl
    · exact List.forall_mem_cons.2 ⟨⟨rfl, rfl⟩, List.forall_mem_singleton.2 ⟨rfl, rfl⟩⟩
  rw [SerialTransport.readFrom]
  split
  · exact hpolled.later h
  · exact hpolled.later h
  · exact hpolled.later h
  · have hclosed := hpolled.disconnect hopen h
    rwa [List.append_assoc] at hclosed
  · have hclosed := hpolled.disconnect hopen h
    rwa [List.append_assoc] at hclosed
  · split
    · exact hused.later h
    · have hclosed := hused.disconnect hopen h
      rwa [List.append_assoc] at hclosed
    · exact hused.later h

theorem Sound.writeTo (hs : Sound interval descriptor calls t bound)
    (hopen : t.fileDescriptor = some current) {world : SerialWorld} (h : bound ≤ world.later)
    (source : List UInt8) :
    Sound interval descriptor (calls ++ (t.writeTo world current source).2.1)
      (t.writeTo world current source).1 world.later := by
  have hused (taken : List UInt8) :
      Sound interval descriptor (calls ++ [.write current taken]) t bound := by
    have hwrite : follow (some current) (.write current taken) = some (some current) := if_pos rfl
    apply hs.use hopen
    · rw [List.foldlM_cons, hwrite]
      rfl
    · exact List.forall_mem_singleton.2 ⟨rfl, rfl⟩
  rw [SerialTransport.writeTo]
  split
  · exact (hused []).later h
  · have hclosed := (hused []).disconnect hopen h
    rwa [List.append_assoc] at hclosed
  · exact (hused _).later h

theorem Sound.step (hs : Sound interval descriptor calls t bound) (i : SerialCall)
    (htimes : i.times.Pairwise (· ≤ ·)) (h : ∀ time ∈ i.times, bound ≤ time) :
    ∃ bound' ∈ i.times, Sound interval descriptor (calls ++ (t.step i).2) (t.step i).1 bound' := by
  have hcall (world : SerialWorld) (hnow : bound ≤ world.now) (hlater : world.now ≤ world.later)
      (act : SerialTransport → Nat → SerialTransport × List SystemCall)
      (hact : ∀ calls t current, Sound interval descriptor calls t world.now →
        t.fileDescriptor = some current →
        Sound interval descriptor (calls ++ (act t current).2) (act t current).1 world.later) :
      Sound interval descriptor
        (calls ++ (match (t.ensureConnected world).1.fileDescriptor with
          | none => (t.ensureConnected world).2
          | some current =>
            (t.ensureConnected world).2 ++ (act (t.ensureConnected world).1 current).2))
        (match (t.ensureConnected world).1.fileDescriptor with
          | none => (t.ensureConnected world).1
          | some current => (act (t.ensureConnected world).1 current).1) world.later := by
    have hconnected := hs.ensureConnected hnow
    split
    · exact hconnected.later hlater
    · rename_i current hopen
      have hacted := hact _ _ current hconnected hopen
      rwa [List.append_assoc] at hacted
  cases i with
  | read world =>
    have hle : world.now ≤ world.later := List.rel_of_pairwise_cons htimes List.mem_cons_self
    have hread := hcall world (h _ List.mem_cons_self) hle
      (fun t current => ((t.readFrom world current).1, (t.readFrom world current).2.1))
      fun calls t current hs hopen => hs.readFrom hopen hle
    refine ⟨world.later, List.mem_cons_of_mem _ List.mem_cons_self, ?_⟩
    dsimp only [SerialTransport.step, SerialTransport.read]
    split
    · rename_i hnone
      rw [hnone] at hread
      exact hread
    · rename_i current hopen
      rw [hopen] at hread
      exact hread
  | write world source =>
    have hle : world.now ≤ world.later := List.rel_of_pairwise_cons htimes List.mem_cons_self
    have hwrite := hcall world (h _ List.mem_cons_self) hle
      (fun t current => ((t.writeTo world current source).1, (t.writeTo world current source).2.1))
      fun calls t current hs hopen => hs.writeTo hopen hle source
    refine ⟨world.later, List.mem_cons_of_mem _ List.mem_cons_self, ?_⟩
    dsimp only [SerialTransport.step, SerialTransport.write]
    split
    · rename_i hnone
      rw [hnone] at hwrite
      exact hwrite
    · rename_i current hopen
      rw [hopen] at hwrite
      exact hwrite

theorem systemCalls_cons (e : SerialEntry) (h : List SerialEntry) :
    systemCalls (e :: h) = systemCalls h ++ e.output := by
  rw [systemCalls, List.reverse_cons, List.map_append, List.flatten_append, List.map_singleton,
    List.flatten_singleton]
  rfl

theorem Ran.sound (hr : Ran interval descriptor h t)
    (hpast : ∀ e ∈ h, ∀ u ∈ e.input.times, u ≤ bound) :
    Sound interval descriptor (systemCalls h) t bound := by
  obtain ⟨init, hmake, hr⟩ := hr
  refine hr.history_invariant (fun h t => ∀ bound, (∀ e ∈ h, ∀ u ∈ e.input.times, u ≤ bound) →
    Sound interval descriptor (systemCalls h) t bound) ?_ ?_ bound hpast
  · rw [make] at hmake
    split at hmake
    · cases hmake
    · cases hmake
      exact fun bound _ => ⟨rfl, rfl, .nil, (fun _ h => by cases h), fun hn => by cases hn⟩
  · intro h t i _ hs hl bound hbound
    obtain ⟨hordered, hpast⟩ := hl
    have hnow : i.now ∈ i.times := by
      cases i <;> exact List.mem_cons_self
    have hfirst : ∀ time ∈ i.times, i.now ≤ time := by
      cases i <;> exact List.forall_mem_cons.2 ⟨le_rfl, fun _ => List.rel_of_pairwise_cons hordered⟩
    obtain ⟨bound', hmem, hnext⟩ :=
      (hs i.now fun e he u hu => hpast e he u hu i.now hnow).step i hordered hfirst
    rw [systemCalls_cons]
    exact hnext.later (hbound _ List.mem_cons_self bound' hmem)

theorem exists_bound (times : List TimePoint) : ∃ bound, ∀ u ∈ times, u ≤ bound := by
  induction times with
  | nil => exact ⟨0, fun _ h => by cases h⟩
  | cons time times ih =>
    obtain ⟨bound, hbound⟩ := ih
    refine ⟨max time bound, List.forall_mem_cons.2 ⟨le_max_left time bound, fun u hu => ?_⟩⟩
    exact (hbound u hu).trans (le_max_right time bound)

/-- In every run the transport opens the device only while it has no descriptor, uses and closes
only the one that is open, and leaves the interval after each attempt to connect and after each
connection it gave up. -/
theorem connections_disciplined (hr : Ran interval descriptor h t) :
    (systemCalls h).foldlM follow (some descriptor) = some t.fileDescriptor ∧
      Paced interval (systemCalls h) := by
  obtain ⟨bound, hbound⟩ : ∃ bound, ∀ e ∈ h, ∀ u ∈ e.input.times, u ≤ bound := by
    obtain ⟨bound, hbound⟩ := exists_bound (h.flatMap (·.input.times))
    exact ⟨bound, fun e he u hu => hbound u (List.mem_flatMap.2 ⟨e, he, hu⟩)⟩
  have hs := hr.sound hbound
  exact ⟨hs.followed, hs.paced⟩

/-- A hangup, after which the device is there again when the interval is over. -/
def hangup : SerialWorld where
  now := 5
  opened := .opened 4
  poll := .ready true false
  read := .again
  write := .took 2
  later := 6

def reopenedCalls : List SerialCall :=
  [.read hangup, .write { hangup with now := 9, later := 9 } [1],
    .write { hangup with now := 16, later := 17, opened := .unusable 5 } [1],
    .write { hangup with now := 26, later := 27 } [1, 2, 3]]

theorem connections_disciplined_reopened :
    let run := play step [] { reconnectInterval := 10, fileDescriptor := some 3 } reopenedCalls
    (systemCalls run.1).foldlM follow (some 3) = some run.2.fileDescriptor ∧
      Paced 10 (systemCalls run.1) :=
  connections_disciplined
    ⟨_, rfl, Run.start.play_timed (fun e he => absurd he List.not_mem_nil) (by decide)⟩

end SerialTransport

end OnboardAutonomy
