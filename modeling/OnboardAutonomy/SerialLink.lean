import OnboardAutonomy.SerialTransport

namespace OnboardAutonomy
set_option autoImplicit true

/-- A transport with what the system is going to answer to its calls, and its system calls so
far. -/
structure SerialLink where
  transport : SerialTransport
  world : Nat → SerialWorld
  answered : Nat := 0
  calls : List SystemCall := []

namespace SerialLink

def read (l : SerialLink) : SerialLink :=
  let (transport, calls, _) := l.transport.read (l.world l.answered)
  { l with transport := transport, answered := l.answered + 1, calls := l.calls ++ calls }

def write (l : SerialLink) (source : List UInt8) : SerialLink × Nat :=
  let (transport, calls, sent) := l.transport.write (l.world l.answered) source
  ({ l with transport := transport, answered := l.answered + 1, calls := l.calls ++ calls }, sent)

theorem writeTo_le (t : SerialTransport) (world : SerialWorld) (descriptor : Nat)
    (source : List UInt8) : (t.writeTo world descriptor source).2.2 ≤ source.length := by
  rw [SerialTransport.writeTo]
  split
  · exact Nat.zero_le _
  · exact Nat.zero_le _
  · exact Nat.min_le_right _ _

theorem write_le (l : SerialLink) (source : List UInt8) : (l.write source).2 ≤ source.length := by
  dsimp only [write, SerialTransport.write]
  split
  · exact Nat.zero_le _
  · exact writeTo_le _ _ _ source

end SerialLink

/-- The serial transport as the application writes to it. -/
def serialWrites : Transport SerialLink where
  write := SerialLink.write
  bounded := SerialLink.write_le

def SystemCall.opens : SystemCall → Bool
  | .open _ (some _) => true
  | _ => false

/-- How many connections some system calls open. -/
def connections (calls : List SystemCall) : Nat := calls.countP SystemCall.opens

/-- The bytes that some system calls write, each with the number of the connection it goes to. -/
def carried (connection : Nat) : List SystemCall → List (Nat × UInt8)
  | [] => []
  | .open _ (some _) :: calls => carried (connection + 1) calls
  | .write _ taken :: calls => taken.map (connection, ·) ++ carried connection calls
  | _ :: calls => carried connection calls

theorem carried_append (connection : Nat) (calls more : List SystemCall) :
    carried connection (calls ++ more) =
      carried connection calls ++ carried (connection + connections calls) more := by
  induction calls generalizing connection with
  | nil => rfl
  | cons call calls ih =>
    match call with
    | .open _ (some _) =>
      rw [List.cons_append, carried, carried, ih, connections, connections,
        List.countP_cons_of_pos rfl, Nat.add_right_comm, Nat.add_assoc]
    | .write _ taken =>
      rw [List.cons_append, carried, carried, ih, connections, connections,
        List.countP_cons_of_neg Bool.false_ne_true, List.append_assoc]
    | .open _ none | .poll _ | .read _ | .close _ _ =>
      rw [connections, List.countP_cons_of_neg Bool.false_ne_true]
      exact ih connection

theorem connections_append (calls more : List SystemCall) :
    connections (calls ++ more) = connections calls + connections more := List.countP_append

/-- Some system calls that come next open some connections, and write the bytes to the last one. -/
structure Carries (l l' : SerialLink) (bytes : List UInt8) (opened : Nat) : Prop where
  calls : ∃ more, l'.calls = l.calls ++ more ∧ connections more = opened ∧
    ∀ connection, carried connection more = bytes.map (connection + opened, ·)
  kept : l.transport.fileDescriptor.isSome → opened = 0

theorem Carries.trans (h : Carries l l₁ bytes opened) (h' : Carries l₁ l₂ bytes' 0) :
    Carries l l₂ (bytes ++ bytes') opened := by
  obtain ⟨more, hmore, hopened, hcarried⟩ := h.calls
  obtain ⟨more', hmore', hopened', hcarried'⟩ := h'.calls
  refine ⟨⟨more ++ more', ?_, ?_, fun connection => ?_⟩, h.kept⟩
  · rw [hmore', hmore, List.append_assoc]
  · rw [connections_append, hopened, hopened']
    rfl
  · rw [carried_append, hcarried, hopened, hcarried', List.map_append, Nat.add_zero]

namespace SerialLink

theorem ensureConnected_opens (t : SerialTransport) (world : SerialWorld) :
    (∀ connection, carried connection (t.ensureConnected world).2 = []) ∧
      (t.fileDescriptor.isSome → connections (t.ensureConnected world).2 = 0) := by
  rw [SerialTransport.ensureConnected]
  split
  · exact ⟨fun _ => rfl, fun _ => rfl⟩
  · rename_i hnone
    rw [hnone]
    split
    · exact ⟨fun _ => rfl, fun h => by cases h⟩
    · split
      · exact ⟨fun _ => rfl, fun h => by cases h⟩
      · exact ⟨fun _ => rfl, fun h => by cases h⟩
      · exact ⟨fun _ => rfl, fun h => by cases h⟩

theorem disconnect_silent (t : SerialTransport) (world : SerialWorld) :
    (∀ connection, carried connection (t.disconnect world).2 = []) ∧
      connections (t.disconnect world).2 = 0 := by
  rw [SerialTransport.disconnect]
  dsimp only
  split
  · exact ⟨fun _ => rfl, rfl⟩
  · exact ⟨fun _ => rfl, rfl⟩

theorem readFrom_silent (t : SerialTransport) (world : SerialWorld) (descriptor : Nat) :
    (∀ connection, carried connection (t.readFrom world descriptor).2.1 = []) ∧
      connections (t.readFrom world descriptor).2.1 = 0 := by
  obtain ⟨hcarried, hconnections⟩ := disconnect_silent t world
  rw [SerialTransport.readFrom]
  split
  · exact ⟨fun _ => rfl, rfl⟩
  · exact ⟨fun _ => rfl, rfl⟩
  · exact ⟨fun _ => rfl, rfl⟩
  · exact ⟨hcarried, hconnections⟩
  · exact ⟨hcarried, hconnections⟩
  · split
    · exact ⟨fun _ => rfl, rfl⟩
    · exact ⟨hcarried, hconnections⟩
    · exact ⟨fun _ => rfl, rfl⟩

/-- What was taken goes to the descriptor, which stays when anything was. -/
theorem writeTo_carries (t : SerialTransport) (world : SerialWorld) (descriptor : Nat)
    (source : List UInt8) :
    (∀ connection, carried connection (t.writeTo world descriptor source).2.1 =
      (source.take (t.writeTo world descriptor source).2.2).map (connection, ·)) ∧
      connections (t.writeTo world descriptor source).2.1 = 0 ∧
      (0 < (t.writeTo world descriptor source).2.2 →
        (t.writeTo world descriptor source).1.fileDescriptor = t.fileDescriptor) := by
  obtain ⟨hcarried, hconnections⟩ := disconnect_silent t world
  rw [SerialTransport.writeTo]
  split
  · exact ⟨fun _ => rfl, rfl, fun _ => rfl⟩
  · exact ⟨hcarried, hconnections, fun h => absurd h (Nat.lt_irrefl 0)⟩
  · rename_i count _
    refine ⟨fun connection => ?_, rfl, fun _ => rfl⟩
    have htake : source.take (min count source.length) = source.take count := by
      rw [← List.take_take, List.take_length]
    dsimp only
    rw [carried, carried, List.append_nil, htake]

theorem read_carries (l : SerialLink) : ∃ opened, Carries l l.read [] opened := by
  obtain ⟨hcarried, hkept⟩ := ensureConnected_opens l.transport (l.world l.answered)
  dsimp only [read, SerialTransport.read]
  split
  · exact ⟨_, ⟨⟨_, rfl, rfl, hcarried⟩, hkept⟩⟩
  · rename_i descriptor _
    obtain ⟨hsilent, hnone⟩ := readFrom_silent
      (l.transport.ensureConnected (l.world l.answered)).1 (l.world l.answered) descriptor
    refine ⟨_, ⟨⟨_, rfl, rfl, fun connection => ?_⟩, fun hopen => ?_⟩⟩
    · rw [carried_append, hcarried, hsilent]
      rfl
    · rw [connections_append, hkept hopen, hnone]

theorem write_carries (l : SerialLink) (source : List UInt8) :
    ∃ opened, Carries l (l.write source).1 (source.take (l.write source).2) opened ∧
      (0 < (l.write source).2 → (l.write source).1.transport.fileDescriptor.isSome) := by
  obtain ⟨hcarried, hkept⟩ := ensureConnected_opens l.transport (l.world l.answered)
  dsimp only [write, SerialTransport.write]
  split
  · exact ⟨_, ⟨⟨_, rfl, rfl, hcarried⟩, hkept⟩, fun h => absurd h (Nat.lt_irrefl 0)⟩
  · rename_i descriptor hopen
    obtain ⟨hwritten, hnone, hsome⟩ := writeTo_carries
      (l.transport.ensureConnected (l.world l.answered)).1 (l.world l.answered) descriptor source
    refine ⟨_, ⟨⟨_, rfl, rfl, fun connection => ?_⟩, fun hopen => ?_⟩, fun hpos => ?_⟩
    · rw [carried_append, hcarried, hwritten, connections_append, hnone]
      rfl
    · rw [connections_append, hkept hopen, hnone]
    · rw [hsome hpos, hopen]
      rfl

/-- Once the transport has taken a part of a frame, the rest goes to the same connection. -/
theorem writeFrom_carries (frame : List UInt8) {rounds : Nat}
    (h : Wire.writeFrom serialWrites frame w offset rounds = some (w', sent)) :
    ∃ bytes opened, w'.accepted = w.accepted ++ bytes ∧
      Carries w.transport w'.transport bytes opened := by
  induction rounds generalizing w offset with
  | zero => cases h
  | succ rounds ih =>
    rw [Wire.writeFrom] at h
    split at h
    · obtain ⟨opened, hcarries, hsome⟩ := w.transport.write_carries (frame.drop offset)
      dsimp only at h
      split at h
      · cases h
        exact ⟨_, opened, rfl, hcarries⟩
      · rename_i hpos
        obtain ⟨bytes, opened', haccepted, hrest⟩ := ih h
        have hopen := hsome (Nat.pos_of_ne_zero hpos)
        rw [hrest.kept hopen] at hrest
        refine ⟨_, opened, ?_, hcarries.trans hrest⟩
        rw [haccepted, ← List.append_assoc]
        rfl
    · cases h
      exact ⟨[], 0, (List.append_nil _).symm, ⟨[], (List.append_nil _).symm, rfl, fun _ => rfl⟩,
        fun _ => rfl⟩

end SerialLink

/-- What the application does with the link. -/
inductive LinkAction where
  | read
  | frame (bytes : List UInt8)

def LinkAction.frame? : LinkAction → Option (List UInt8)
  | .read => none
  | .frame bytes => some bytes

namespace SerialLink

/-- Reads and frames in any order, with whether each frame was sent. -/
def perform (w : Wire SerialLink) : List LinkAction → Option (Wire SerialLink × List Bool)
  | [] => some (w, [])
  | .read :: actions => perform { w with transport := w.transport.read } actions
  | .frame frame :: actions => do
    let (w, sent) ← w.writeFrame serialWrites frame
    let (w, outcomes) ← perform w actions
    return (w, sent :: outcomes)

/-- The bytes of some pieces, each with the number of the connection its piece was given to. -/
def onConnections (pieces : List (Nat × Piece)) : List (Nat × UInt8) :=
  pieces.flatMap fun (connection, piece) => piece.taken.map (connection, ·)

theorem perform_carries (w : Wire SerialLink) (actions : List LinkAction) (connection : Nat) :
    ∃ (w' : Wire SerialLink) (pieces : List (Nat × Piece)) (more : List SystemCall),
      perform w actions = some (w', pieces.map (·.2.sent)) ∧
      pieces.map (·.2.frame) = actions.filterMap LinkAction.frame? ∧
      w'.transport.calls = w.transport.calls ++ more ∧
      carried connection more = onConnections pieces ∧
      (pieces.map (·.1)).Pairwise (· ≤ ·) ∧ ∀ piece ∈ pieces, connection ≤ piece.1 := by
  induction actions generalizing w connection with
  | nil => exact ⟨w, [], [], rfl, rfl, (List.append_nil _).symm, rfl, .nil, fun _ h => by cases h⟩
  | cons action actions ih =>
    cases action with
    | read =>
      obtain ⟨opened, hread⟩ := w.transport.read_carries
      obtain ⟨first, hfirst, hopened, hcarried⟩ := hread.calls
      obtain ⟨w', pieces, more, hrun, hframes, hmore, hpieces, hsorted, hlow⟩ :=
        ih { w with transport := w.transport.read } (connection + opened)
      rw [← List.filterMap_cons_none (a := .read) rfl] at hframes
      refine ⟨w', pieces, first ++ more, hrun, hframes, ?_, ?_, hsorted, fun piece hpiece => ?_⟩
      · rw [hmore, hfirst, List.append_assoc]
      · rw [carried_append, hcarried, hopened, hpieces]
        rfl
      · exact (Nat.le_add_right _ _).trans (hlow piece hpiece)
    | frame frame =>
      obtain ⟨w₁, p, hp, hframe, htaken⟩ := w.writeFrame_takes serialWrites frame
      obtain ⟨bytes, opened, hbytes, hcarries⟩ := writeFrom_carries frame hp
      obtain ⟨first, hfirst, hopened, hcarried⟩ := hcarries.calls
      obtain ⟨w', pieces, more, hrun, hframes, hmore, hpieces, hsorted, hlow⟩ :=
        ih w₁ (connection + opened)
      rw [htaken, List.append_cancel_left_eq] at hbytes
      refine ⟨w', (connection + opened, p) :: pieces, first ++ more, ?_, ?_, ?_, ?_, ?_, ?_⟩
      · rw [perform, hp]
        simp only [Option.bind_eq_bind, Option.bind_some, hrun]
        rfl
      · have hsome : LinkAction.frame? (.frame frame) = some frame := rfl
        rw [List.map_cons, hframe, hframes, List.filterMap_cons_some hsome]
      · rw [hmore, hfirst, List.append_assoc]
      · rw [carried_append, hcarried, hopened, hpieces, ← hbytes]
        rfl
      · rw [List.map_cons, List.pairwise_cons]
        refine ⟨fun number hnumber => ?_, hsorted⟩
        obtain ⟨piece, hpiece, rfl⟩ := List.mem_map.1 hnumber
        exact hlow piece hpiece
      · rw [List.forall_mem_cons]
        exact ⟨Nat.le_add_right _ _,
          fun piece hpiece => (Nat.le_add_right _ _).trans (hlow piece hpiece)⟩

/-- However the device comes and goes, every frame is given to a single connection, which takes its
beginning, all of it exactly when it is reported as sent; the frames keep their order, and nothing
else is written to any connection. -/
theorem frames_on_connections (w : Wire SerialLink) (actions : List LinkAction) :
    ∃ (w' : Wire SerialLink) (pieces : List (Nat × Piece)) (more : List SystemCall),
      perform w actions = some (w', pieces.map (·.2.sent)) ∧
      pieces.map (·.2.frame) = actions.filterMap LinkAction.frame? ∧
      w'.transport.calls = w.transport.calls ++ more ∧
      carried 0 more = onConnections pieces ∧ (pieces.map (·.1)).Pairwise (· ≤ ·) := by
  obtain ⟨w', pieces, more, hrun, hframes, hmore, hpieces, hsorted, -⟩ :=
    perform_carries w actions 0
  exact ⟨w', pieces, more, hrun, hframes, hmore, hpieces, hsorted⟩

/-- The device hangs up within the first frame, and is there again for the second. -/
example :
    let answers : List SerialWorld := [{ SerialTransport.hangup with write := .took 2 },
      { SerialTransport.hangup with write := .failed },
      { SerialTransport.hangup with now := 16, write := .took 9 }]
    let l : SerialLink := {
      transport := { reconnectInterval := 10, fileDescriptor := some 3 }
      world := fun n => answers.getD n SerialTransport.hangup }
    (perform ⟨l, []⟩ [.frame [7, 8, 9], .frame [5, 6]]).map (fun run =>
      (carried 0 run.1.transport.calls, run.2)) =
      some ([(0, 7), (0, 8), (1, 5), (1, 6)], [false, true]) := by
  decide +kernel

end SerialLink

end OnboardAutonomy
