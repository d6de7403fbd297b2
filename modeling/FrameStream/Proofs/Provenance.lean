import FrameStream.Proofs.Operations

/-!
Where the bytes of frames come from. Whatever is done with a stream, each frame that it returns is a
stretch of what it took from the transport, without a gap: a marker is only taken off before the
first byte of a frame. The stretches follow one another in the order in which the frames are
returned, and what is left over lies behind all of them.
-/

namespace FrameStream

/-- Byte strings that lie in a longer one, in this order and without overlapping. -/
inductive InOrder : List Bytes → Bytes → Prop where
  | nil (bytes : Bytes) : InOrder [] bytes
  | cons (skipped : Bytes) : InOrder parts rest →
      InOrder (part :: parts) (skipped ++ (part ++ rest))

theorem InOrder.prepend (inOrder : InOrder parts bytes) (before : Bytes) :
    InOrder parts (before ++ bytes) := by
  cases inOrder with
  | nil => exact .nil _
  | cons skipped inOrder =>
    rw [← List.append_assoc]
    exact .cons _ inOrder

theorem InOrder.extend (inOrder : InOrder parts bytes) (after : Bytes) :
    InOrder parts (bytes ++ after) := by
  induction inOrder with
  | nil => exact .nil _
  | cons skipped _ ih =>
    rw [List.append_assoc, List.append_assoc]
    exact .cons skipped ih

theorem InOrder.part_of_mem (inOrder : InOrder parts bytes) (member : part ∈ parts) :
    part <:+: bytes := by
  induction inOrder with
  | nil => cases member
  | @cons parts rest first skipped _ ih =>
    rcases List.mem_cons.mp member with rfl | member
    · exact ⟨skipped, rest, List.append_assoc _ _ _⟩
    · obtain ⟨before, after, rfl⟩ := ih member
      refine ⟨skipped ++ (first ++ before), after, ?_⟩
      simp only [List.append_assoc]

/-- Bytes that start somewhere in a datagram and go on, without a gap, through those received
immediately after it; the last of these may be cut. -/
def Spans (received : List Bytes) (bytes : Bytes) : Prop :=
  ∃ earlier later before, received = earlier ++ later ∧ before ≤ (later.headD []).length ∧
    bytes <+: later.flatten.drop before

theorem spans_of_infix (part : bytes <:+: received.flatten) : Spans received bytes := by
  induction received with
  | nil =>
    rw [List.infix_nil.mp part]
    exact ⟨[], [], 0, rfl, Nat.zero_le _, List.nil_prefix⟩
  | cons datagram received ih =>
    obtain ⟨before, after, split⟩ := part
    by_cases within : before.length ≤ datagram.length
    · refine ⟨[], datagram :: received, before.length, rfl, within, after, ?_⟩
      rw [← split, List.append_assoc, List.drop_left]
    · -- The stretch starts behind this datagram, so it is one of those after it.
      have start : before = datagram ++ before.drop datagram.length := by
        have split := congrArg (List.take datagram.length) split
        rw [List.append_assoc, List.take_append_of_le_length (by omega), List.flatten_cons,
          List.take_left] at split
        conv => lhs; rw [← List.take_append_drop datagram.length before, split]
      rw [start, List.append_assoc, List.append_assoc, List.flatten_cons,
        List.append_cancel_left_eq] at split
      obtain ⟨earlier, later, inner, rfl, first, opens⟩ :=
        ih ⟨before.drop datagram.length, after, by rw [List.append_assoc, split]⟩
      exact ⟨datagram :: earlier, later, inner, rfl, first, opens⟩

/-- The frame that a reply carries. -/
def frame? : Except StreamError Reply → Option Bytes
  | .ok (.frame bytes) => some bytes
  | _ => none

/-- The bytes received that a stream has not yet made up its mind about. -/
def Task.held (stream : OutputStream) : Task → Bytes
  | .reading point => point.held
  | .aligning => []
  | .idle | .activating .. => stream.leftover

namespace Consequence

/-- The bytes that the stream took. -/
def input (consequence : Consequence) : Bytes := consequence.taken?.getD []

def output (consequence : Consequence) : Bytes :=
  ((consequence.reply?.bind frame?).getD [])

end Consequence

namespace OutputStream

variable {stream : OutputStream} {task : Task}

/-- Of some bytes a stream lost the first, returned the next and holds the rest. -/
def Consumes (bytes : Bytes) (next : Consequence) : Prop :=
  next.output ++ next.task.held next.stream <:+ bytes

theorem Assembles.consumes {taken? : Option Bytes} (assembles : Assembles stream bytes state) :
    Consumes bytes (.ofRead taken? state) := by
  cases assembles with
  | short => exact List.suffix_rfl
  | whole =>
    change bytes.take _ ++ bytes.drop _ <:+ bytes
    exact ⟨[], List.take_append_drop ..⟩

theorem Assembles.consumes_drop {taken? : Option Bytes} {header : Nat}
    (assembles : Assembles stream (payload.drop header) state) :
    Consumes payload (.ofRead taken? state) :=
  assembles.consumes.trans (List.drop_suffix _ _)

theorem held_signal (stream : OutputStream) (request : Lifecycle.Signal) (task : Task) :
    task.held (stream.signal request).value = task.held stream := by
  cases task <;> rfl

theorem read_consumes (stream : OutputStream) (size : Nat) :
    Consumes stream.leftover (.ofRead none (stream.beginRead size).value) := by
  rcases stream.beginRead_cases size with ⟨error, refused⟩ | ⟨_, _, hunts | ⟨_, assembles⟩⟩
  · rw [refused]
    exact List.suffix_rfl
  · rw [hunts.2.2]
    exact List.nil_suffix
  · exact assembles.consumes

theorem input_ofRead (payload : Bytes) (state : ReadState) :
    (Consequence.ofRead (some payload) state).input = payload := by
  obtain ⟨_, waiting | finished⟩ := state <;> rfl

/-- A read that goes on loses what it held, or adds to it. -/
theorem receive_consumes (steady : Steady stream (.reading point)) (receipt : Receipt) :
    let next := Consequence.ofRead (stream.answer receipt).toOption
      (stream.received point (stream.answer receipt)).value
    Consumes (point.held ++ next.input) next := by
  cases stream.answer receipt with
  | error error =>
    cases steady.suits with
    | hunting nothing =>
      change stream.leftover <:+ _
      rw [nothing]
      exact List.nil_suffix
    | @assembling _ filled nothing =>
      change (stream.loseFrame error filled).value.leftover <:+ _
      rw [loseFrame_leftover, nothing]
      exact List.nil_suffix
  | ok payload =>
    dsimp only [Except.toOption]
    rw [input_ofRead]
    cases steady.suits with
    | hunting nothing =>
      rcases received_hunting nothing payload with ⟨_, passed⟩ | ⟨_, _, assembles⟩
      · rw [passed]
        exact List.nil_suffix
      · exact assembles.consumes_drop
    | assembling nothing _ room begun =>
      rcases received_assembles nothing room begun payload with
        assembles | ⟨_, _, rfl, _, assembles⟩
      · exact assembles.consumes
      · exact assembles.consumes_drop

theorem align_consumes (steady : Steady stream .aligning) (payload : Bytes) :
    let next := Consequence.ofAlignment payload (stream.align payload).value
    Consumes next.input next := by
  have taken : (Consequence.ofAlignment payload (stream.align payload).value).input = payload := by
    obtain ⟨_, missing | found⟩ := (stream.align payload).value <;> rfl
  dsimp only
  rw [taken]
  cases steady.suits with
  | aligning nothing =>
    rcases stream.align_cases payload with ⟨_, passed⟩ | ⟨_, _, found⟩
    · rw [passed]
      exact List.nil_suffix
    · rw [found, nothing]
      exact List.drop_suffix _ _

theorem completeActivation_leftover {batchSize : UInt16}
    (activation : stream.completeActivation batchSize resume = .ok activated) :
    activated.value.leftover <:+ stream.leftover := by
  obtain ⟨_, value⟩ := completeActivation_value activation
  rw [value]
  cases resume with
  | true => exact List.suffix_rfl
  | false => exact List.nil_suffix

/-- Of what a stream held and what it takes, each step loses the first bytes, returns the next and
holds the rest. -/
theorem Responds.consumes (responds : Responds stream task incident next)
    (steady : Steady stream task) : Consumes (task.held stream ++ next.input) next := by
  cases responds with
  | receive => exact receive_consumes steady _
  | found answered => exact align_consumes steady _
  | signal task =>
    change task.held (stream.signal _).value <:+ task.held stream ++ []
    exact ⟨[], (stream.held_signal _ task).trans (List.append_nil _).symm⟩
  | @read size =>
    have silent : (Consequence.ofRead none (stream.beginRead size).value).input = [] := by
      obtain ⟨_, waiting | finished⟩ := (stream.beginRead size).value <;> rfl
    rw [silent, List.append_nil]
    exact stream.read_consumes size
  | align => exact List.nil_suffix
  | activated activation =>
    change _ <:+ stream.leftover ++ []
    rw [List.append_nil]
    exact completeActivation_leftover activation
  | missed =>
    cases steady.suits with
    | aligning nothing =>
      change stream.leftover <:+ _
      rw [nothing]
      exact List.nil_suffix
  | unaligned | unready | setTimeout | activate | expire | overtaken =>
    change stream.leftover <:+ stream.leftover ++ []
    exact ⟨[], (List.append_nil _).symm⟩

/-- The frames that a run returns lie in order in what was held before and what was taken since;
behind them lies what is held at the end. -/
theorem Runs.inOrder (run : Runs stream task incidents taken replies last final)
    (steady : Steady stream task) :
    ∃ before, task.held stream ++ taken.flatten = before ++ final.held last ∧
      InOrder (replies.filterMap frame?) before := by
  induction run with
  | @done stream task => exact ⟨[], List.append_nil _, .nil []⟩
  | @step stream task _ next _ taken replies last final responds _ ih =>
    obtain ⟨before, split, inOrder⟩ := ih (steady.respond responds)
    obtain ⟨skipped, consumed⟩ := responds.consumes steady
    refine ⟨skipped ++ (next.output ++ before), ?_, ?_⟩
    · have input : (next.taken?.toList ++ taken).flatten = next.input ++ taken.flatten := by
        rw [List.flatten_append, Consequence.input]
        cases next.taken? <;> simp
      rw [input, ← List.append_assoc, ← consumed]
      simp only [List.append_assoc, split]
    · rw [List.filterMap_append, Consequence.output]
      cases next.reply? with
      | none => exact inOrder.prepend skipped
      | some reply =>
        rw [Option.toList_some, List.filterMap_cons, List.filterMap_nil, Option.bind_some]
        cases frame? reply with
        | none => exact inOrder.prepend skipped
        | some bytes => exact .cons skipped inOrder

/-- Whatever is done with a stream after it was made, and whatever is received meanwhile: all the
frames returned lie in order in the bytes received, followed by what is left over, and each of them
spans a part of one datagram and those received immediately after it. -/
theorem frames_in_order {layer : Layer} {configuration : OutputConfiguration}
    {timeout : Duration} {last : OutputStream} {final : Task}
    (created : create layer configuration pathLimit = .ok made)
    (run : Runs { made.value with timeout } .idle incidents taken replies last final) :
    (∃ before, taken.flatten = before ++ last.leftover ∧
      InOrder (replies.filterMap frame?) before) ∧
    ∀ bytes, .ok (.frame bytes) ∈ replies → Spans taken bytes := by
  have steady := create_steady created timeout
  obtain ⟨before, split, inOrder⟩ := run.inOrder steady
  have nothing : Task.held { made.value with timeout } .idle = [] := by
    rw [create_value created]
    rfl
  rw [nothing, List.nil_append] at split
  have behind : ∃ before, taken.flatten = before ++ last.leftover ∧
      InOrder (replies.filterMap frame?) before := by
    cases (run.steady steady).suits with
    | idle | activating => exact ⟨before, split, inOrder⟩
    | hunting empty | assembling empty | aligning empty =>
      refine ⟨taken.flatten, by rw [empty, List.append_nil], ?_⟩
      rw [split]
      exact inOrder.extend _
  refine ⟨behind, ?_⟩
  obtain ⟨all, whole, ordered⟩ := behind
  intro bytes member
  have returned : bytes ∈ replies.filterMap frame? := List.mem_filterMap.mpr ⟨_, member, rfl⟩
  apply spans_of_infix
  rw [whole]
  exact (ordered.extend _).part_of_mem returned

private def sampled : OutputConfiguration :=
  (OutputConfiguration.ofParameters { maximumPayload := 16, syncEnabled := true }
    ⟨"edge", .deviceToHost, 4, 1⟩).toOption.get rfl

private def sampleStream (isActivated : Bool) (leftover : Bytes) (lastIndex : UInt32) :
    OutputStream :=
  { layer := ⟨"edge", .deviceToHost, 4, 1⟩, configuration := sampled,
    lifecycle := { name := "edge", isActivated }, timeout := defaultTimeout, batchSize := 1,
    leftover, lastIndex }

/-- Two frames, with an abort between them that loses what was left over from the first. -/
theorem frames_in_order_of_two :
    ∃ (stream last : OutputStream) (incidents : List Incident) (taken : List Bytes)
      (replies : List (Except StreamError Reply)) (before : Bytes),
      Runs stream .idle incidents taken replies last .idle ∧
        taken.flatten = before ++ [11] ∧
        replies.filterMap frame? = [[1, 2, 3, 4], [7, 8, 9, 10]] ∧
        InOrder [[1, 2, 3, 4], [7, 8, 9, 10]] before ∧ Spans taken [7, 8, 9, 10] := by
  have created : create ⟨"edge", .deviceToHost, 4, 1⟩ sampled 16 =
      .ok ⟨sampleStream false [] SyncMarker.unobserved,
        [.outputConfigured "edge" 4 16 true 8]⟩ := rfl
  have opened : Runs (sampleStream false [] SyncMarker.unobserved) .idle
      [.activate 0 false, .settle true] [] [.ok .done]
      (sampleStream true [] SyncMarker.unobserved) .idle :=
    Runs.step (Responds.activate rfl) (Runs.step (Responds.activated rfl) Runs.done)
  have first : Runs (sampleStream true [] SyncMarker.unobserved) .idle
      [.read 4, .receive (.ok (SyncMarker.encode ⟨0⟩ 8 ++ [1, 2, 3, 4, 5, 6]))]
      [SyncMarker.encode ⟨0⟩ 8 ++ [1, 2, 3, 4, 5, 6]] [.ok (.frame [1, 2, 3, 4])]
      (sampleStream true [5, 6] 0) .idle :=
    Runs.step Responds.read (Runs.step Responds.receive Runs.done)
  have aborted : Runs (sampleStream true [5, 6] 0) .idle
      [.read 4, .signal .abort, .receive (.ok [7, 8]), .signal .clearAbort] [] [.error .aborted]
      (sampleStream true [] 0) .idle :=
    Runs.step Responds.read (Runs.step (Responds.signal _) (Runs.step Responds.receive
      (Runs.step (Responds.signal _) Runs.done)))
  have second : Runs (sampleStream true [] 0) .idle [.read 4, .receive (.ok [7, 8, 9, 10, 11])]
      [[7, 8, 9, 10, 11]] [.ok (.frame [7, 8, 9, 10])] (sampleStream true [11] 0) .idle :=
    Runs.step Responds.read (Runs.step Responds.receive Runs.done)
  have run := opened.append (first.append (aborted.append second))
  obtain ⟨⟨before, split, inOrder⟩, spans⟩ := frames_in_order created run
  exact ⟨_, _, _, _, _, before, run, split, rfl, inOrder, spans _ (by simp)⟩

end OutputStream

end FrameStream
