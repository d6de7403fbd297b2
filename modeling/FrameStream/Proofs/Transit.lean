import FrameStream.Proofs.Reading
import Mathlib.Data.List.Flatten

/-!
One frame on its way to a stream. Its payloads arrive in order, but some may be lost, and receives
may fail in between. What the stream holds together with what is still to arrive is either the
whole frame or too little for one, and that decides what a read can return.
-/

namespace FrameStream

/-- A frame as a device sends it: a payload that opens with a marker, then payloads of data. -/
structure MarkedFrame (configuration : OutputConfiguration) (frameSize : Nat) where
  header : Bytes
  head : Bytes
  tail : List Bytes
  length_header : header.length = configuration.markerSize
  marks : (SyncMarker.decode? header configuration.markerSize).isSome
  fits : ∀ payload ∈ (header ++ head) :: tail, payload.length ≤ configuration.maximumPayload
  length_data : head.length + tail.flatten.length = frameSize

namespace MarkedFrame

variable {configuration : OutputConfiguration} {frameSize : Nat}

def payloads (frame : MarkedFrame configuration frameSize) : List Bytes :=
  (frame.header ++ frame.head) :: frame.tail

def data (frame : MarkedFrame configuration frameSize) : Bytes := frame.head ++ frame.tail.flatten

/-- Every payload carries data. -/
def Solid (frame : MarkedFrame configuration frameSize) : Prop :=
  frame.head ≠ [] ∧ ∀ payload ∈ frame.tail, payload ≠ []

/-- A frame behind the marker with the given index. -/
def numbered (configuration : OutputConfiguration) (enabled : configuration.syncEnabled = true)
    (index : UInt32) (head : Bytes) (tail : List Bytes)
    (within : configuration.markerSize + head.length ≤ configuration.maximumPayload ∧
      ∀ payload ∈ tail, payload.length ≤ configuration.maximumPayload) :
    MarkedFrame configuration (head.length + tail.flatten.length) where
  header := SyncMarker.encode ⟨index⟩ configuration.markerSize
  head
  tail
  length_header := SyncMarker.encode_length _ (configuration.marker_min enabled)
  marks := by
    have decoded := SyncMarker.decode?_encode ⟨index⟩ [] (configuration.marker_min enabled)
    rw [List.append_nil] at decoded
    rw [decoded, Option.isSome_some]
  fits := by
    rw [List.forall_mem_cons, List.length_append,
      SyncMarker.encode_length _ (configuration.marker_min enabled)]
    exact within
  length_data := rfl

theorem length_data_eq (frame : MarkedFrame configuration frameSize) :
    frame.data.length = frameSize := by
  rw [data, List.length_append, frame.length_data]

theorem decode?_opening (frame : MarkedFrame configuration frameSize) :
    ∃ marker,
      SyncMarker.decode? (frame.header ++ frame.head) configuration.markerSize = some marker ∧
      (frame.header ++ frame.head).drop configuration.markerSize = frame.head := by
  obtain ⟨marker, decoded⟩ := Option.isSome_iff_exists.mp frame.marks
  refine ⟨marker, ?_, ?_⟩
  · rw [SyncMarker.decode?_append _ _ frame.length_header, decoded]
  · rw [← frame.length_header, List.drop_left]

end MarkedFrame

/-- The datagrams that arrive among receipts. -/
def arrivals (receipts : List Receipt) : List Bytes := receipts.filterMap Except.toOption

@[simp]
theorem arrivals_nil : arrivals [] = [] := rfl

@[simp]
theorem arrivals_ok (payload : Bytes) (receipts : List Receipt) :
    arrivals (.ok payload :: receipts) = payload :: arrivals receipts := rfl

@[simp]
theorem arrivals_error (error : StreamError) (receipts : List Receipt) :
    arrivals (.error error :: receipts) = arrivals receipts := rfl

theorem mem_arrivals (member : .ok payload ∈ receipts) : payload ∈ arrivals receipts :=
  List.mem_filterMap.mpr ⟨_, member, rfl⟩

theorem arrivals_eq_cons (first : arrivals receipts = payload :: rest) :
    ∃ before after, receipts = before ++ .ok payload :: after ∧ arrivals before = [] ∧
      arrivals after = rest := by
  obtain ⟨before, receipt, after, split, silent, arrived, later⟩ :=
    List.filterMap_eq_cons_iff.mp first
  cases receipt with
  | error error => cases arrived
  | ok payload =>
    cases arrived
    exact ⟨before, after, split, List.filterMap_eq_nil_iff.mpr silent, later⟩

/-- Payloads that carry data are all there if all their data is. -/
theorem sublist_eq_of_length_flatten {part payloads : List Bytes} (arriving : part.Sublist payloads)
    (solid : ∀ payload ∈ payloads, payload ≠ [])
    (length : payloads.flatten.length ≤ part.flatten.length) : part = payloads := by
  induction arriving with
  | slnil => rfl
  | @cons part payloads payload arriving ih =>
    have ⟨first, _⟩ := List.forall_mem_cons.mp solid
    have most := arriving.flatten.length_le
    have some := List.length_pos_iff.mpr first
    rw [List.flatten_cons, List.length_append] at length
    omega
  | cons_cons payload arriving ih =>
    rw [List.flatten_cons, List.flatten_cons, List.length_append, List.length_append] at length
    rw [ih (List.forall_mem_cons.mp solid).2 (by omega)]

/-- Data held and data still to arrive that make up a frame together. -/
def Completes (data held : Bytes) (receipts : List Receipt) : Prop :=
  held ++ (arrivals receipts).flatten = data

/-- What is held and what is to arrive make up a frame, or fall short of one. -/
def Promises (data held : Bytes) (receipts : List Receipt) : Prop :=
  Completes data held receipts ∨ held.length + (arrivals receipts).flatten.length < data.length

theorem Promises.length_le (promise : Promises data held receipts) :
    held.length + (arrivals receipts).flatten.length ≤ data.length := by
  rcases promise with complete | short
  · exact Nat.le_of_eq (by rw [← List.length_append, complete])
  · exact Nat.le_of_lt short

/-- Less than what was held before promises less, but nothing wrong. -/
theorem Promises.of_shorter (promise : Promises data held receipts)
    (shorter : less.length + (arrivals receipts').flatten.length <
      held.length + (arrivals receipts).flatten.length) :
    Promises data less receipts' ∧ ¬ Completes data less receipts' := by
  have short := Nat.lt_of_lt_of_le shorter promise.length_le
  refine ⟨.inr short, ?_⟩
  intro complete
  rw [← complete, List.length_append] at short
  exact Nat.lt_irrefl _ short

theorem Promises.forget (promise : Promises data held receipts) :
    Promises data [] receipts ∧ (Completes data [] receipts → Completes data held receipts) := by
  by_cases nothing : held = []
  · subst nothing
    exact ⟨promise, id⟩
  · have some := List.length_pos_iff.mpr nothing
    have ⟨promises, short⟩ : Promises data [] receipts ∧ ¬ Completes data [] receipts :=
      promise.of_shorter (by rw [List.length_nil]; omega)
    exact ⟨promises, fun complete => absurd complete short⟩

/-- With the data of its first payload held, a frame is promised, whatever of the rest arrives. -/
theorem MarkedFrame.promises (frame : MarkedFrame configuration frameSize)
    (remaining : (arrivals receipts).Sublist frame.tail) :
    Promises frame.data frame.head receipts := by
  have part := remaining.flatten
  by_cases whole : frame.tail.flatten.length ≤ (arrivals receipts).flatten.length
  · exact .inl (congrArg (frame.head ++ ·) (part.eq_of_length_le whole))
  · refine .inr ?_
    rw [data, List.length_append]
    omega

theorem MarkedFrame.Solid.arrivals_eq {frame : MarkedFrame configuration frameSize}
    (solid : frame.Solid) (remaining : (arrivals receipts).Sublist frame.tail)
    (complete : Completes frame.data frame.head receipts) : arrivals receipts = frame.tail := by
  have same : (arrivals receipts).flatten = frame.tail.flatten := List.append_cancel_left complete
  apply sublist_eq_of_length_flatten remaining solid.2
  exact Nat.le_of_eq (congrArg List.length same.symm)

namespace OutputStream

variable {configuration : OutputConfiguration} {layer : Layer} {stream : OutputStream}

theorem Reads.receive_within (receiving : Receiving configuration layer stream)
    (within : payload.length ≤ configuration.maximumPayload)
    (run : Reads (stream.received point (.ok payload)).value receipts results last) :
    Reads (stream, .waiting point) (.ok payload :: receipts) results last := by
  refine .receive ?_
  rw [receiving.configuration_eq]
  simpa only [Except.map, List.take_of_length_le within] using run

/-- A failed receive gives a failed read, and the next one starts from nothing. -/
theorem reads_failure (receiving : Receiving configuration layer stream)
    (positive : 0 < layer.frameSize) (enabled : configuration.syncEnabled = true)
    (point : ReadPoint) (error : StreamError) :
    ∃ next, Receiving configuration layer next ∧
      Reads (stream, .waiting point) [.error error] [.error error]
        (next, .waiting next.freshPoint) := by
  obtain ⟨next, receiving, received⟩ := received_failure receiving point error enabled
  refine ⟨next, receiving, .receive ?_⟩
  rw [show Except.map _ (Except.error error : Receipt) = Except.error error from rfl, received]
  exact .restart receiving positive _

/-- What a payload can do to a read that stands at a point. -/
inductive Effect (frameSize : Nat) (point : ReadPoint) (payload : Bytes) :
    List (Except StreamError Bytes) → ReadPoint → Prop where
  | added : after.held = point.held ++ payload → Effect frameSize point payload [] after
  | completed : (point.held ++ payload).length = frameSize → after.held = [] →
      Effect frameSize point payload [.ok (point.held ++ payload)] after
  /-- Passed over, or taken for a payload with a marker. -/
  | lost : after.held.length < point.held.length + payload.length →
      Effect frameSize point payload [] after

theorem Effect.of_settled
    (outcome : (filled ++ payload).length < frameSize ∧ results = [] ∧
        after = .assembling (filled ++ payload) true ∨
      (filled ++ payload).length = frameSize ∧ results = [.ok (filled ++ payload)] ∧ after = fresh)
    (nothing : fresh.held = []) :
    Effect frameSize (.assembling filled started) payload results after := by
  rcases outcome with ⟨_, rfl, rfl⟩ | ⟨whole, rfl, rfl⟩
  · exact .added rfl
  · exact .completed whole nothing

/-- A payload that counts as data is added, and may complete the frame. -/
theorem reads_plain (receiving : Receiving configuration layer stream)
    (positive : 0 < layer.frameSize) (within : payload.length ≤ configuration.maximumPayload)
    (room : filled.length + payload.length ≤ layer.frameSize)
    (plain : (configuration.syncEnabled && !started) = true →
      SyncMarker.decode? payload configuration.markerSize = none) :
    ∃ results after,
      Reads (stream, .waiting (.assembling filled started)) [.ok payload] results
        (stream, .waiting after) ∧
      ((filled ++ payload).length < layer.frameSize ∧ results = [] ∧
          after = .assembling (filled ++ payload) true ∨
        (filled ++ payload).length = layer.frameSize ∧ results = [.ok (filled ++ payload)] ∧
          after = stream.freshPoint) := by
  have size : (filled ++ payload).length ≤ layer.frameSize := by rwa [List.length_append]
  obtain ⟨results, after, run, outcome⟩ := reads_settle receiving positive size
  rw [← received_data receiving room plain] at run
  exact ⟨results, after, .receive_within receiving within run, outcome⟩

/-- Payloads that a started frame has room for are all added to it, if the last of them is not
empty: then each of the others finds the frame short. -/
theorem reads_filling (receiving : Receiving configuration layer stream) {payloads : List Bytes}
    {held : Bytes} (within : ∀ payload ∈ payloads, payload.length ≤ configuration.maximumPayload)
    (ends : payloads.getLast? ≠ some [])
    (room : held.length + payloads.flatten.length ≤ layer.frameSize) :
    Reads (stream.settle held true).value (payloads.map .ok) []
      (stream.settle (held ++ payloads.flatten) true).value := by
  induction payloads generalizing held with
  | nil =>
    rw [List.flatten_nil, List.append_nil]
    exact .done
  | cons payload payloads ih =>
    have ⟨fits, within⟩ := List.forall_mem_cons.mp within
    have some : 0 < (payload :: payloads).flatten.length := by
      obtain ⟨last, final⟩ := Option.isSome_iff_exists.mp
        (List.getLast?_isSome.mpr (List.cons_ne_nil payload payloads))
      have member := List.mem_of_getLast? final
      have data : last ≠ [] := fun empty => ends (empty ▸ final)
      exact Nat.lt_of_lt_of_le (List.length_pos_iff.mpr data)
        (List.sublist_flatten_of_mem member).length_le
    have later : payloads.getLast? ≠ Option.some [] := by
      intro final
      rw [List.getLast?_cons, final] at ends
      exact ends rfl
    have total : (payload :: payloads).flatten.length = payload.length + payloads.flatten.length := by
      rw [List.flatten_cons, List.length_append]
    rw [settle_of_lt receiving true (by omega), List.flatten_cons, ← List.append_assoc]
    refine .receive_within receiving fits ?_
    rw [received_started receiving (by omega)]
    exact ih within later (by rw [List.length_append]; omega)

theorem reads_rest (receiving : Receiving configuration layer stream) {payloads : List Bytes}
    {held : Bytes} (within : ∀ payload ∈ payloads, payload.length ≤ configuration.maximumPayload)
    (solid : ∀ payload ∈ payloads, payload ≠ [])
    (room : held.length + payloads.flatten.length ≤ layer.frameSize) :
    Reads (stream.settle held true).value (payloads.map .ok) []
      (stream.settle (held ++ payloads.flatten) true).value := by
  have ends : payloads.getLast? ≠ some [] :=
    fun final => solid [] (List.mem_of_getLast? final) rfl
  exact reads_filling receiving within ends room

theorem received_opening (receiving : Receiving configuration layer stream)
    (enabled : configuration.syncEnabled = true) (point : ReadPoint) (looking : point.looks = true)
    (decoded : SyncMarker.decode? payload configuration.markerSize = some marker)
    (opened : payload.drop configuration.markerSize = data)
    (room : point.held.length + data.length ≤ layer.frameSize) :
    ∃ next, Receiving configuration layer next ∧
      (stream.received point (.ok payload)).value =
        (next.settle (point.held ++ data) true).value := by
  subst opened
  match point, looking with
  | .hunting, _ => exact received_hunted receiving decoded (by simpa [ReadPoint.held] using room)
  | .assembling filled false, _ =>
    exact ⟨_, receiving.observe marker.index, received_marker receiving enabled decoded room⟩

theorem reads_opening (receiving : Receiving configuration layer stream)
    (positive : 0 < layer.frameSize) (enabled : configuration.syncEnabled = true)
    (point : ReadPoint) (looking : point.looks = true)
    (within : payload.length ≤ configuration.maximumPayload)
    (decoded : SyncMarker.decode? payload configuration.markerSize = some marker)
    (opened : payload.drop configuration.markerSize = data)
    (room : point.held.length + data.length ≤ layer.frameSize) :
    ∃ results next after, Receiving configuration layer next ∧
      Reads (stream, .waiting point) [.ok payload] results (next, .waiting after) ∧
      ((point.held ++ data).length < layer.frameSize ∧ results = [] ∧
          after = .assembling (point.held ++ data) true ∨
        (point.held ++ data).length = layer.frameSize ∧ results = [.ok (point.held ++ data)] ∧
          after = next.freshPoint) := by
  obtain ⟨next, started, received⟩ :=
    received_opening receiving enabled point looking decoded opened room
  obtain ⟨results, after, run, outcome⟩ := reads_settle started positive
    (show (point.held ++ data).length ≤ layer.frameSize by rwa [List.length_append])
  exact ⟨results, next, after, started, .receive_within receiving within (received ▸ run), outcome⟩

theorem reads_data (receiving : Receiving configuration layer stream)
    (positive : 0 < layer.frameSize) (enabled : configuration.syncEnabled = true)
    (point : ReadPoint) (within : payload.length ≤ configuration.maximumPayload)
    (room : point.held.length + payload.length ≤ layer.frameSize) :
    ∃ results next after, Receiving configuration layer next ∧
      Reads (stream, .waiting point) [.ok payload] results (next, .waiting after) ∧
      Effect layer.frameSize point payload results after := by
  cases decoded : SyncMarker.decode? payload configuration.markerSize with
  | none =>
    cases point with
    | hunting =>
      obtain ⟨next, passing, received⟩ := received_passed receiving decoded
      refine ⟨[], next, .hunting, passing, .receive_within receiving within (received ▸ .done), ?_⟩
      by_cases empty : payload = []
      · exact .added empty.symm
      · exact .lost (by simpa using List.length_pos_iff.mpr empty)
    | assembling filled started =>
      obtain ⟨results, after, run, outcome⟩ :=
        reads_plain receiving positive within room fun _ => decoded
      exact ⟨results, stream, after, receiving, run, .of_settled outcome (held_freshPoint stream)⟩
  | some marker =>
    have shorter : (payload.drop configuration.markerSize).length < payload.length := by
      obtain ⟨least, most⟩ := SyncMarker.length_of_decode? decoded
      rw [SyncMarker.minimumSize] at least
      rw [List.length_drop]
      omega
    by_cases looking : point.looks = true
    · obtain ⟨results, next, after, started, run, outcome⟩ := reads_opening receiving positive
        enabled point looking within decoded rfl (by omega)
      refine ⟨results, next, after, started, run, ?_⟩
      rcases outcome with ⟨_, rfl, rfl⟩ | ⟨whole, _, _⟩
      · exact .lost (by rw [ReadPoint.held, List.length_append]; omega)
      · rw [List.length_append] at whole
        omega
    · obtain ⟨filled, rfl⟩ := ReadPoint.eq_of_not_looks looking
      have plain : (configuration.syncEnabled && !true) = true →
          SyncMarker.decode? payload configuration.markerSize = none :=
        fun looked => by simp at looked
      obtain ⟨results, after, run, outcome⟩ := reads_plain receiving positive within room plain
      exact ⟨results, stream, after, receiving, run, .of_settled outcome (held_freshPoint stream)⟩

/-- An effect keeps the promise; a frame it completes is the promised one, and none can be
completed later that was not promised before. -/
theorem Effect.keeps (effect : Effect data.length point payload results after)
    (positive : 0 < data.length) (promise : Promises data point.held (.ok payload :: receipts)) :
    Promises data after.held receipts ∧
      (Completes data after.held receipts → Completes data point.held (.ok payload :: receipts)) ∧
      ∀ bytes, .ok bytes ∈ results →
        bytes = data ∧ Completes data point.held (.ok payload :: receipts) := by
  have most := promise.length_le
  rw [arrivals_ok, List.flatten_cons, List.length_append] at most
  cases effect with
  | added held =>
    have same : Completes data after.held receipts ↔
        Completes data point.held (.ok payload :: receipts) := by
      rw [Completes, Completes, held, arrivals_ok, List.flatten_cons, List.append_assoc]
    refine ⟨?_, same.mp, fun _ member => nomatch member⟩
    rcases promise with complete | short
    · exact .inl (same.mpr complete)
    · rw [arrivals_ok, List.flatten_cons, List.length_append] at short
      exact .inr (by rw [held, List.length_append]; omega)
  | completed whole held =>
    rw [List.length_append] at whole
    have nothing : (arrivals receipts).flatten = [] := List.length_eq_zero_iff.mp (by omega)
    have complete : Completes data point.held (.ok payload :: receipts) := by
      rcases promise with complete | short
      · exact complete
      · rw [arrivals_ok, List.flatten_cons, List.length_append] at short
        omega
    refine ⟨.inr (by rw [held, nothing]; exact positive), fun _ => complete, ?_⟩
    intro bytes member
    have same : bytes = point.held ++ payload := by simpa using member
    refine ⟨?_, complete⟩
    rw [same, ← complete, arrivals_ok, List.flatten_cons, nothing, List.append_nil]
  | lost shorter =>
    have ⟨promises, short⟩ :
        Promises data after.held receipts ∧ ¬ Completes data after.held receipts :=
      promise.of_shorter (by rw [arrivals_ok, List.flatten_cons, List.length_append]; omega)
    exact ⟨promises, fun complete => absurd complete short, fun _ member => nomatch member⟩

/-- Without a failure or the end of a frame, what a stream holds only grows by what arrives, so it
returns the promised frame or nothing. -/
theorem reads_promised (receiving : Receiving configuration layer stream)
    (enabled : configuration.syncEnabled = true) (point : ReadPoint)
    (length_data : data.length = layer.frameSize) (positive : 0 < layer.frameSize)
    (fits : ∀ payload ∈ arrivals receipts, payload.length ≤ configuration.maximumPayload)
    (promise : Promises data point.held receipts) :
    ∃ results next after, Receiving configuration layer next ∧
      Reads (stream, .waiting point) receipts results (next, .waiting after) ∧
      ∀ bytes, .ok bytes ∈ results → bytes = data ∧ Completes data point.held receipts := by
  induction receipts generalizing stream point with
  | nil => exact ⟨[], stream, point, receiving, .done, fun _ member => nomatch member⟩
  | cons receipt receipts ih =>
    cases receipt with
    | error error =>
      obtain ⟨next, restarting, run⟩ := reads_failure receiving positive enabled point error
      have ⟨kept, earlier⟩ := promise.forget
      obtain ⟨results, last, after, receiving, rest, returned⟩ :=
        ih restarting next.freshPoint fits (by rwa [held_freshPoint])
      refine ⟨_, last, after, receiving, run.append rest, ?_⟩
      intro bytes member
      rcases List.mem_cons.mp member with failed | later
      · cases failed
      · have ⟨same, complete⟩ := returned bytes later
        rw [held_freshPoint] at complete
        exact ⟨same, earlier complete⟩
    | ok payload =>
      have ⟨within, fits⟩ := List.forall_mem_cons.mp fits
      have most := promise.length_le
      rw [arrivals_ok, List.flatten_cons, List.length_append, length_data] at most
      obtain ⟨first, next, between, receiving, run, effect⟩ :=
        reads_data receiving positive enabled point within (by omega)
      rw [← length_data] at effect
      obtain ⟨kept, earlier, completed⟩ := effect.keeps (length_data ▸ positive) promise
      obtain ⟨results, last, after, receiving, rest, returned⟩ := ih receiving between fits kept
      refine ⟨first ++ results, last, after, receiving, run.append rest, ?_⟩
      intro bytes member
      rcases List.mem_append.mp member with now | later
      · exact completed bytes now
      · have ⟨same, complete⟩ := returned bytes later
        exact ⟨same, earlier complete⟩

/-- Failed receives between frames are all that a stream then notices. -/
theorem reads_pauses (receiving : Receiving configuration layer stream)
    (positive : 0 < layer.frameSize) (enabled : configuration.syncEnabled = true)
    (silent : arrivals receipts = []) :
    ∃ next, Receiving configuration layer next ∧
      Reads (stream, .waiting stream.freshPoint) receipts receipts
        (next, .waiting next.freshPoint) := by
  induction receipts generalizing stream with
  | nil => exact ⟨stream, receiving, .done⟩
  | cons receipt receipts ih =>
    cases receipt with
    | ok payload => cases silent
    | error error =>
      obtain ⟨next, restarting, first⟩ :=
        reads_failure receiving positive enabled stream.freshPoint error
      obtain ⟨last, receiving, rest⟩ := ih restarting silent
      exact ⟨last, receiving, first.append rest⟩

theorem reads_headless (receiving : Receiving configuration layer stream)
    (positive : 0 < layer.frameSize) (enabled : configuration.syncEnabled = true)
    (frame : MarkedFrame configuration layer.frameSize) (point : ReadPoint)
    (nothing : point.held = []) (remaining : (arrivals receipts).Sublist frame.tail) :
    ∃ results next after, Receiving configuration layer next ∧
      Reads (stream, .waiting point) receipts results (next, .waiting after) ∧
      ∀ bytes, .ok bytes ∈ results → bytes = frame.data ∧ ¬ frame.Solid := by
  have fits (payload : Bytes) (member : payload ∈ arrivals receipts) :=
    frame.fits payload (List.mem_cons_of_mem _ (remaining.subset member))
  have ⟨promise, earlier⟩ := (frame.promises remaining).forget
  obtain ⟨results, next, after, receiving, run, returned⟩ := reads_promised receiving enabled point
    frame.length_data_eq positive fits (by rwa [nothing])
  refine ⟨results, next, after, receiving, run, ?_⟩
  intro bytes member
  obtain ⟨same, complete⟩ := returned bytes member
  rw [nothing] at complete
  refine ⟨same, ?_⟩
  intro solid
  have both : frame.head ++ (arrivals receipts).flatten = (arrivals receipts).flatten :=
    (earlier complete).trans complete.symm
  exact solid.1 (List.append_left_eq_self.mp both)

theorem reads_headed (receiving : Receiving configuration layer stream)
    (positive : 0 < layer.frameSize) (enabled : configuration.syncEnabled = true)
    (frame : MarkedFrame configuration layer.frameSize) (point : ReadPoint)
    (nothing : point.held = []) (looking : point.looks = true)
    (remaining : (arrivals receipts).Sublist frame.tail) :
    ∃ results next after, Receiving configuration layer next ∧
      Reads (stream, .waiting point) (.ok (frame.header ++ frame.head) :: receipts) results
        (next, .waiting after) ∧
      ∀ bytes, .ok bytes ∈ results →
        bytes = frame.data ∧ Completes frame.data frame.head receipts := by
  obtain ⟨marker, decoded, opened⟩ := frame.decode?_opening
  have length_data := frame.length_data_eq
  have ⟨within, tail⟩ := List.forall_mem_cons.mp frame.fits
  have fits (payload : Bytes) (member : payload ∈ arrivals receipts) :=
    tail payload (remaining.subset member)
  have promise := frame.promises remaining
  obtain ⟨first, next, between, opening, run, outcome⟩ := reads_opening receiving positive enabled
    point looking within decoded opened
    (by have most := promise.length_le; rw [nothing, List.length_nil]; omega)
  rw [nothing, List.nil_append] at outcome
  rcases outcome with ⟨_, rfl, rfl⟩ | ⟨filled, rfl, rfl⟩
  · obtain ⟨results, last, after, receiving, rest, returned⟩ :=
      reads_promised opening enabled (.assembling frame.head true) length_data positive fits promise
    exact ⟨_, last, after, receiving, run.append rest, returned⟩
  · -- The first payload held the whole frame, so whatever follows of it is empty.
    have total := frame.length_data
    have empty : frame.tail.flatten = [] := List.length_eq_zero_iff.mp (by omega)
    have alone : frame.head = frame.data := by rw [MarkedFrame.data, empty, List.append_nil]
    have complete : Completes frame.data frame.head receipts :=
      promise.resolve_right (by rw [← alone]; omega)
    have ⟨kept, _⟩ := promise.forget
    obtain ⟨results, last, after, receiving, rest, returned⟩ := reads_promised opening enabled
      next.freshPoint length_data positive fits (by rwa [held_freshPoint])
    refine ⟨_, last, after, receiving, run.append rest, ?_⟩
    intro bytes member
    rcases List.mem_cons.mp member with now | later
    · exact ⟨(Except.ok.inj now).trans alone, complete⟩
    · exact ⟨(returned bytes later).1, complete⟩

/-- Whatever arrives of a frame, a stream that held nothing before returns this frame or none; and
if every payload carries data it returns it only when all of them arrive. -/
theorem reads_arriving (receiving : Receiving configuration layer stream)
    (positive : 0 < layer.frameSize) (enabled : configuration.syncEnabled = true)
    (frame : MarkedFrame configuration layer.frameSize) (point : ReadPoint)
    (nothing : point.held = []) (looking : point.looks = true)
    (arriving : (payload :: arrivals receipts).Sublist frame.payloads) :
    ∃ results next after, Receiving configuration layer next ∧
      Reads (stream, .waiting point) (.ok payload :: receipts) results (next, .waiting after) ∧
      ∀ bytes, .ok bytes ∈ results →
        bytes = frame.data ∧ (frame.Solid → payload :: arrivals receipts = frame.payloads) := by
  rcases List.sublist_cons_iff.mp arriving with headless | ⟨rest, arrived, remaining⟩
  · have arriving : (arrivals (.ok payload :: receipts)).Sublist frame.tail := headless
    obtain ⟨results, next, after, receiving, run, returned⟩ :=
      reads_headless receiving positive enabled frame point nothing arriving
    refine ⟨results, next, after, receiving, run, ?_⟩
    intro bytes member
    exact ⟨(returned bytes member).1, fun solid => absurd solid (returned bytes member).2⟩
  · obtain ⟨rfl, rfl⟩ := List.cons.inj arrived
    obtain ⟨results, next, after, receiving, run, returned⟩ :=
      reads_headed receiving positive enabled frame point nothing looking remaining
    refine ⟨results, next, after, receiving, run, ?_⟩
    intro bytes member
    have ⟨same, complete⟩ := returned bytes member
    exact ⟨same, fun solid => congrArg _ (solid.arrivals_eq remaining complete)⟩

/-- A frame of which every payload arrives without a failure is returned. -/
theorem reads_whole (receiving : Receiving configuration layer stream)
    (positive : 0 < layer.frameSize) (enabled : configuration.syncEnabled = true)
    (frame : MarkedFrame configuration layer.frameSize) (solid : frame.Solid) :
    ∃ next, Receiving configuration layer next ∧
      Reads (stream, .waiting stream.freshPoint) (frame.payloads.map .ok) [.ok frame.data]
        (next, .waiting next.freshPoint) := by
  obtain ⟨marker, decoded, opened⟩ := frame.decode?_opening
  have ⟨within, fits⟩ := List.forall_mem_cons.mp frame.fits
  have total := frame.length_data
  obtain ⟨next, opening, received⟩ := received_opening receiving enabled stream.freshPoint
    (looks_freshPoint stream) decoded opened (by rw [held_freshPoint]; simp; omega)
  rw [held_freshPoint, List.nil_append] at received
  have rest := reads_rest opening fits solid.2 (Nat.le_of_eq total)
  have whole : (frame.head ++ frame.tail.flatten).length = layer.frameSize := frame.length_data_eq
  rw [settle_of_eq opening true whole] at rest
  have run := rest.append (.restart opening positive _)
  rw [← received, List.append_nil] at run
  exact ⟨next, opening, .receive_within receiving within run⟩

end OutputStream

end FrameStream
