import FrameStream.Proofs.Conduct
import FrameStream.Proofs.Numbering

/-!
How a frame is handed over. Whatever the limiter, the transport and other tasks do, a write offers
its payloads one after another, each from where the transport left it. So what was taken is always
a beginning of the payloads of the frame, and all of them exactly when the write has succeeded.
-/

namespace FrameStream

/-- The bytes that the transport took in some exchanges, never more than it was offered. -/
def takenBytes (exchanges : List Exchange) : Bytes := (datagrams exchanges).flatten

namespace Exchange

def grant? : Exchange → Option Nat
  | .reserve length (.ok wait) => if wait.isZero then some length else none
  | _ => none

def isSignal : Exchange → Bool
  | .signal _ => true
  | _ => false

end Exchange

/-- How many bytes the limiter let go each time that it let some go. -/
def grants (exchanges : List Exchange) : List Nat := exchanges.filterMap Exchange.grant?

theorem takenBytes_concat_send (exchanges : List Exchange) (offered : Bytes) (accepted : Nat) :
    takenBytes (exchanges ++ [.send offered (.ok accepted)]) =
      takenBytes exchanges ++ offered.take accepted := by
  simp [takenBytes, datagrams, Exchange.datagram?]

theorem takenBytes_concat (silent : exchange.datagram? = none) (exchanges : List Exchange) :
    takenBytes (exchanges ++ [exchange]) = takenBytes exchanges := by
  simp [takenBytes, datagrams, silent]

theorem grants_concat (ungranted : exchange.grant? = none) (exchanges : List Exchange) :
    grants (exchanges ++ [exchange]) = grants exchanges := by
  simp [grants, ungranted]

theorem grants_concat_free (free : wait.isZero = true) (exchanges : List Exchange) (length : Nat) :
    grants (exchanges ++ [.reserve length (.ok wait)]) = grants exchanges ++ [length] := by
  simp [grants, Exchange.grant?, free]

/-- A place within the payloads of a frame: those before it, the payload that it is in, those after
it, and how many bytes of this payload are before it. -/
structure Place (payloads : List Bytes) where
  gone : List Bytes
  payload : Bytes
  later : List Bytes
  sent : Nat
  split : payloads = gone ++ payload :: later
  within : sent < payload.length

namespace Place

variable {payloads : List Bytes}

def passed (place : Place payloads) : Bytes := place.gone.flatten ++ place.payload.take place.sent

/-- What is left of the payload that a place is in. -/
def rest (place : Place payloads) : Bytes := place.payload.drop place.sent

theorem passed_rest (place : Place payloads) :
    place.passed ++ place.rest ++ place.later.flatten = payloads.flatten := by
  obtain ⟨gone, payload, later, sent, split, _⟩ := place
  simp [passed, rest, split, List.append_assoc]

theorem rest_ne_nil (place : Place payloads) : place.rest ≠ [] := by
  apply List.ne_nil_of_length_pos
  rw [rest, List.length_drop]
  exact Nat.sub_pos_of_lt place.within

theorem passed_begins (place : Place payloads) : place.passed <+: payloads.flatten := by
  refine ⟨place.rest ++ place.later.flatten, ?_⟩
  rw [← List.append_assoc]
  exact place.passed_rest

theorem passed_ne (place : Place payloads) : place.passed ≠ payloads.flatten := by
  intro all
  have whole := place.passed_rest
  rw [← all, List.append_assoc, List.append_right_eq_self] at whole
  exact place.rest_ne_nil (List.append_eq_nil_iff.mp whole).1

end Place

/-- How far a write has come in its payloads after some exchanges. Before a payload is asked for,
all before it were let go, and taken whole; a payload that is sent was let go itself. -/
inductive Reaches (payloads : List Bytes) (exchanges : List Exchange) :
    Progress WritePoint (Except StreamError Unit) → Prop where
  | asking (gone : List Bytes) : payloads = gone ++ payload :: later →
      takenBytes exchanges = gone.flatten → grants exchanges = gone.map List.length →
      Reaches payloads exchanges (.waiting (.asking payload later))
  | resting (gone : List Bytes) : payloads = gone ++ payload :: later →
      takenBytes exchanges = gone.flatten → grants exchanges = gone.map List.length →
      Reaches payloads exchanges (.waiting (.resting wait payload later))
  | sending (gone : List Bytes) : payloads = gone ++ payload :: later → sent < payload.length →
      takenBytes exchanges = gone.flatten ++ payload.take sent →
      grants exchanges = (gone ++ [payload]).map List.length →
      Reaches payloads exchanges (.waiting (.sending payload sent later))
  | written : takenBytes exchanges = payloads.flatten →
      grants exchanges = payloads.map List.length → Reaches payloads exchanges (.finished (.ok ()))
  | failed (place : Place payloads) : takenBytes exchanges = place.passed →
      Reaches payloads exchanges (.finished (.error error))

theorem Reaches.of_silent (reaches : Reaches payloads exchanges progress)
    (silent : exchange.datagram? = none) (ungranted : exchange.grant? = none) :
    Reaches payloads (exchanges ++ [exchange]) progress := by
  have same := takenBytes_concat silent exchanges
  have still := grants_concat ungranted exchanges
  cases reaches with
  | asking gone split taken granted =>
    exact .asking gone split (same.trans taken) (still.trans granted)
  | resting gone split taken granted =>
    exact .resting gone split (same.trans taken) (still.trans granted)
  | sending gone split within taken granted =>
    exact .sending gone split within (same.trans taken) (still.trans granted)
  | written taken granted => exact .written (same.trans taken) (still.trans granted)
  | failed place taken => exact .failed place (same.trans taken)

/-- What a write has handed over is a beginning, and all of it if and only if the write succeeds. -/
theorem Reaches.handed (reaches : Reaches payloads exchanges progress)
    (nonempty : ∀ payload ∈ payloads, payload ≠ []) :
    takenBytes exchanges <+: payloads.flatten ∧
      (progress = .finished (.ok ()) ↔ takenBytes exchanges = payloads.flatten) := by
  have partly (place : Place payloads) (taken : takenBytes exchanges = place.passed)
      (unfinished : progress ≠ .finished (.ok ())) :
      takenBytes exchanges <+: payloads.flatten ∧
        (progress = .finished (.ok ()) ↔ takenBytes exchanges = payloads.flatten) := by
    rw [taken]
    exact ⟨place.passed_begins, iff_of_false unfinished place.passed_ne⟩
  have start {gone later : List Bytes} {payload : Bytes}
      (split : payloads = gone ++ payload :: later) (taken : takenBytes exchanges = gone.flatten) :
      ∃ place : Place payloads, takenBytes exchanges = place.passed := by
    have some := List.length_pos_iff.mpr (nonempty payload (by simp [split]))
    exact ⟨⟨gone, payload, later, 0, split, some⟩, by simp [Place.passed, taken]⟩
  cases reaches with
  | asking gone split taken =>
    obtain ⟨place, taken⟩ := start split taken
    exact partly place taken nofun
  | resting gone split taken =>
    obtain ⟨place, taken⟩ := start split taken
    exact partly place taken nofun
  | sending gone split within taken => exact partly ⟨gone, _, _, _, split, within⟩ taken nofun
  | written taken =>
    rw [taken]
    exact ⟨List.prefix_rfl, iff_of_true rfl rfl⟩
  | failed place taken => exact partly place taken nofun

namespace InputStream

variable {payloads gone later : List Bytes} {payload : Bytes} {exchanges : List Exchange}

section Steps

variable (stream : InputStream) (split : payloads = gone ++ payload :: later)
include split

theorem proceed_reaches (taken : takenBytes exchanges = (gone ++ [payload]).flatten)
    (granted : grants exchanges = (gone ++ [payload]).map List.length) :
    Reaches payloads exchanges (stream.proceed later).value.2 := by
  cases later with
  | nil =>
    rw [← split] at taken granted
    exact .written taken granted
  | cons next later => exact .asking (gone ++ [payload]) (by simp [split]) taken granted

theorem offer_reaches (most : sent ≤ payload.length)
    (taken : takenBytes exchanges = gone.flatten ++ payload.take sent)
    (granted : grants exchanges = (gone ++ [payload]).map List.length) :
    Reaches payloads exchanges (stream.offer payload sent later).value.2 := by
  rw [offer_value]
  by_cases more : sent < payload.length
  · rw [if_pos more]
    exact .sending gone split more taken granted
  · have whole : sent = payload.length := Nat.le_antisymm most (Nat.not_lt.mp more)
    rw [if_neg more]
    apply proceed_reaches stream split _ granted
    simpa [whole] using taken

theorem granted_reaches (nonempty : payload ≠ []) (answer : Except RateError Duration)
    (taken : takenBytes exchanges = gone.flatten)
    (granted : grants exchanges = gone.map List.length) :
    Reaches payloads (exchanges ++ [.reserve payload.length answer])
      (stream.granted payload later answer).value.2 := by
  have unmoved : takenBytes (exchanges ++ [.reserve payload.length answer]) = gone.flatten :=
    (takenBytes_concat rfl exchanges).trans taken
  cases answer with
  | error error =>
    refine .failed ⟨gone, payload, later, 0, split, List.length_pos_iff.mpr nonempty⟩ ?_
    simp [Place.passed, unmoved]
  | ok wait =>
    by_cases free : wait.isZero = true
    · simp only [InputStream.granted, if_pos free]
      apply offer_reaches stream split (Nat.zero_le _)
      · simpa using unmoved
      · rw [grants_concat_free free, granted, List.map_append]
        rfl
    · simp only [InputStream.granted, if_neg free]
      have ungranted : Exchange.grant? (.reserve payload.length (.ok wait)) = none := if_neg free
      exact .resting gone split unmoved ((grants_concat ungranted exchanges).trans granted)

theorem rested_reaches (nonempty : payload ≠ []) (wait : Duration)
    (outcome : Except StreamError Unit) (taken : takenBytes exchanges = gone.flatten)
    (granted : grants exchanges = gone.map List.length) :
    Reaches payloads (exchanges ++ [.rest wait outcome])
      (stream.rested payload later outcome).value.2 := by
  have unmoved : takenBytes (exchanges ++ [.rest wait outcome]) = gone.flatten :=
    (takenBytes_concat rfl exchanges).trans taken
  cases outcome with
  | error error =>
    refine .failed ⟨gone, payload, later, 0, split, List.length_pos_iff.mpr nonempty⟩ ?_
    simp [Place.passed, unmoved]
  | ok _ => exact .asking gone split unmoved ((grants_concat rfl exchanges).trans granted)

theorem delivered_reaches (within : sent < payload.length) (outcome : Except StreamError Nat)
    (taken : takenBytes exchanges = gone.flatten ++ payload.take sent)
    (granted : grants exchanges = (gone ++ [payload]).map List.length) :
    Reaches payloads (exchanges ++ [.send (payload.drop sent) outcome])
      (stream.delivered payload sent later outcome).value.2 := by
  have ungranted : grants (exchanges ++ [.send (payload.drop sent) outcome]) =
      (gone ++ [payload]).map List.length :=
    (grants_concat rfl exchanges).trans granted
  cases outcome with
  | error error =>
    refine .failed ⟨gone, payload, later, sent, split, within⟩ ?_
    exact (takenBytes_concat rfl exchanges).trans taken
  | ok accepted =>
    have joined : takenBytes (exchanges ++ [.send (payload.drop sent) (.ok accepted)]) =
        gone.flatten ++ payload.take (sent + accepted) := by
      rw [takenBytes_concat_send, taken, List.append_assoc, ← List.take_add]
    rcases Nat.eq_zero_or_pos accepted with rfl | some
    · exact .failed ⟨gone, payload, later, sent, split, within⟩ joined
    · rw [delivered_offer stream payload sent later some]
      have most : sent + min accepted (payload.length - sent) ≤ payload.length := by omega
      apply offer_reaches stream split most _ ungranted
      rw [joined, List.append_cancel_left_eq, List.take_eq_take_iff]
      omega

end Steps

/-- A run up to any of its exchanges, and from there on. -/
theorem Writes.split (run : Writes start (before ++ exchanges) last) :
    ∃ middle, Writes start before middle ∧ Writes middle exchanges last := by
  induction before generalizing start with
  | nil => exact ⟨start, .done, run⟩
  | cons exchange before ih =>
    cases run with
    | reserve run =>
      obtain ⟨middle, first, rest⟩ := ih run
      exact ⟨middle, .reserve first, rest⟩
    | rest run =>
      obtain ⟨middle, first, rest⟩ := ih run
      exact ⟨middle, .rest first, rest⟩
    | send run =>
      obtain ⟨middle, first, rest⟩ := ih run
      exact ⟨middle, .send first, rest⟩
    | signal run =>
      obtain ⟨middle, first, rest⟩ := ih run
      exact ⟨middle, .signal first, rest⟩

/-- Once a write has come to its end, only other tasks go on. -/
theorem Writes.quiet (run : Writes (stream, .finished result) exchanges last) :
    last.2 = .finished result ∧ ∀ exchange ∈ exchanges, exchange.isSignal = true := by
  generalize start : (stream, Progress.finished result) = state at run
  induction run generalizing stream with
  | done =>
    subst start
    exact ⟨rfl, nofun⟩
  | signal run ih =>
    cases start
    have ⟨same, signals⟩ := ih rfl
    exact ⟨same, List.forall_mem_cons.mpr ⟨rfl, signals⟩⟩
  | reserve | rest | send => cases start

theorem Writes.reaches (run : Writes start exchanges last)
    (nonempty : ∀ payload ∈ payloads, payload ≠ []) (history : List Exchange)
    (reaches : Reaches payloads history start.2) :
    Reaches payloads (history ++ exchanges) last.2 := by
  have present {gone later : List Bytes} {payload : Bytes}
      (split : payloads = gone ++ payload :: later) : payload ≠ [] :=
    nonempty payload (by simp [split])
  induction run generalizing history with
  | done => rwa [List.append_nil]
  | reserve run ih =>
    rw [List.append_cons]
    cases reaches with
    | asking gone split taken granted =>
      exact ih _ (granted_reaches _ split (present split) _ taken granted)
  | rest run ih =>
    rw [List.append_cons]
    cases reaches with
    | resting gone split taken granted =>
      exact ih _ (rested_reaches _ split (present split) _ _ taken granted)
  | send run ih =>
    rw [List.append_cons]
    cases reaches with
    | sending gone split within taken granted =>
      exact ih _ (delivered_reaches _ split within _ taken granted)
  | signal run ih =>
    rw [List.append_cons]
    exact ih _ (reaches.of_silent rfl rfl)

theorem reaches_start (stream : InputStream) (payloads : List Bytes) :
    Reaches payloads [] (stream.proceed payloads).value.2 := by
  cases payloads with
  | nil => exact .written rfl rfl
  | cons payload later => exact .asking [] rfl rfl rfl

theorem header_nextMarker?_le (stream : InputStream) :
    (stream.configuration.header stream.nextMarker?).length ≤
      stream.configuration.maximumPayload := by
  unfold nextMarker?
  split
  · rename_i marked
    exact InputConfiguration.header_length_le (Bool.and_eq_true_iff.mp marked).1 _
  · exact Nat.zero_le _

/-- The payloads that a write of a frame has to hand over, marker and padding included: none if it
is refused. -/
def due (stream : InputStream) (frame : Bytes) : List Bytes :=
  if frame.length = stream.layer.frameSize ∧ stream.lifecycle.state = .active ∧ frame ≠ [] then
    stream.configuration.image stream.nextMarker? frame
  else []

theorem due_nonempty (stream : InputStream) (frame : Bytes) :
    ∀ payload ∈ stream.due frame, payload ≠ [] := by
  unfold due
  split
  · rename_i accepted
    exact stream.configuration.image_nonempty _ accepted.2.2
  · exact nofun

section Accepted

variable {stream : InputStream} {frame : Bytes} (active : stream.lifecycle.state = .active)
  (exact : frame.length = stream.layer.frameSize)
include active exact

theorem due_eq_image (positive : 0 < stream.layer.frameSize) :
    stream.due frame = stream.configuration.image stream.nextMarker? frame :=
  if_pos ⟨exact, active, List.ne_nil_of_length_pos (exact ▸ positive)⟩

/-- A write that is accepted has to hand over what is due for its frame. -/
theorem beginWrite_due :
    (stream.beginWrite frame).value = (stream.drawn.proceed (stream.due frame)).value := by
  rw [beginWrite_drawn active exact]
  by_cases empty : frame = []
  · subst empty
    rw [due, if_neg (fun accepted => accepted.2.2 rfl)]
    rfl
  · rw [due, if_pos ⟨exact, active, empty⟩,
      InputConfiguration.payloads_eq_image stream.header_nextMarker?_le empty]

end Accepted

end InputStream

/-- The bytes of an image: marker, frame and then nothing but padding. -/
theorem InputConfiguration.flatten_image (configuration : InputConfiguration)
    (marker? : Option SyncMarker) (nonempty : frame ≠ []) :
    ∃ padding, (configuration.padsFrames = false → padding = 0) ∧
      (configuration.image marker? frame).flatten =
        configuration.header marker? ++ frame ++ List.replicate padding 0 := by
  obtain ⟨full, final, cut, image⟩ := configuration.image_eq_concat marker? nonempty
  have whole := flatten_pieces configuration.payload_pos (configuration.header marker? ++ frame)
  rw [cut, List.flatten_concat] at whole
  rw [image, List.flatten_concat, ← whole, padded]
  by_cases pads : configuration.padsFrames = true
  · rw [if_pos pads, ← List.append_assoc]
    exact ⟨_, fun unpadded => absurd pads (by simp [unpadded]), rfl⟩
  · rw [if_neg pads]
    exact ⟨0, fun _ => rfl, (List.append_nil _).symm⟩

/-- A write that hands over some payloads in order. -/
structure HandsOver (payloads : List Bytes) (exchanges : List Exchange)
    (progress : Progress WritePoint (Except StreamError Unit)) : Prop where
  /-- What the transport took is a beginning of the payloads. -/
  inOrder : takenBytes exchanges <+: payloads.flatten
  /-- What it is offered lies within one payload, from the first byte on that it has not taken. -/
  offers : ∀ before offered outcome after, exchanges = before ++ .send offered outcome :: after →
    ∃ place : Place payloads, takenBytes before = place.passed ∧ offered = place.rest
  succeeds_iff : progress = .finished (.ok ()) ↔ takenBytes exchanges = payloads.flatten
  /-- A transport that takes nothing ends the write, and only other tasks go on. -/
  stalls : ∀ before offered after, exchanges = before ++ .send offered (.ok 0) :: after →
    progress = .finished (.error (.transport (.io "send" (.ofKind .writeZero)))) ∧
      ∀ exchange ∈ after, exchange.isSignal = true

namespace InputStream

/-- What is offered is what is left of a payload that was let go. -/
theorem Writes.offers {stream : InputStream}
    (run : Writes (stream.proceed payloads).value (before ++ .send offered outcome :: after) last)
    (nonempty : ∀ payload ∈ payloads, payload ≠ []) :
    ∃ place : Place payloads, offered = place.rest ∧ takenBytes before = place.passed ∧
      grants before = (place.gone ++ [place.payload]).map List.length := by
  obtain ⟨middle, first, rest⟩ := run.split
  have reaches := first.reaches nonempty [] (reaches_start stream payloads)
  cases rest with
  | send rest =>
    cases reaches with
    | sending gone split within taken granted =>
      exact ⟨⟨gone, _, _, _, split, within⟩, rfl, taken, granted⟩

theorem Writes.handsOver {stream : InputStream}
    (run : Writes (stream.proceed payloads).value exchanges last)
    (nonempty : ∀ payload ∈ payloads, payload ≠ []) : HandsOver payloads exchanges last.2 := by
  have reaches := run.reaches nonempty [] (reaches_start stream payloads)
  have ⟨inOrder, complete⟩ := reaches.handed nonempty
  refine ⟨inOrder, ?_, complete, ?_⟩
  · rintro before offered outcome after rfl
    obtain ⟨place, left, taken, _⟩ := run.offers nonempty
    exact ⟨place, taken, left⟩
  · rintro before offered after rfl
    obtain ⟨middle, first, rest⟩ := run.split
    cases rest with
    | send rest => exact rest.quiet

/-- What the transport takes in a write is, in order, a beginning of the image of the frame:
marker, frame and padding. The write succeeds exactly if that is all of the image. A frame of
another size is refused, and nothing of it is handed over. -/
theorem write_hands_over_image {stream next : InputStream} {frame : Bytes}
    {exchanges : List Exchange} {progress : Progress WritePoint (Except StreamError Unit)}
    (active : stream.lifecycle.state = .active) (positive : 0 < stream.layer.frameSize)
    (run : Writes (stream.beginWrite frame).value exchanges (next, progress)) :
    (frame.length = stream.layer.frameSize →
      HandsOver (stream.configuration.image stream.nextMarker? frame) exchanges progress ∧
        ∃ padding, (stream.configuration.padsFrames = false → padding = 0) ∧
          (stream.configuration.image stream.nextMarker? frame).flatten =
            stream.configuration.header stream.nextMarker? ++ frame ++
              List.replicate padding 0) ∧
    (frame.length ≠ stream.layer.frameSize →
      takenBytes exchanges = [] ∧
        progress = .finished
          (.error (.invalidFrameSize stream.layer.frameSize frame.length))) := by
  constructor
  · intro exact
    rw [beginWrite_due active exact] at run
    have handsOver := run.handsOver (stream.due_nonempty frame)
    rw [due_eq_image active exact positive] at handsOver
    exact ⟨handsOver, stream.configuration.flatten_image _
      (List.ne_nil_of_length_pos (exact ▸ positive))⟩
  · intro other
    rw [beginWrite, if_pos other] at run
    obtain ⟨⟨lifecycle, same⟩, silent, _⟩ := run.of_finished
    cases same
    exact ⟨by rw [takenBytes, silent, List.flatten_nil], rfl⟩

private def padding : InputStream :=
  let layer : Layer := ⟨"edge", .hostToDevice, 3, 1⟩
  { layer
    configuration :=
      (InputConfiguration.ofParameters
        { maximumPayload := 10, syncEnabled := true, framesPerSync := 1, padsFrames := true }
        layer).toOption.get rfl
    lifecycle := { name := "edge", isActivated := true }
    timeout := .zero
    batchSize := 1 }

/-- A payload that is taken in two parts, the second said to be larger than it is, and one whose
wait is interrupted. -/
private def interruptedHandover : List Exchange :=
  let first : Bytes := [0x5A, 0x5A, 0xA5, 0xA5, 0, 0, 0, 0, 1, 2]
  [.reserve 10 (.ok .zero), .send first (.ok 4), .send (first.drop 4) (.ok 100),
    .reserve 10 (.ok ⟨5⟩), .signal .abort, .rest ⟨5⟩ (.error .aborted)]

theorem write_hands_over_first_payload :
    ∃ next,
      padding.lifecycle.state = .active ∧ 0 < padding.layer.frameSize ∧
        Writes (padding.beginWrite [1, 2, 3]).value interruptedHandover
          (next, .finished (.error .aborted)) ∧
        takenBytes interruptedHandover = [0x5A, 0x5A, 0xA5, 0xA5, 0, 0, 0, 0, 1, 2] ∧
        HandsOver (padding.configuration.image padding.nextMarker? [1, 2, 3]) interruptedHandover
          (.finished (.error .aborted)) := by
  have active : padding.lifecycle.state = .active := by decide
  have positive : 0 < padding.layer.frameSize := by decide
  have exact : ([1, 2, 3] : Bytes).length = padding.layer.frameSize := by decide
  have image : padding.configuration.image padding.nextMarker? [1, 2, 3] =
      [[0x5A, 0x5A, 0xA5, 0xA5, 0, 0, 0, 0, 1, 2], [3, 0, 0, 0, 0, 0, 0, 0, 0, 0]] := by rfl
  obtain ⟨next, run⟩ : ∃ next, Writes (padding.beginWrite [1, 2, 3]).value interruptedHandover
      (next, .finished (.error .aborted)) := by
    rw [beginWrite_due active exact, due_eq_image active exact positive, image]
    exact ⟨_, .reserve (.send (.send (.reserve (.signal (.rest .done)))))⟩
  have ⟨handsOver, _⟩ := (write_hands_over_image active positive run).1 exact
  exact ⟨next, active, positive, run, by rfl, handsOver⟩

end InputStream

end FrameStream
