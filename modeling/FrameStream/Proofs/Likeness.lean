import FrameStream.Proofs.Variation
import FrameStream.Session

namespace FrameStream

namespace Process

variable {World Activity Happening Result : Type}
  {process : Process World Activity Happening Result} {alike : World → World → Prop}
  (occurs : ∀ happening world other, alike world other →
    alike (process.occur world happening) (process.occur other happening))
include occurs

theorem occurs_alike {world other : World} (start : alike world other)
    (due : List (Nat × Happening)) :
    alike (due.foldl (fun world entry => process.occur world entry.2) world)
      (due.foldl (fun world entry => process.occur world entry.2) other) := by
  induction due generalizing world other with
  | nil => exact start
  | cons entry due ih => exact ih (occurs entry.2 world other start)

/-- Worlds that no look tells apart, and that nothing that happens tells apart, stay so. -/
theorem run_alike
    (looks : ∀ now world other activity, alike world other →
      alike (process.look now world activity).1 (process.look now other activity).1 ∧
        (process.look now other activity).2 = (process.look now world activity).2)
    {world other : World} (start : alike world other) (count now : Nat)
    (schedule : List (Nat × Happening)) (activity : Activity) :
    let first := process.run count now schedule world activity
    let second := process.run count now schedule other activity
    alike first.world second.world ∧ second.now = first.now ∧ second.result = first.result := by
  induction count generalizing now schedule world other activity with
  | zero => exact ⟨start, rfl, rfl⟩
  | succ count ih =>
    obtain ⟨next, found⟩ := looks now world other activity start
    rw [run, run]
    generalize process.look now world activity = looked at next found
    generalize process.look now other activity = glanced at next found
    obtain ⟨world, find⟩ := looked
    obtain ⟨other, _⟩ := glanced
    cases found
    cases find with
    | finished result => exact ⟨next, rfl, rfl⟩
    | ready activity => exact ih next now schedule activity
    | blocked activity wakeUp =>
      dsimp only
      generalize wakeUp.filter _ = first
      generalize schedule.head?.map _ = coming
      cases first with
      | some wake => exact ih next wake schedule activity
      | none =>
        cases coming with
        | none => exact ⟨next, rfl, rfl⟩
        | some time => exact ih (occurs_alike occurs next _) _ _ activity

end Process

namespace InputSide

variable {quantity : Type} {sized : Bool} {rebatch : UInt16 → UInt16}

/-- Sides that may differ in the batch sizes of their streams, unless that is ruled out. -/
inductive Like (sized : Bool) (side : InputSide quantity) : InputSide quantity → Prop where
  | intro (rebatch : UInt16 → UInt16) : (sized = true → rebatch = id) →
      Like sized side { side with stream := side.stream.varied rebatch }

theorem Like.refl (side : InputSide quantity) : Like sized side side := .intro id fun _ => rfl

theorem Like.trans {side other third : InputSide quantity} (first : Like sized side other)
    (second : Like sized other third) : Like sized side third := by
  obtain ⟨rebatch, allowed⟩ := first
  obtain ⟨again, permitted⟩ := second
  refine .intro (again ∘ rebatch) fun is => ?_
  rw [allowed is, permitted is]
  rfl

theorem Like.rebatched (side : InputSide quantity) (batchSize : UInt16) :
    Like false side { side with stream := { side.stream with batchSize } } :=
  .intro (fun _ => batchSize) fun is => absurd is Bool.false_ne_true

structure Agree (sized : Bool) (looked other : Looked quantity) : Prop where
  shared_eq : other.value.1 = looked.value.1
  like : Like sized looked.value.2.1 other.value.2.1
  found_eq : other.value.2.2 = looked.value.2.2

theorem Agree.refl (looked : Looked quantity) : Agree sized looked looked :=
  ⟨rfl, .refl _, rfl⟩

variable (allowed : sized = true → rebatch = id)
include allowed

theorem follow_agree (shared : Shared) (input : InputSide quantity) (stream : InputStream)
    {step other : InputStream.WriteStep}
    (same : other.value = step.value.map (InputStream.varied rebatch) id) :
    Agree sized (follow shared input step) (follow shared { input with stream } other) := by
  obtain ⟨⟨next, progress⟩, events⟩ := step
  obtain ⟨state, others⟩ := other
  cases same
  exact ⟨rfl, .intro rebatch allowed, rfl⟩

theorem stay_agree (shared : Shared) (input : InputSide quantity) (found : InputLook)
    (events others : List Event) :
    Agree sized ⟨(shared, input, found), events⟩
      ⟨(shared, { input with stream := input.stream.varied rebatch }, found), others⟩ :=
  ⟨rfl, .intro rebatch allowed, rfl⟩

variable (now : Nat) (shared : Shared) (input : InputSide quantity)

theorem lookActivating_agree (batchSize : UInt16) (resume : Bool) (deadline : Nat) :
    Agree sized (lookActivating now shared input batchSize resume deadline)
      (lookActivating now shared { input with stream := input.stream.varied rebatch } batchSize
        resume deadline) := by
  unfold lookActivating
  rw [InputStream.completeActivation_varied]
  split
  · split
    · exact stay_agree allowed shared input _ _ _
    · exact .refl _
  · split <;> exact stay_agree allowed shared input _ _ _

theorem lookResting_agree (wait : Duration) (payload : Bytes) (later : List Bytes) (call : Call) :
    Agree sized (lookResting now shared input wait payload later call)
      (lookResting now shared { input with stream := input.stream.varied rebatch } wait payload
        later call) := by
  unfold lookResting
  dsimp only [InputStream.varied_lifecycle]
  cases input.stream.lifecycle.ensureActive with
  | error error =>
    exact follow_agree allowed shared input _ (input.stream.rested_varied rebatch payload later _)
  | ok _ =>
    dsimp only
    split
    · split
      · exact follow_agree allowed shared input _
          (input.stream.rested_varied rebatch payload later _)
      · exact stay_agree allowed shared input _ _ _
    · exact stay_agree allowed shared input _ _ _

theorem lookSending_agree (payload : Bytes) (sent : Nat) (later : List Bytes) (call : Call) :
    Agree sized (lookSending now shared input payload sent later call)
      (lookSending now shared { input with stream := input.stream.varied rebatch } payload sent
        later call) := by
  unfold lookSending
  dsimp only [InputStream.varied_lifecycle, InputStream.varied_timeout]
  have delivered (outcome : Except StreamError Nat) :=
    input.stream.delivered_varied rebatch payload sent later outcome
  cases input.stream.lifecycle.ensureActive with
  | error error => exact follow_agree allowed shared input _ (delivered _)
  | ok _ =>
    dsimp only
    generalize input.port.send shared.channel now input.stream.timeout (payload.drop sent) call =
      result
    obtain ⟨port, channel, outcome⟩ := result
    dsimp only
    split
    · exact follow_agree allowed _ { input with port } _ (delivered _)
    · exact stay_agree allowed _ { input with port } _ _ _

theorem look_agree [TokenQuantity quantity] (activity : InputActivity) :
    Agree sized (input.look now shared activity)
      (look now shared { input with stream := input.stream.varied rebatch } activity) := by
  cases activity with
  | activating batchSize resume deadline =>
    exact lookActivating_agree allowed now shared input batchSize resume deadline
  | writing point call =>
    cases point with
    | asking payload later =>
      exact follow_agree allowed shared
        { input with limiter := (input.limiter.reserve (instantOf now) payload.length).1 } _
        (input.stream.granted_varied rebatch payload later _)
    | resting wait payload later =>
      exact lookResting_agree allowed now shared input wait payload later call
    | sending payload sent later =>
      exact lookSending_agree allowed now shared input payload sent later call

theorem activate_agree (requested : UInt16) (resume : Bool) :
    Agree sized (input.activate now shared requested resume)
      (activate now shared { input with stream := input.stream.varied rebatch } requested
        resume) := by
  unfold activate
  dsimp only [InputStream.varied_beginActivation]
  cases input.stream.beginActivation requested with
  | error | ok => exact stay_agree allowed shared input _ _ _

theorem write_agree (frame : Bytes) :
    Agree sized (input.write shared frame)
      (write shared { input with stream := input.stream.varied rebatch } frame) :=
  follow_agree allowed shared input _ (input.stream.beginWrite_varied rebatch frame)

end InputSide

namespace OutputSide

variable {sized : Bool} {excess : OutputStatistics} {rebatch : UInt16 → UInt16}

/-- Sides that may differ in the batch sizes of their streams, unless that is ruled out, and of
which the other has counted more. -/
inductive Like (sized : Bool) (excess : OutputStatistics) (side : OutputSide) :
    OutputSide → Prop where
  | intro (rebatch : UInt16 → UInt16) : (sized = true → rebatch = id) →
      Like sized excess side { side with stream := side.stream.varied rebatch excess }

theorem Like.refl (side : OutputSide) : Like sized {} side side := by
  have same : side.stream.varied id {} = side.stream := by
    rw [OutputStream.varied, OutputStatistics.empty_plus]
    rfl
  have like : Like sized {} side { side with stream := side.stream.varied id {} } :=
    .intro id fun _ => rfl
  rwa [same] at like

theorem Like.trans {side other third : OutputSide} (first : Like sized {} side other)
    (second : Like sized {} other third) : Like sized {} side third := by
  obtain ⟨rebatch, allowed⟩ := first
  obtain ⟨again, permitted⟩ := second
  have same : (side.stream.varied rebatch {}).varied again {} =
      side.stream.varied (again ∘ rebatch) {} := by
    simp only [OutputStream.varied, OutputStatistics.empty_plus, Function.comp]
  dsimp only
  rw [same]
  refine .intro (again ∘ rebatch) fun is => ?_
  rw [allowed is, permitted is]
  rfl

theorem Like.rebatched (side : OutputSide) (batchSize : UInt16) :
    Like false {} side { side with stream := { side.stream with batchSize } } := by
  have like : Like false {} side
      { side with stream := side.stream.varied (fun _ => batchSize) {} } :=
    .intro _ fun is => absurd is Bool.false_ne_true
  rwa [OutputStream.varied, OutputStatistics.empty_plus] at like

structure Agree (sized : Bool) (excess : OutputStatistics) (looked other : Looked) : Prop where
  shared_eq : other.value.1 = looked.value.1
  like : Like sized excess looked.value.2.1 other.value.2.1
  found_eq : other.value.2.2 = looked.value.2.2

variable (allowed : sized = true → rebatch = id)
include allowed

theorem stay_agree (shared : Shared) (output : OutputSide) (found : OutputLook)
    (events others : List Event) :
    Agree sized excess ⟨(shared, output, found), events⟩
      ⟨(shared, { output with stream := output.stream.varied rebatch excess }, found), others⟩ :=
  ⟨rfl, .intro rebatch allowed, rfl⟩

theorem follow_agree (shared : Shared) (output : OutputSide) (stream : OutputStream)
    {step other : OutputStream.ReadStep}
    (same : other.value = step.value.map (OutputStream.varied rebatch excess) id) :
    Agree sized excess (follow shared output step)
      (follow shared { output with stream } other) := by
  obtain ⟨⟨next, progress⟩, events⟩ := step
  obtain ⟨state, others⟩ := other
  cases same
  exact stay_agree allowed shared { output with stream := next } _ _ _

variable (now : Nat) (shared : Shared) (output : OutputSide)

theorem lookActivating_agree (batchSize : UInt16) (resume : Bool) (deadline : Nat) :
    Agree sized excess (lookActivating now shared output batchSize resume deadline)
      (lookActivating now shared { output with stream := output.stream.varied rebatch excess }
        batchSize resume deadline) := by
  unfold lookActivating
  rw [OutputStream.completeActivation_varied]
  split
  · cases output.stream.completeActivation batchSize resume with
    | error error => exact stay_agree allowed shared output _ _ _
    | ok activated =>
      exact stay_agree (fun _ => rfl) shared { output with stream := activated.value } _ _ _
  · split <;> exact stay_agree allowed shared output _ _ _

omit allowed in
theorem receive_varied (call : Call) :
    receive now shared { output with stream := output.stream.varied rebatch excess } call =
      (let (shared, next, outcome) := receive now shared output call
      (shared, { next with stream := next.stream.varied rebatch excess }, outcome)) := by
  unfold receive
  dsimp only [OutputStream.varied_lifecycle]
  cases output.stream.lifecycle.ensureActive with
  | error | ok => rfl

theorem lookReading_agree (point : ReadPoint) (call : Call) :
    Agree sized excess (lookReading now shared output point call)
      (lookReading now shared { output with stream := output.stream.varied rebatch excess } point
        call) := by
  unfold lookReading
  rw [receive_varied]
  generalize receive now shared output call = received
  obtain ⟨shared, next, outcome⟩ := received
  cases outcome with
  | answered answer =>
    exact follow_agree allowed shared next _
      (next.stream.received_varied rebatch excess point answer)
  | pending call => exact stay_agree allowed shared next _ _ _

theorem lookAligning_agree (call : Call) :
    Agree sized excess (lookAligning now shared output call)
      (lookAligning now shared { output with stream := output.stream.varied rebatch excess }
        call) := by
  unfold lookAligning
  rw [receive_varied]
  generalize receive now shared output call = received
  obtain ⟨shared, next, outcome⟩ := received
  cases outcome with
  | answered answer =>
    cases answer with
    | error error => exact stay_agree allowed shared next _ _ _
    | ok payload =>
      have same := next.stream.align_varied rebatch excess payload
      dsimp only
      generalize (next.stream.varied rebatch excess).align payload = other at same ⊢
      generalize next.stream.align payload = aligned at same ⊢
      obtain ⟨⟨stream, index?⟩, events⟩ := aligned
      obtain ⟨state, others⟩ := other
      cases same
      exact stay_agree allowed shared { next with stream } _ _ _
  | pending call => exact stay_agree allowed shared next _ _ _

theorem look_agree (activity : OutputActivity) :
    Agree sized excess (output.look now shared activity)
      (look now shared { output with stream := output.stream.varied rebatch excess } activity) := by
  cases activity with
  | activating batchSize resume deadline =>
    exact lookActivating_agree allowed now shared output batchSize resume deadline
  | reading point call => exact lookReading_agree allowed now shared output point call
  | aligning call => exact lookAligning_agree allowed now shared output call

theorem activate_agree (requested : UInt16) (resume : Bool) :
    Agree sized excess (output.activate now shared requested resume)
      (activate now shared { output with stream := output.stream.varied rebatch excess } requested
        resume) := by
  unfold activate
  dsimp only [OutputStream.varied_beginActivation]
  cases output.stream.beginActivation requested with
  | error | ok => exact stay_agree allowed shared output _ _ _

theorem read_agree (size : Nat) :
    Agree sized excess (output.read shared size)
      (read shared { output with stream := output.stream.varied rebatch excess } size) :=
  follow_agree allowed shared output _ (output.stream.beginRead_varied rebatch excess size)

theorem align_agree :
    Agree sized excess (output.align shared)
      (align shared { output with stream := output.stream.varied rebatch excess }) := by
  unfold align
  rw [OutputStream.beginAlignment_varied]
  cases output.stream.beginAlignment with
  | error error => exact stay_agree allowed shared output _ _ _
  | ok started => exact stay_agree allowed shared { output with stream := started.value } _ _ _

end OutputSide

namespace Session

variable {sized : Bool} {excess : OutputStatistics}

/-- Sessions whose streams may differ in their batch sizes, unless that is ruled out, and of which
the other has counted more. What was reported does not matter. -/
structure Like (sized : Bool) (excess : OutputStatistics) (session other : Session) : Prop where
  shared_eq : other.shared = session.shared
  shaper_eq : other.shaper = session.shaper
  registry_eq : other.registry = session.registry
  input : Option.Rel (InputSide.Like sized) session.input? other.input?
  output : Option.Rel (OutputSide.Like sized excess) session.output? other.output?

theorem Like.refl (session : Session) : Like sized {} session session := by
  refine ⟨rfl, rfl, rfl, ?_, ?_⟩
  · cases session.input? with
    | none => exact .none
    | some side => exact .some (.refl side)
  · cases session.output? with
    | none => exact .none
    | some side => exact .some (.refl side)

theorem Like.trans {session other third : Session} (first : Like sized {} session other)
    (second : Like sized {} other third) : Like sized {} session third where
  shared_eq := second.shared_eq.trans first.shared_eq
  shaper_eq := second.shaper_eq.trans first.shaper_eq
  registry_eq := second.registry_eq.trans first.registry_eq
  input := by
    have near := first.input
    have far := second.input
    generalize session.input? = one at near ⊢
    generalize other.input? = two at near far
    generalize third.input? = three at far ⊢
    cases near with
    | none => exact far
    | some near =>
      cases far with
      | some far => exact .some (near.trans far)
  output := by
    have near := first.output
    have far := second.output
    generalize session.output? = one at near ⊢
    generalize other.output? = two at near far
    generalize third.output? = three at far ⊢
    cases near with
    | none => exact far
    | some near =>
      cases far with
      | some far => exact .some (near.trans far)

structure Agree (sized : Bool) (excess : OutputStatistics) (looked other : Looked) : Prop where
  like : Like sized excess looked.1 other.1
  found_eq : other.2 = looked.2

variable {session other : Session} (alike : Like sized excess session other)
include alike

theorem storeInput_agree {looked glanced : InputSide.Looked Float}
    (agree : InputSide.Agree sized looked glanced) :
    Agree sized excess (session.storeInput looked) (other.storeInput glanced) := by
  obtain ⟨⟨shared, input, found⟩, events⟩ := looked
  obtain ⟨⟨_, next, _⟩, others⟩ := glanced
  obtain ⟨rfl, like, rfl⟩ := agree
  exact ⟨⟨rfl, alike.shaper_eq, alike.registry_eq, .some like, alike.output⟩, rfl⟩

theorem storeOutput_agree {looked glanced : OutputSide.Looked}
    (agree : OutputSide.Agree sized excess looked glanced) :
    Agree sized excess (session.storeOutput looked) (other.storeOutput glanced) := by
  obtain ⟨⟨shared, output, found⟩, events⟩ := looked
  obtain ⟨⟨_, next, _⟩, others⟩ := glanced
  obtain ⟨rfl, like, rfl⟩ := agree
  exact ⟨⟨rfl, alike.shaper_eq, alike.registry_eq, alike.input, .some like⟩, rfl⟩

theorem onInput_agree {operation another : InputSide Float → InputSide.Looked Float}
    (agree : ∀ (input : InputSide Float) (rebatch : UInt16 → UInt16),
      (sized = true → rebatch = id) → InputSide.Agree sized (operation input)
        (another { input with stream := input.stream.varied rebatch })) :
    Agree sized excess (session.onInput operation) (other.onInput another) := by
  have input := alike.input
  unfold onInput
  generalize session.input? = first at input ⊢
  generalize other.input? = second at input ⊢
  cases input with
  | none => exact ⟨alike, rfl⟩
  | some like =>
    obtain ⟨rebatch, allowed⟩ := like
    exact storeInput_agree alike (agree _ rebatch allowed)

theorem onOutput_agree {operation another : OutputSide → OutputSide.Looked}
    (agree : ∀ (output : OutputSide) (rebatch : UInt16 → UInt16), (sized = true → rebatch = id) →
      OutputSide.Agree sized excess (operation output)
        (another { output with stream := output.stream.varied rebatch excess })) :
    Agree sized excess (session.onOutput operation) (other.onOutput another) := by
  have output := alike.output
  unfold onOutput
  generalize session.output? = first at output ⊢
  generalize other.output? = second at output ⊢
  cases output with
  | none => exact ⟨alike, rfl⟩
  | some like =>
    obtain ⟨rebatch, allowed⟩ := like
    exact storeOutput_agree alike (agree _ rebatch allowed)

theorem look_agree (now : Nat) (activity : Activity) :
    Agree sized excess (session.look now activity) (other.look now activity) := by
  cases activity with
  | input activity =>
    refine onInput_agree alike fun input rebatch allowed => ?_
    rw [alike.shared_eq]
    exact InputSide.look_agree allowed now session.shared input activity
  | output activity =>
    refine onOutput_agree alike fun output rebatch allowed => ?_
    rw [alike.shared_eq]
    exact OutputSide.look_agree allowed now session.shared output activity

theorem occur_like (happening : Happening) :
    Like sized excess (session.occur happening) (other.occur happening) := by
  obtain ⟨shared, shaper, registry, input?, output?, events⟩ := session
  obtain ⟨_, _, _, input?', output?', events'⟩ := other
  obtain ⟨rfl, rfl, rfl, input, output⟩ := alike
  dsimp only at input output
  cases happening with
  | readiness isReady => exact ⟨rfl, rfl, rfl, input, output⟩
  | arrival datagram =>
    cases output with
    | none => exact ⟨rfl, rfl, rfl, input, .none⟩
    | some like =>
      obtain ⟨rebatch, allowed⟩ := like
      exact ⟨rfl, rfl, rfl, input, .some (.intro rebatch allowed)⟩
  | signal role request =>
    cases role with
    | input =>
      cases input with
      | none => exact ⟨rfl, rfl, rfl, .none, output⟩
      | some like =>
        obtain ⟨rebatch, allowed⟩ := like
        exact ⟨rfl, rfl, rfl, .some (.intro rebatch allowed), output⟩
    | output =>
      cases output with
      | none => exact ⟨rfl, rfl, rfl, input, .none⟩
      | some like =>
        obtain ⟨rebatch, allowed⟩ := like
        exact ⟨rfl, rfl, rfl, input, .some (.intro rebatch allowed)⟩

omit alike in
/-- Operations that start alike take the same time, and come to the same result. -/
theorem follow_alike {looked glanced : Looked} (agree : Agree sized excess looked glanced)
    (now : Nat) (schedule : Schedule) :
    let first := follow now schedule looked
    let second := follow now schedule glanced
    Like sized excess first.world second.world ∧ second.now = first.now ∧
      second.result = first.result := by
  obtain ⟨session, found⟩ := looked
  obtain ⟨other, _⟩ := glanced
  obtain ⟨alike, same⟩ := agree
  cases same
  have run (activity : Activity) :
      let first := process.run looksLimit now schedule session activity
      let second := process.run looksLimit now schedule other activity
      Like sized excess first.world second.world ∧ second.now = first.now ∧
        second.result = first.result :=
    @Process.run_alike _ _ _ _ process (Like sized excess)
      (fun happening _ _ alike => occur_like alike happening)
      (fun now _ _ activity alike =>
        have agree := look_agree alike now activity
        ⟨agree.like, agree.found_eq⟩)
      session other alike looksLimit now schedule activity
  cases found with
  | finished result => exact ⟨alike, rfl, rfl⟩
  | ready activity => exact run activity
  | blocked activity wakeUp => exact run activity

end Session

end FrameStream
