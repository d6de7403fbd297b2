import FrameStream.Proofs.GuardedReads
import FrameStream.Proofs.GuardedWrites

namespace FrameStream

namespace FrameWriter

/-- A writer goes through all of a list of incidents. -/
theorem follow_runs {writer : FrameWriter} (within : writer.work.Within)
    (incidents : List InputIncident) :
    ∃ reached replies possible, writer.follow incidents = .ok (reached, replies) ∧
      possible.Sublist incidents ∧
      writer.stream.Runs (writer.work.task writer.stream.configuration) possible replies
        reached.stream (reached.work.task reached.stream.configuration) := by
  induction incidents generalizing writer with
  | nil => exact ⟨writer, [], [], rfl, .slnil, .done⟩
  | cons incident incidents ih =>
    -- An incident that can happen is a step of the run; another one is left out of it.
    rcases respond_or_pass writer incident with ⟨next, responds⟩ | passed
    · obtain ⟨after, step, stream_eq, task_eq, within⟩ :=
        respond_matches ⟨rfl, rfl, within⟩ responds
      obtain ⟨reached, replies, possible, followed, sublist, run⟩ := ih within
      rw [stream_eq, task_eq] at run
      refine ⟨reached, _, _, ?_, sublist.cons_cons incident, .step responds run⟩
      simp only [follow, step, bind, Except.bind, followed]
      rfl
    · obtain ⟨reached, replies, possible, followed, sublist, run⟩ := ih within
      refine ⟨reached, replies, possible, ?_, sublist.cons incident, run⟩
      simp only [follow, passed, bind, Except.bind, followed]
      rfl

end FrameWriter

namespace ReaderIncident

/-- The incidents with all of a scratch buffer that they write to from the front. What does not fit
is not written. -/
def inScratch (scratch : Bytes) : List ReaderIncident → List ReaderIncident
  | [] => []
  | .receive arrived report :: incidents =>
    let scratch := arrived.take scratch.length ++ scratch.drop arrived.length
    .receive scratch report :: inScratch scratch incidents
  | incident :: incidents => incident :: inScratch scratch incidents

theorem whole_of_inScratch {scratch : Bytes} {incidents : List ReaderIncident}
    (whole : scratch.length = maximum) :
    ∀ incident ∈ inScratch scratch incidents, incident.Whole maximum := by
  induction incidents generalizing scratch with
  | nil => exact nofun
  | cons incident incidents ih =>
    cases incident with
    | receive arrived report =>
      have same :
          (arrived.take scratch.length ++ scratch.drop arrived.length).length = maximum := by
        rw [List.length_append, List.length_take, List.length_drop]
        omega
      exact List.forall_mem_cons.mpr ⟨same, ih same⟩
    | _ => exact List.forall_mem_cons.mpr ⟨trivial, ih whole⟩

theorem honest_of_inScratch {scratch : Bytes} {incidents : List ReaderIncident}
    (honest : ∀ incident ∈ incidents, incident.Honest maximum) :
    ∀ incident ∈ inScratch scratch incidents, incident.Honest maximum := by
  induction incidents generalizing scratch with
  | nil => exact nofun
  | cons incident incidents ih =>
    have ⟨first, later⟩ := List.forall_mem_cons.mp honest
    cases incident <;> exact List.forall_mem_cons.mpr ⟨first, ih later⟩

end ReaderIncident

namespace FrameReader

/-- A reader goes through all of a list of incidents, if the transport keeps to its contract. -/
theorem follow_runs {reader : FrameReader} {incidents : List ReaderIncident}
    (fits : reader.work.Fits reader.stream.layer.frameSize)
    (steady : reader.stream.Steady reader.work.task)
    (honest : ∀ incident ∈ incidents, incident.Honest reader.stream.configuration.maximumPayload)
    (whole : ∀ incident ∈ incidents, incident.Whole reader.stream.configuration.maximumPayload) :
    ∃ reached replies possible taken, reader.follow incidents = .ok (reached, replies) ∧
      possible.Sublist (incidents.map ReaderIncident.told) ∧
      reader.stream.Runs reader.work.task possible taken replies reached.stream
        reached.work.task := by
  induction incidents generalizing reader with
  | nil => exact ⟨reader, [], [], [], rfl, .slnil, .done⟩
  | cons incident incidents ih =>
    have ⟨first, honest⟩ := List.forall_mem_cons.mp honest
    have ⟨full, whole⟩ := List.forall_mem_cons.mp whole
    rcases respond_or_pass reader incident with ⟨next, responds⟩ | passed
    · have same : next.stream.configuration = reader.stream.configuration :=
        congrArg (·.2.1) responds.identity_eq
      obtain ⟨after, step, stream_eq, task_eq, fits⟩ :=
        respond_matches ⟨rfl, rfl, fits⟩ steady first full responds
      have steady := steady.respond responds
      rw [← same, ← stream_eq] at honest whole
      rw [← stream_eq] at fits
      rw [← stream_eq, ← task_eq] at steady
      obtain ⟨reached, replies, possible, taken, followed, sublist, run⟩ :=
        ih fits steady honest whole
      rw [stream_eq, task_eq] at run
      refine ⟨reached, _, _, _, ?_, sublist.cons_cons incident.told, .step responds run⟩
      simp only [follow, step, bind, Except.bind, followed]
      rfl
    · obtain ⟨reached, replies, possible, taken, followed, sublist, run⟩ :=
        ih fits steady honest whole
      refine ⟨reached, replies, possible, taken, ?_, sublist.cons incident.told, run⟩
      simp only [follow, passed, bind, Except.bind, followed]
      rfl

end FrameReader

/-- No step of a stream that was made stops, whatever its owner, its limiter, its device, its
transport and other tasks do: only a transport that reports more than a scratch buffer holds is
excluded. -/
theorem operations_never_stop :
    (∀ layer configuration pathLimit limiter made timeout incidents,
      InputStream.create layer configuration pathLimit limiter = .ok made →
      ∃ reached replies possible,
        FrameWriter.follow { stream := { made.value with timeout } } incidents =
          .ok (reached, replies) ∧
        possible.Sublist incidents ∧
        InputStream.Runs { made.value with timeout } .idle possible replies reached.stream
          (reached.work.task reached.stream.configuration)) ∧
    ∀ layer (configuration : OutputConfiguration) pathLimit made timeout incidents,
      OutputStream.create layer configuration pathLimit = .ok made →
      (∀ incident ∈ incidents, incident.Honest configuration.maximumPayload) →
      ∃ reached replies possible taken,
        FrameReader.follow { stream := { made.value with timeout } }
          (ReaderIncident.inScratch (List.replicate configuration.maximumPayload 0) incidents) =
            .ok (reached, replies) ∧
        possible.Sublist ((ReaderIncident.inScratch
          (List.replicate configuration.maximumPayload 0) incidents).map ReaderIncident.told) ∧
        OutputStream.Runs { made.value with timeout } .idle possible taken replies reached.stream
          reached.work.task := by
  refine ⟨fun _ _ _ _ made timeout incidents _ => ?_,
    fun layer configuration _ made timeout incidents created honest => ?_⟩
  · exact FrameWriter.follow_runs (by trivial) incidents
  · have same : made.value.configuration = configuration := by
      rw [OutputStream.create_value created]
    subst same
    exact FrameReader.follow_runs trivial (OutputStream.create_steady created timeout)
      (ReaderIncident.honest_of_inScratch honest)
      (ReaderIncident.whole_of_inScratch List.length_replicate)

private def narrowInput : InputConfiguration :=
  (InputConfiguration.ofParameters { maximumPayload := 12, syncEnabled := true }
    ⟨"edge", .hostToDevice, 6, 1⟩).toOption.get rfl

private def narrowOutput : OutputConfiguration :=
  (OutputConfiguration.ofParameters { maximumPayload := 12, syncEnabled := true }
    ⟨"edge", .deviceToHost, 6, 1⟩).toOption.get rfl

/-- A frame that is written in two payloads, the first of which the transport takes in two parts,
and says that it took more of the second than there was. -/
private def writeInParts : List InputIncident :=
  [.activate 0 false, .settle true, .write [1, 2, 3, 4, 5, 6],
    .meet (.reserve 12 (.ok .zero)),
    .meet (.send (SyncMarker.encode ⟨0⟩ 8 ++ [1, 2, 3, 4]) (.ok 9)),
    .meet (.send [2, 3, 4] (.ok 3)),
    .meet (.reserve 2 (.ok .zero)), .meet (.send [5, 6] (.ok 100))]

private def readInParts : List ReaderIncident :=
  [.activate 0 false, .settle true, .read [0, 0, 0, 0, 0, 0],
    .receive (SyncMarker.encode ⟨0⟩ 8 ++ [1, 2, 3, 4]) (.ok 12), .receive [5, 6] (.ok 12)]

private theorem readInParts_honest : ∀ incident ∈ readInParts, incident.Honest 12 := by
  intro incident member
  simp only [readInParts, List.mem_cons, List.not_mem_nil, or_false] at member
  rcases member with rfl | rfl | rfl | rfl | rfl
  · trivial
  · trivial
  · trivial
  · rintro _ ⟨⟩
    exact Nat.le_refl 12
  · rintro _ ⟨⟩
    exact Nat.le_refl 12

/-- One frame each way. -/
theorem operations_never_stop_of_one_frame :
    (∃ made reached possible,
      InputStream.create ⟨"edge", .hostToDevice, 6, 1⟩ narrowInput 12 .unlimited = .ok made ∧
        FrameWriter.follow { stream := { made.value with timeout := .zero } } writeInParts =
          .ok (reached, [.ok .done, .ok .done]) ∧
        InputStream.Runs { made.value with timeout := .zero } .idle possible
          [.ok .done, .ok .done] reached.stream .idle) ∧
    ∃ made reached possible taken,
      OutputStream.create ⟨"edge", .deviceToHost, 6, 1⟩ narrowOutput 12 = .ok made ∧
        (∀ incident ∈ readInParts, incident.Honest narrowOutput.maximumPayload) ∧
        FrameReader.follow { stream := { made.value with timeout := .zero } }
          (ReaderIncident.inScratch (List.replicate 12 0) readInParts) =
            .ok (reached, [.ok .done, .ok (.frame [1, 2, 3, 4, 5, 6])]) ∧
        OutputStream.Runs { made.value with timeout := .zero } .idle possible taken
          [.ok .done, .ok (.frame [1, 2, 3, 4, 5, 6])] reached.stream .idle := by
  obtain ⟨input, output⟩ := operations_never_stop
  constructor
  · obtain ⟨reached, replies, possible, followed, _, run⟩ :=
      input ⟨"edge", .hostToDevice, 6, 1⟩ narrowInput 12 .unlimited _ .zero writeInParts rfl
    obtain ⟨rfl, rfl⟩ : _ ∧ _ := Prod.mk.inj (Except.ok.inj followed.symm)
    exact ⟨_, _, possible, rfl, rfl, run⟩
  · obtain ⟨reached, replies, possible, taken, followed, _, run⟩ :=
      output ⟨"edge", .deviceToHost, 6, 1⟩ narrowOutput 12 _ .zero readInParts rfl
        readInParts_honest
    obtain ⟨rfl, rfl⟩ : _ ∧ _ := Prod.mk.inj (Except.ok.inj followed.symm)
    exact ⟨_, _, possible, taken, rfl, readInParts_honest, rfl, run⟩

end FrameStream
