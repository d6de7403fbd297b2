import FrameStream.Proofs.Advance

namespace FrameStream

namespace OutputStream

variable {stream : OutputStream} {junk queue : List Bytes}

/-- What receives bring from a queue that nobody adds to. -/
def queued (stream : OutputStream) (queue : List Bytes) : List Receipt :=
  queue.map .ok ++ [.error (.timeout "receive" stream.timeout)]

theorem readOn_passing (active : stream.lifecycle.state = .active)
    (within : ∀ payload ∈ junk, payload.length ≤ stream.configuration.maximumPayload)
    (plain : ∀ payload ∈ junk,
      SyncMarker.decode? payload stream.configuration.markerSize = none)
    (later : List Receipt) :
    readOn (stream, .waiting .hunting) (junk.map .ok ++ later) =
      (readOn (stream.passing junk.length, .waiting .hunting) later).after junk := by
  induction junk generalizing stream with
  | nil => rfl
  | cons payload junk ih =>
    have ⟨fits, within⟩ := List.forall_mem_cons.mp within
    have ⟨unmarked, plain⟩ := List.forall_mem_cons.mp plain
    have resting : (stream.passing 1).lifecycle.state = .active := active
    rw [List.map_cons, List.cons_append, readOn_ok active, List.take_of_length_le fits,
      received_passing unmarked, ih resting within plain, passing_passing, Advance.after_after,
      List.singleton_append, List.length_cons, Nat.add_comm]

/-- From a marker on, a hunt reads the frame behind it. -/
theorem readOn_adopts (active : stream.lifecycle.state = .active) (empty : stream.leftover = [])
    (fits : opening.length ≤ stream.configuration.maximumPayload)
    (within : ∀ payload ∈ rest, payload.length ≤ stream.configuration.maximumPayload)
    (decoded : SyncMarker.decode? opening stream.configuration.markerSize = some marker)
    (opens : opening.drop stream.configuration.markerSize = data)
    (enough : stream.layer.frameSize ≤ (data ++ rest.flatten).length) (later : List Receipt) :
    ∃ count, Shortest stream.layer.frameSize data rest count ∧
      readOn (stream, .waiting .hunting) (.ok opening :: (rest.map .ok ++ later)) =
        { stream := stream.adopting marker.index
            ((data ++ (rest.take count).flatten).drop stream.layer.frameSize)
          taken := opening :: rest.take count
          result? := some (.ok ((data ++ rest.flatten).take stream.layer.frameSize))
          remaining := (rest.drop count).map .ok ++ later } := by
  have resting : (stream.adopting marker.index data).lifecycle.state = .active := active
  have gathers : Gathers (stream.adopting marker.index data) data true
      ((stream.adopting marker.index data).beginFrame true).value :=
    gathers_adopted _
  have uncut : (stream.adopting marker.index data).cut rest = rest := cut_of_within within
  rw [← uncut] at enough
  obtain ⟨count, shortest, read⟩ := readOn_completes resting gathers enough later
  rw [uncut] at shortest read
  refine ⟨count, shortest, ?_⟩
  rw [readOn_ok active, List.take_of_length_le fits, received_adopting empty decoded, opens, read]
  rfl

/-- What a read of a stream that hunts makes of a queue. If it has a marker with enough data behind
it, the read takes no more than it needs for a frame, returns the first of the data and keeps what
is too much; if it has none, the read passes over all of it until the time is up. -/
theorem readOver_queued (reached : Reached stream .idle)
    (active : stream.lifecycle.state = .active) (hunting : stream.isHunting = true) :
    (∀ junk opening rest marker data,
        (∀ payload ∈ junk ++ opening :: rest,
          payload.length ≤ stream.configuration.maximumPayload) →
        (∀ payload ∈ junk,
          SyncMarker.decode? payload stream.configuration.markerSize = none) →
        SyncMarker.decode? opening stream.configuration.markerSize = some marker →
        opening.drop stream.configuration.markerSize = data →
        stream.layer.frameSize ≤ (data ++ rest.flatten).length →
        ∃ count, Shortest stream.layer.frameSize data rest count ∧
          stream.readOver (stream.queued (junk ++ opening :: rest)) =
            { stream := { stream with
                lastIndex := marker.index
                isHunting := false
                leftover := (data ++ (rest.take count).flatten).drop stream.layer.frameSize
                statistics := { stream.statistics with
                  resyncs := stream.statistics.resyncs + 1
                  discardedPayloads := stream.statistics.discardedPayloads + junk.length } }
              taken := junk ++ opening :: rest.take count
              result? := some (.ok ((data ++ rest.flatten).take stream.layer.frameSize))
              remaining := stream.queued (rest.drop count) }) ∧
      ∀ queue,
        (∀ payload ∈ queue, payload.length ≤ stream.configuration.maximumPayload) →
        (∀ payload ∈ queue,
          SyncMarker.decode? payload stream.configuration.markerSize = none) →
        stream.readOver (stream.queued queue) =
          { stream := { stream with
              statistics.discardedPayloads :=
                stream.statistics.discardedPayloads + queue.length }
            taken := queue
            result? := some (.error (.timeout "receive" stream.timeout))
            remaining := [] } := by
  have steady := reached.steady
  have enabled := steady.enabled hunting
  have empty := steady.empty hunting
  have begins (receipts : List Receipt) :
      stream.readOver receipts = readOn (stream, .waiting .hunting) receipts := by
    rw [readOver_hunting active hunting enabled, leaving_of_empty empty]
  constructor
  · intro junk opening rest marker data within plain decoded opens enough
    have ⟨before, after⟩ := List.forall_mem_append.mp within
    have ⟨fits, behind⟩ := List.forall_mem_cons.mp after
    have passed : (stream.passing junk.length).lifecycle.state = .active := active
    obtain ⟨count, shortest, read⟩ := readOn_adopts passed empty fits behind decoded opens enough
      [.error (.timeout "receive" stream.timeout)]
    refine ⟨count, shortest, ?_⟩
    rw [begins, queued, List.map_append, List.map_cons, List.append_assoc, List.cons_append,
      readOn_passing active before plain, read]
    rfl
  · intro queue within plain
    have passed : (stream.passing queue.length).lifecycle.state = .active := active
    rw [begins, queued, readOn_passing active within plain, readOn_error passed]
    simp [Advance.after, received, fail, passing]

/-- The frame behind a marker without data, which looks like a marker itself, and a queue without
any. -/
theorem readOver_queued_of_bare_marker :
    lostStream.lifecycle.state = .active ∧ lostStream.isHunting = true ∧
      (lostStream.readOver (lostStream.queued [[9], [], SyncMarker.encode ⟨3⟩ 8,
          SyncMarker.encode ⟨7⟩ 8, [1, 2, 3, 4, 5, 6], [7]]) =
        { stream := { lostStream with
            lastIndex := 3
            isHunting := false
            leftover := [5, 6]
            statistics := { resyncs := 1, discardedPayloads := 2, discardedFrames := 1 } }
          taken := [[9], [], SyncMarker.encode ⟨3⟩ 8, SyncMarker.encode ⟨7⟩ 8, [1, 2, 3, 4, 5, 6]]
          result? := some (.ok (SyncMarker.encode ⟨7⟩ 8 ++ [1, 2, 3, 4]))
          remaining := lostStream.queued [[7]] }) ∧
      (lostStream.readOver (lostStream.queued [[9], []])).result? =
        some (.error (.timeout "receive" defaultTimeout)) := by
  have ⟨found, missed⟩ := readOver_queued lostStream_reached rfl rfl
  obtain ⟨count, shortest, read⟩ := found [[9], []] (SyncMarker.encode ⟨3⟩ 8)
    [SyncMarker.encode ⟨7⟩ 8, [1, 2, 3, 4, 5, 6], [7]] ⟨3⟩ [] (by decide) (by decide) rfl rfl
    (by decide)
  have two : count = 2 := shortest.unique ⟨by decide, by decide, by decide⟩
  subst two
  exact ⟨rfl, rfl, read, by rw [missed [[9], []] (by decide) (by decide)]; rfl⟩

end OutputStream

end FrameStream
