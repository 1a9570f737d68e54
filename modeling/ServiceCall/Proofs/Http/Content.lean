import Mathlib.Data.List.ReduceOption
import ServiceCall.Proofs.Http.Release
import ServiceCall.Proofs.Text.Utf8

/-!
What is read from a body. Reading neither loses nor repeats nor reorders bytes, and how a stream is
cut into chunks makes no difference to what is read from all of it.
-/

namespace ServiceCall.Body

variable {α : Type} {body : Body} {pieces : List (List UInt8)}

/-- The chunks that are still to come from a body; from a released one none are. -/
def remaining (body : Body) : List Chunk :=
  body.chunks.getD []

/-- A body with some pieces of data still to come, at whose release nothing fails. -/
structure Readable (body : Body) (pieces : List (List UInt8)) : Prop where
  stream : body.remaining = pieces.map .data
  hook : ∀ message, body.hook ≠ some (.fails message)

/-- Pieces of data hold no failure. -/
theorem findSome?_fault?_data (pieces : List (List UInt8)) :
    (pieces.map Chunk.data).findSome? Chunk.fault? = none := by
  -- The search passes every chunk of data.
  rw [List.findSome?_map]
  exact List.findSome?_eq_none_iff.mpr fun _ _ => rfl

/-- The bytes of pieces of data are their concatenation. -/
theorem flatMap_bytes_data (pieces : List (List UInt8)) :
    (pieces.map Chunk.data).flatMap Chunk.bytes = pieces.flatten := by
  -- Each piece is turned into a chunk and back.
  rw [List.flatMap_map]
  exact List.flatMap_id

/-- A hook that does not fail has nothing to report. -/
theorem Readable.hookReport (readable : body.Readable pieces) :
    Operation.hookReport body.hook = .ok () := by
  -- A hook that succeeds is as silent as none.
  have quiet := readable.hook
  cases hooked : body.hook with
  | none => rfl
  | some hook =>
    cases hook with
    | succeeds => rfl
    | fails message => exact absurd hooked (quiet message)

/--
The bytes of a body are those of all the chunks to come, unless one of them is a failure. The hook
is heard only if the body was still open.
-/
theorem bytes_of_remaining (body : Body) :
    body.bytes.1 =
      match body.remaining.findSome? Chunk.fault? with
      | some error => .error error
      | none =>
        (if body.isClosed then .ok () else Operation.hookReport body.hook).map fun _ =>
          body.remaining.flatMap Chunk.bytes := by
  -- A closed body has nothing to come, and an open one is drained.
  unfold bytes remaining isClosed
  cases body.chunks with
  | none => rfl
  | some chunks => exact congrArg Prod.fst (drain_eq body chunks)

/-- The rest of a body is read as the concatenation of its pieces. -/
theorem Readable.bytes_eq (readable : body.Readable pieces) :
    body.bytes.1 = .ok pieces.flatten := by
  -- Nothing fails, neither in the stream nor in the hook.
  rw [bytes_of_remaining, readable.stream, findSome?_fault?_data, flatMap_bytes_data,
    readable.hookReport, ite_self]
  rfl

/-- The first failure of a stream is all that is read of it, whatever data comes before. -/
theorem bytes_of_fault {error : CallError} {later : List Chunk}
    (stream : body.remaining = pieces.map .data ++ .fault error :: later) :
    body.bytes.1 = .error error := by
  -- The search for a failure passes the data before it.
  rw [bytes_of_remaining, stream, List.findSome?_append, findSome?_fault?_data]
  rfl

/-- Bytes are read as the text that they encode. -/
theorem decodeText_eq_ok_iff {content : List UInt8} {text : String} :
    decodeText content = .ok text ↔ text.toByteArray = content.toByteArray := by
  unfold decodeText
  cases decoded : Utf8.decode content with
  | ok read =>
    -- Texts with the same bytes are the same.
    have written : (String.ofList read).toByteArray = content.toByteArray := by
      rw [← Utf8.decode_eq_ok_iff.mp decoded]
      exact String.toByteArray_ofList
    rw [← written, String.toByteArray_inj]
    exact ⟨fun same => (Except.ok.inj same).symm, fun same => congrArg _ same.symm⟩
  | error fault =>
    -- The bytes of a text are UTF-8, and those that a fault marks are not.
    refine iff_of_false nofun fun written => ?_
    have valid := text.isValidUTF8
    rw [written] at valid
    exact (Utf8.marks_of_decode decoded).not_isText valid

/-- Bytes that are no text are refused with the fault that marks them. -/
theorem decodeText_eq_error_iff {content : List UInt8} {error : CallError} :
    decodeText content = .error error ↔
      ∃ fault : Utf8.Fault, error = .payload (.notUtf8 fault) ∧ fault.Marks content := by
  -- The fault of the decoder is passed on as it is.
  simp only [← Utf8.decode_eq_error_iff]
  unfold decodeText
  cases Utf8.decode content with
  | ok read => exact iff_of_false nofun nofun
  | error fault =>
    constructor
    · intro refused
      exact ⟨fault, (Except.error.inj refused).symm, rfl⟩
    · rintro ⟨_, rfl, found⟩
      rw [Except.error.inj found]

/-- A chunk is the next piece, and the others are still to come after it. -/
theorem Readable.chunk (readable : body.Readable pieces) :
    body.chunk.1 = .ok pieces.head? ∧ body.chunk.2.Readable pieces.tail := by
  -- A released body has no piece left, and an open one has its first chunk taken off.
  have stream := readable.stream
  unfold remaining at stream
  unfold Body.chunk
  cases opened : body.chunks with
  | none =>
    rw [opened] at stream
    obtain rfl := List.map_eq_nil_iff.mp stream.symm
    exact ⟨rfl, readable⟩
  | some chunks =>
    rw [opened] at stream
    obtain rfl : chunks = pieces.map Chunk.data := stream
    cases pieces with
    | nil =>
      -- The stream has come to its end, so the body is released.
      show (body.close.1.map fun _ => none) = _ ∧ body.close.2.Readable []
      rw [close_eq, readable.hookReport]
      exact ⟨rfl, rfl, nofun⟩
    | cons piece later => exact ⟨rfl, rfl, readable.hook⟩

/-- Some chunks are the next pieces one after another, and the others are to come after them. -/
theorem Readable.performAll_chunk (readable : body.Readable pieces) (count : Nat)
    (ops : List (Operation α)) :
    ∃ last : Body, last.Readable (pieces.drop count) ∧
      (body.performAll (List.replicate count .chunk ++ ops)).1 =
        ((List.range count).map fun i => .ok (.chunk pieces[i]?)) ++ (last.performAll ops).1 := by
  -- The induction is on the number of chunks; the first one leaves the tail of the pieces behind.
  induction count generalizing body pieces with
  -- Without any chunk, nothing has happened to the body.
  | zero => exact ⟨body, readable, rfl⟩
  | succ count ih =>
    obtain ⟨given, after⟩ := readable.chunk
    obtain ⟨last, left, results⟩ := ih after
    rw [List.drop_tail] at left
    refine ⟨last, left, ?_⟩
    have first : (body.performAll (List.replicate (count + 1) .chunk ++ ops)).1 =
        .ok (.chunk pieces.head?) ::
          (body.chunk.2.performAll (List.replicate count .chunk ++ ops)).1 := by
      rw [List.replicate_succ, List.cons_append, performAll, perform, given]
      rfl
    rw [first, results, List.range_succ_eq_map, List.map_cons, List.map_map,
      List.head?_eq_getElem?]
    simp only [List.getElem?_tail]
    rfl

/-- The pieces at the first places, and then the others, are all the bytes. -/
theorem reduceOption_getElem?_append (pieces : List (List UInt8)) (count : Nat) :
    ((List.range count).map fun i => pieces[i]?).reduceOption.flatten ++
      (pieces.drop count).flatten = pieces.flatten := by
  -- Places beyond the end hold no piece, so that the first ones are what is taken.
  have front : ((List.range count).map fun i => pieces[i]?).reduceOption = pieces.take count := by
    induction count with
    | zero => rfl
    | succ count ih =>
      rw [List.range_succ, List.map_append, List.reduceOption_append, ih, List.map_singleton,
        List.reduceOption_singleton, List.take_add_one]
  rw [front, ← List.flatten_append, List.take_append_drop]

/-- A text is read from exactly the bytes that are one. -/
theorem exists_decodeText_iff {content : List UInt8} :
    (∃ text, decodeText content = .ok text) ↔ Utf8.IsText content := by
  simp only [decodeText_eq_ok_iff]
  constructor
  · rintro ⟨text, written⟩
    rw [Utf8.IsText, ← written]
    exact text.isValidUTF8
  · -- Valid bytes are the bytes of a text.
    intro valid
    exact ⟨⟨content.toByteArray, valid⟩, rfl⟩

/-- A text is made of the bytes alone. -/
theorem text_of_bytes (body : Body) : body.text.1 = body.bytes.1.bind decodeText :=
  rfl

/-- A value is made of the bytes alone. -/
theorem json_of_bytes (body : Body) (decoder : Json.Value → Option α) :
    (body.json decoder).1 = body.bytes.1.bind fun content =>
      match (Json.read? content).bind decoder with
      | some value => .ok value
      | none => .error (.payload .notJson) :=
  rfl

/-- The text of a body is read from the concatenation of its pieces. -/
theorem Readable.text_eq (readable : body.Readable pieces) :
    body.text.1 = decodeText pieces.flatten := by
  -- The text is made of the bytes, which are all those to come.
  rw [text_of_bytes, readable.bytes_eq]
  rfl

/-- Bodies with the same bytes to come are read alike, however these are cut into pieces. -/
theorem Readable.alike {other : Body} {otherwise : List (List UInt8)}
    (readable : body.Readable pieces) (also : other.Readable otherwise)
    (same : otherwise.flatten = pieces.flatten) (decoder : Json.Value → Option α) :
    other.bytes.1 = body.bytes.1 ∧ other.text.1 = body.text.1 ∧
      (other.json decoder).1 = (body.json decoder).1 := by
  -- Both are read to the end as one and the same list of bytes.
  have bytes : other.bytes.1 = body.bytes.1 := by
    rw [also.bytes_eq, readable.bytes_eq, same]
  rw [text_of_bytes, text_of_bytes, json_of_bytes, json_of_bytes, bytes]
  exact ⟨rfl, rfl, rfl⟩

/--
What is read from a body. As long as nothing fails, each chunk is the next piece of the stream, and
the bytes read after some chunks are all the others. What is read of the whole rest depends only on
the bytes in it: they are read as they are, or as the text that they encode, or else with the fault
that marks them. A failure of the stream is all that is read of it, whatever data comes before.
-/
theorem reads_stream (body : Body) (decoder : Json.Value → Option α) :
    (∀ pieces, body.Readable pieces →
      (∀ count,
        let given := (List.range count).map fun i => pieces[i]?
        let others := (pieces.drop count).flatten
        (body.performAll (List.replicate count (.chunk : Operation α) ++ [.bytes])).1 =
            given.map (fun piece => .ok (.chunk piece)) ++ [.ok (.bytes others)] ∧
          given.reduceOption.flatten ++ others = pieces.flatten) ∧
      body.bytes.1 = .ok pieces.flatten ∧
      (∀ text, body.text.1 = .ok text ↔ text.toByteArray = pieces.flatten.toByteArray) ∧
      ((∃ text, body.text.1 = .ok text) ↔ Utf8.IsText pieces.flatten) ∧
      (∀ error, body.text.1 = .error error ↔
        ∃ fault : Utf8.Fault, error = .payload (.notUtf8 fault) ∧ fault.Marks pieces.flatten) ∧
      ∀ (other : Body) (otherwise : List (List UInt8)),
        other.Readable otherwise → otherwise.flatten = pieces.flatten →
          other.bytes.1 = body.bytes.1 ∧ other.text.1 = body.text.1 ∧
            (other.json decoder).1 = (body.json decoder).1) ∧
    ∀ (pieces : List (List UInt8)) (error : CallError) (later : List Chunk),
      body.remaining = pieces.map .data ++ .fault error :: later →
        body.bytes.1 = .error error ∧ body.text.1 = .error error ∧
          (body.json decoder).1 = .error error := by
  constructor
  · intro pieces readable
    refine ⟨?_, readable.bytes_eq, ?_, ?_, ?_, ?_⟩
    · intro count given others
      refine ⟨?_, reduceOption_getElem?_append pieces count⟩
      -- After the chunks, the pieces that are left are read like those of any readable body.
      obtain ⟨last, left, results⟩ := readable.performAll_chunk (α := α) count [.bytes]
      have bytes : (last.performAll [(.bytes : Operation α)]).1 = [.ok (.bytes others)] := by
        show [last.bytes.1.map Delivery.bytes] = _
        rw [left.bytes_eq]
        rfl
      rw [results, bytes, List.map_map]
      rfl
    · intro text
      rw [readable.text_eq, decodeText_eq_ok_iff]
    · -- Whether there is a text at all is told by the same bytes.
      rw [readable.text_eq, exists_decodeText_iff]
    · intro error
      rw [readable.text_eq, decodeText_eq_error_iff]
    · intro other otherwise also same
      exact readable.alike also same decoder
  · -- Text and values are made of the bytes, which fail.
    intro pieces error later stream
    rw [text_of_bytes, json_of_bytes, bytes_of_fault stream]
    exact ⟨rfl, rfl, rfl⟩

/-- A character may be cut apart by the end of a chunk, and a failure after data is kept. -/
theorem reads_stream_across_chunks :
    let cut :=
      (ofChunks [.data [0xE2], .data [], .data [0x82, 0xAC]] none).withHook .succeeds
    let whole := ofBytes [0xE2, 0x82, 0xAC]
    let failing := ofChunks [.data [0xE2], .fault (.io "cut"), .fault (.io "late")] none
    cut.Readable [[0xE2], [], [0x82, 0xAC]] ∧ whole.Readable [[0xE2, 0x82, 0xAC]] ∧
      cut.text.1 = .ok "€" ∧ whole.text.1 = cut.text.1 ∧ failing.text.1 = .error (.io "cut") := by
  -- The three bytes of one character come in two chunks with an empty one between.
  intro cut whole failing
  have pieces : cut.Readable [[0xE2], [], [0x82, 0xAC]] := ⟨rfl, fun _ => nofun⟩
  have one : whole.Readable [[0xE2, 0x82, 0xAC]] := ⟨rfl, fun _ => nofun⟩
  obtain ⟨_, _, isText, _, _, alike⟩ := (reads_stream cut some).1 _ pieces
  obtain ⟨_, kept, _⟩ := (reads_stream failing some).2 [[0xE2]] (.io "cut") _ rfl
  exact ⟨pieces, one, (isText "€").mpr (by decide), (alike whole _ one rfl).2.1, kept⟩

end ServiceCall.Body
