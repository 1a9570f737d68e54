import ServiceCall.Http.Body

/-!
When a body is released. Whatever its owner does with it, there is one moment of release: the first
operation that closes the body or comes to an end of its stream, or else the drop. The hook runs at
that moment and at no other, and a failure of the hook is reported there or nowhere.
-/

namespace ServiceCall

/-- The failure that a chunk is, if it is one. -/
def Chunk.fault? : Chunk → Option CallError
  | .data _ => none
  | .fault error => some error

/-- The bytes of a chunk; a failure has none. -/
def Chunk.bytes : Chunk → List UInt8
  | .data bytes => bytes
  | .fault _ => []

namespace Body

/-- What the owner of a body can do with it. -/
inductive Operation (α : Type) where
  | chunk
  | bytes
  | text
  | json (decoder : Json.Value → Option α)
  | close

/-- What an operation gives when it does not fail. -/
inductive Delivery (α : Type) where
  | chunk (bytes : Option (List UInt8))
  | bytes (bytes : List UInt8)
  | text (text : String)
  | json (value : α)
  | closed

variable {α : Type}

/-- Does one operation with a body. -/
def perform (body : Body) : Operation α → Except CallError (Delivery α) × Body
  | .chunk => (body.chunk.1.map .chunk, body.chunk.2)
  | .bytes => (body.bytes.1.map .bytes, body.bytes.2)
  | .text => (body.text.1.map .text, body.text.2)
  | .json decoder => ((body.json decoder).1.map .json, (body.json decoder).2)
  | .close => (body.close.1.map fun _ => .closed, body.close.2)

/-- Does some operations with a body, one after another. -/
def performAll (body : Body) :
    List (Operation α) → List (Except CallError (Delivery α)) × Body
  | [] => ([], body)
  | op :: rest =>
    let (result, next) := body.perform op
    let (results, last) := next.performAll rest
    (result :: results, last)

namespace Operation

/--
Whether an operation releases a body with some chunks still to come. A close does, and so does a
read that comes to the end of the stream or to a failure; a read of all the rest always does.
-/
def ends : Operation α → List Chunk → Bool
  | .chunk, .data _ :: _ => false
  | _, _ => true

/-- The number of operations before the first one that releases a body, if there is one. -/
def moment : List Chunk → List (Operation α) → Nat
  | _, [] => 0
  | chunks, op :: rest =>
    -- An operation that does not release the body has taken one chunk.
    if op.ends chunks then 0 else moment (chunks.drop 1) rest + 1

/-- The failure that an operation meets in a stream; a close reads nothing and meets none. -/
def fault? : Operation α → List Chunk → Option CallError
  | .close, _ => none
  | _, chunks => chunks.findSome? Chunk.fault?

/-- What an operation makes of the bytes up to the end of a stream. -/
def ofContent (content : List UInt8) : Operation α → Except CallError (Delivery α)
  | .chunk => .ok (.chunk none)
  | .bytes => .ok (.bytes content)
  | .text => (decodeText content).map .text
  | .json decoder =>
    match (Json.read? content).bind decoder with
    | some value => .ok (.json value)
    | none => .error (.payload .notJson)
  | .close => .ok .closed

/-- What becomes known of a hook when it runs: nothing, unless it fails. -/
def hookReport : Option CloseHook → Except CallError Unit
  | some (.fails message) => .error (.io message)
  | some .succeeds | none => .ok ()

/--
What the operation that releases a body gives. A failure of the stream comes first, then a failure
of the hook, and what was read comes last.
-/
def outcome (op : Operation α) (chunks : List Chunk) (hook : Option CloseHook) :
    Except CallError (Delivery α) :=
  match op.fault? chunks with
  | some error => .error error
  | none => (hookReport hook).bind fun _ => op.ofContent (chunks.flatMap Chunk.bytes)

/-- Bytes that are no text or no JSON are not an input failure. -/
theorem ofContent_ne_io (op : Operation α) (content : List UInt8) (message : String) :
    op.ofContent content ≠ .error (.io message) := by
  -- The two kinds of content that can be refused are refused as payloads.
  cases op with
  | chunk => simp [ofContent]
  | bytes => simp [ofContent]
  | text =>
    simp only [ofContent, decodeText]
    cases Utf8.decode content <;> simp [Except.map]
  | json decoder =>
    simp only [ofContent]
    cases (Json.read? content).bind decoder <;> simp
  | close => simp [ofContent]

/-- An operation that does not release the body is a read that finds another chunk of data. -/
theorem of_not_ends {op : Operation α} {chunks : List Chunk} (goes : op.ends chunks = false) :
    op = .chunk ∧ ∃ bytes later, chunks = .data bytes :: later := by
  -- Of all operations only a read of data goes on.
  unfold ends at goes
  split at goes
  · exact ⟨rfl, _, _, rfl⟩
  · cases goes

/-- The operations before the moment of release do not release the body, and the next one does. -/
theorem ends_at {chunks : List Chunk} {ops : List (Operation α)} {n : Nat} {op : Operation α}
    (found : ops[n]? = some op) (early : n ≤ moment chunks ops) :
    op.ends (chunks.drop n) = decide (n = moment chunks ops) := by
  -- The induction is on the operations, each of which takes one chunk from the stream.
  induction ops generalizing chunks n with
  | nil => simp at found
  | cons first rest ih =>
    rw [moment] at early ⊢
    cases n with
    | zero =>
      obtain rfl := Option.some.inj found
      by_cases released : first.ends chunks = true
      · -- The moment has come at this operation.
        simp [released]
      · -- The operation takes a chunk, so the moment is a later one.
        simp [released]
    | succ n =>
      rw [List.getElem?_cons_succ] at found
      by_cases released : first.ends chunks = true
      · rw [if_pos released] at early
        omega
      · rw [if_neg released] at early ⊢
        have later := ih found (Nat.le_of_succ_le_succ early)
        rw [List.drop_drop, Nat.add_comm] at later
        rw [later, decide_eq_decide]
        omega

end Operation

/-- The body after its release: without its stream, and without its hook, which has run. -/
def released (body : Body) : Body :=
  { body with
    chunks := none, hook := none
    hookRuns := body.hookRuns + if body.hook.isSome then 1 else 0 }

/-- A close releases the body, and reports a failure of the hook. -/
theorem close_eq (body : Body) :
    body.close = (Operation.hookReport body.hook, body.released) := by
  -- The hook is gone in each case, and it has run if there was one.
  unfold close released
  cases hooked : body.hook with
  | none => rfl
  | some hook => cases hook <;> rfl

/-- A read to the end gives the first failure of the stream, or else closes the body. -/
theorem drain_eq (body : Body) (chunks : List Chunk) :
    body.drain chunks =
      (match chunks.findSome? Chunk.fault? with
        | some error => .error error
        | none => (Operation.hookReport body.hook).map fun _ => chunks.flatMap Chunk.bytes,
        body.released) := by
  -- The bytes of a chunk are put before what the rest of the stream gives.
  induction chunks with
  | nil => simp [drain, close_eq]
  | cons chunk rest ih =>
    cases chunk with
    | fault error =>
      rw [drain, close_eq]
      rfl
    | data bytes =>
      have same : (Chunk.data bytes :: rest).findSome? Chunk.fault? =
          rest.findSome? Chunk.fault? := rfl
      rw [drain, ih, same]
      cases rest.findSome? Chunk.fault? with
      | some error => rfl
      | none => cases Operation.hookReport body.hook <;> rfl

/-- Bytes, text and JSON are read to the end of the stream, and then made of what was read. -/
theorem perform_drain {body : Body} {op : Operation α} {chunks : List Chunk}
    (opened : body.chunks = some chunks) (all : op ≠ .chunk) (reads : op ≠ .close) :
    body.perform op =
      ((body.drain chunks).1.bind fun content => op.ofContent content,
        (body.drain chunks).2) := by
  -- Where reading fails, nothing is made of the bytes.
  cases op with
  | chunk => exact absurd rfl all
  | bytes =>
    simp only [perform, bytes, opened]
    cases (body.drain chunks).1 <;> rfl
  | text =>
    simp only [perform, text, bytes, opened]
    cases (body.drain chunks).1 <;> rfl
  | json decoder =>
    simp only [perform, json, bytes, opened]
    cases (body.drain chunks).1 with
    | error error => rfl
    | ok content =>
      simp only [Except.bind, Operation.ofContent]
      cases (Json.read? content).bind decoder <;> rfl
  | close => exact absurd rfl reads

/-- A read to the end of the stream gives its outcome. -/
theorem drain_outcome {op : Operation α} (body : Body) (chunks : List Chunk)
    (reads : op ≠ .close) :
    ((body.drain chunks).1.bind fun content => op.ofContent content) =
      op.outcome chunks body.hook := by
  -- Every read meets the failures of the stream.
  have faults : op.fault? chunks = chunks.findSome? Chunk.fault? := by
    cases op with
    | close => exact absurd rfl reads
    | chunk | bytes | text | json decoder => rfl
  rw [drain_eq, Operation.outcome, faults]
  cases chunks.findSome? Chunk.fault? with
  | some error => rfl
  | none => cases Operation.hookReport body.hook <;> rfl

/-- A chunk that is there is taken from the stream, and nothing else happens. -/
theorem perform_of_not_ends {body : Body} {op : Operation α} {chunks : List Chunk}
    (opened : body.chunks = some chunks) (goes : op.ends chunks = false) :
    op = .chunk ∧ ∃ bytes later, chunks = .data bytes :: later ∧
      body.perform op = (.ok (.chunk (some bytes)), { body with chunks := some later }) := by
  -- Only a single read finds data, and it takes off the chunk it gives.
  obtain ⟨rfl, bytes, later, rfl⟩ := Operation.of_not_ends goes
  refine ⟨rfl, bytes, later, rfl, ?_⟩
  simp [perform, chunk, opened, Except.map]

/-- The operation that releases a body gives its outcome and leaves the released body. -/
theorem perform_of_ends {body : Body} {op : Operation α} {chunks : List Chunk}
    (opened : body.chunks = some chunks) (ends : op.ends chunks = true) :
    body.perform op = (op.outcome chunks body.hook, body.released) := by
  cases op with
  | chunk =>
    -- A single read releases the body at the end of the stream or at a failure.
    cases chunks with
    | nil =>
      simp only [perform, chunk, opened, close_eq, Operation.outcome, Operation.fault?,
        List.findSome?_nil]
      cases Operation.hookReport body.hook <;> rfl
    | cons next later =>
      cases next with
      | data bytes => cases ends
      | fault error =>
        simp only [perform, chunk, opened, close_eq]
        rfl
  | bytes | text | json decoder =>
    rw [perform_drain opened (by simp) (by simp), drain_outcome body chunks (by simp), drain_eq]
  | close =>
    simp only [perform, close_eq, Operation.outcome, Operation.fault?]
    cases Operation.hookReport body.hook <;> rfl

/-- A body that was released is left as it is, and gives what an empty stream gives. -/
theorem perform_of_released {body : Body} (op : Operation α) (closed : body.chunks = none)
    (spent : body.hook = none) : body.perform op = (op.ofContent [], body) := by
  -- Nothing is left to read, and no hook to run.
  cases op with
  | chunk => simp [perform, chunk, closed, Operation.ofContent, Except.map]
  | bytes => simp [perform, bytes, closed, Operation.ofContent, Except.map]
  | text => simp [perform, text, bytes, closed, Operation.ofContent, Except.bind]
  | json decoder =>
    simp only [perform, json, bytes, closed, Operation.ofContent, Except.bind]
    cases (Json.read? []).bind decoder <;> rfl
  | close =>
    have same : body.released = body := by
      cases body
      simp_all [released]
    rw [perform, close_eq, spent, same]
    rfl

/-- The result of an operation is the one it gives in the state that the earlier ones have left. -/
theorem performAll_getElem? {ops : List (Operation α)} {n : Nat} {op : Operation α}
    (found : ops[n]? = some op) (body : Body) :
    (body.performAll ops).1[n]? = some ((body.performAll (ops.take n)).2.perform op).1 := by
  -- The induction is on the operations, the first of which leads to the state of the next.
  induction ops generalizing body n with
  | nil => simp at found
  | cons first rest ih =>
    cases n with
    | zero =>
      obtain rfl := Option.some.inj found
      rfl
    | succ n =>
      rw [List.getElem?_cons_succ] at found
      exact ih found (body.perform first).2

/-- Up to the moment of its release, a body has lost one chunk for each operation. -/
theorem performAll_before {body : Body} {chunks : List Chunk} {ops : List (Operation α)} {n : Nat}
    (opened : body.chunks = some chunks) (early : n ≤ Operation.moment chunks ops) :
    (body.performAll (ops.take n)).2 = { body with chunks := some (chunks.drop n) } := by
  -- The induction is on the operations; those before the moment leave an open body behind.
  induction ops generalizing body chunks n with
  | nil =>
    obtain rfl : n = 0 := Nat.le_zero.mp early
    rw [List.take_zero, List.drop_zero, ← opened]
    rfl
  | cons first rest ih =>
    cases n with
    | zero =>
      rw [List.take_zero, List.drop_zero, ← opened]
      rfl
    | succ n =>
      rw [Operation.moment] at early
      by_cases released : first.ends chunks = true
      · rw [if_pos released] at early
        omega
      · rw [if_neg released] at early
        obtain ⟨_, bytes, later, rfl, taken⟩ :=
          perform_of_not_ends opened (Bool.eq_false_iff.mpr released)
        have remaining : ({ body with chunks := some later } : Body).chunks = some later := rfl
        rw [List.take_succ_cons, performAll, taken]
        exact ih remaining (Nat.le_of_succ_le_succ early)

/-- Operations with a body that was released leave it as it is. -/
theorem performAll_of_released {body : Body} (ops : List (Operation α))
    (closed : body.chunks = none) (spent : body.hook = none) : (body.performAll ops).2 = body := by
  -- The induction is on the operations, none of which changes the body.
  induction ops with
  | nil => rfl
  | cons first rest ih =>
    rw [performAll, perform_of_released first closed spent]
    exact ih

/-- After the moment of its release, a body is the released body and stays so. -/
theorem performAll_after {body : Body} {chunks : List Chunk} {ops : List (Operation α)} {n : Nat}
    (opened : body.chunks = some chunks) (late : Operation.moment chunks ops < n)
    (within : n ≤ ops.length) : (body.performAll (ops.take n)).2 = body.released := by
  -- The induction is on the operations, up to the one that releases the body.
  induction ops generalizing body chunks n with
  | nil =>
    have none : n = 0 := Nat.le_zero.mp within
    omega
  | cons first rest ih =>
    obtain ⟨n, rfl⟩ : ∃ m, n = m + 1 := ⟨n - 1, by omega⟩
    rw [List.take_succ_cons, performAll]
    rw [Operation.moment] at late
    by_cases released : first.ends chunks = true
    · rw [perform_of_ends opened released]
      exact performAll_of_released (rest.take n) rfl rfl
    · rw [if_neg released] at late
      obtain ⟨_, bytes, later, rfl, taken⟩ :=
        perform_of_not_ends opened (Bool.eq_false_iff.mpr released)
      -- One chunk fewer makes no difference to the body once it is released.
      have remaining : ({ body with chunks := some later } : Body).chunks = some later := rfl
      rw [taken]
      exact ih remaining (Nat.lt_of_succ_lt_succ late) (Nat.le_of_succ_le_succ within)

/-- Whatever was done with a body before, a drop leaves the released body behind. -/
theorem drop_performAll {body : Body} {chunks : List Chunk} (opened : body.chunks = some chunks)
    (ops : List (Operation α)) : (body.performAll ops).2.drop = body.released := by
  rw [drop, close_eq]
  rcases Nat.lt_or_ge (Operation.moment chunks ops) ops.length with late | early
  · -- A body that an operation has released has no hook left that could run again.
    have last := performAll_after opened late (Nat.le_refl _)
    rw [List.take_length] at last
    rw [last]
    rfl
  · -- A body that is still open is released by the drop itself.
    have last := performAll_before opened early
    rw [List.take_length] at last
    rw [last]
    rfl

/-- Before the moment of its release, a body gives the chunks of its stream one after another. -/
theorem perform_before {body : Body} {chunks : List Chunk} (opened : body.chunks = some chunks)
    {ops : List (Operation α)} {n : Nat} {op : Operation α} (found : ops[n]? = some op)
    (early : n < Operation.moment chunks ops) :
    op.ends (chunks.drop n) = false ∧ ∃ bytes, chunks[n]? = some (.data bytes) ∧
      ((body.performAll (ops.take n)).2.perform op).1 = .ok (.chunk (some bytes)) := by
  -- The operation comes before the moment, so it finds a chunk of data.
  have goes : op.ends (chunks.drop n) = false := by
    rw [Operation.ends_at found (Nat.le_of_lt early)]
    exact decide_eq_false (Nat.ne_of_lt early)
  have remaining : ({ body with chunks := some (chunks.drop n) } : Body).chunks =
      some (chunks.drop n) := rfl
  obtain ⟨_, bytes, later, rest, taken⟩ := perform_of_not_ends remaining goes
  refine ⟨goes, bytes, ?_, ?_⟩
  · rw [← List.head?_drop, rest]
    rfl
  · rw [performAll_before opened (Nat.le_of_lt early), taken]

/-- At the moment of its release, a body gives the outcome of the operation that releases it. -/
theorem perform_at {body : Body} {chunks : List Chunk} (opened : body.chunks = some chunks)
    {ops : List (Operation α)} {op : Operation α}
    (found : ops[Operation.moment chunks ops]? = some op) :
    op.ends (chunks.drop (Operation.moment chunks ops)) = true ∧
      ((body.performAll (ops.take (Operation.moment chunks ops))).2.perform op).1 =
        op.outcome (chunks.drop (Operation.moment chunks ops)) body.hook := by
  -- The body is still open, with one chunk fewer for each operation before.
  have ends : op.ends (chunks.drop (Operation.moment chunks ops)) = true := by
    rw [Operation.ends_at found (Nat.le_refl _)]
    exact decide_eq_true rfl
  refine ⟨ends, ?_⟩
  rw [performAll_before opened (Nat.le_refl _), perform_of_ends rfl ends]

/-- After the moment of its release, a body is left alone and gives what an empty stream gives. -/
theorem perform_after {body : Body} {chunks : List Chunk} (opened : body.chunks = some chunks)
    {ops : List (Operation α)} {n : Nat} (op : Operation α)
    (late : Operation.moment chunks ops < n) (within : n ≤ ops.length) :
    (body.performAll (ops.take n)).2.perform op =
      (op.ofContent [], (body.performAll (ops.take n)).2) := by
  -- What is left then is the released body.
  rw [performAll_after opened late within]
  exact perform_of_released op rfl rfl

/-- Only the operation at the moment of release can report an input failure. -/
theorem perform_ne_io {body : Body} {chunks : List Chunk} (opened : body.chunks = some chunks)
    {ops : List (Operation α)} {n : Nat} {op : Operation α} (found : ops[n]? = some op)
    (other : n ≠ Operation.moment chunks ops) (message : String) :
    ((body.performAll (ops.take n)).2.perform op).1 ≠ .error (.io message) := by
  have within := Nat.le_of_lt (List.getElem?_eq_some_iff.mp found).1
  rcases Nat.lt_or_gt_of_ne other with early | late
  · -- Before the moment, each operation gives a chunk.
    obtain ⟨_, bytes, _, given⟩ := perform_before opened found early
    rw [given]
    simp
  · -- After it, there is neither a stream nor a hook that could fail.
    rw [perform_after opened op late within]
    exact op.ofContent_ne_io [] message

/-- A body is closed, and its hook has run, exactly after the moment of its release. -/
theorem performAll_isClosed_iff {body : Body} {chunks : List Chunk}
    (opened : body.chunks = some chunks) {ops : List (Operation α)} {n : Nat}
    (within : n ≤ ops.length) :
    ((body.performAll (ops.take n)).2.isClosed = true ↔ Operation.moment chunks ops < n) ∧
      (body.performAll (ops.take n)).2.hookRuns =
        body.hookRuns + if Operation.moment chunks ops < n ∧ body.hook.isSome then 1 else 0 := by
  -- The state after some operations is told by whether the moment lies among them.
  rcases Nat.lt_or_ge (Operation.moment chunks ops) n with late | early
  · rw [performAll_after opened late within]
    simp [isClosed, released, late]
  · rw [performAll_before opened early]
    simp [isClosed, Nat.not_lt.mpr early]

/--
Whatever the owner of a body does before dropping it, the body is released once: at the first
operation that closes it or comes to an end of the stream, or else at the drop. Before, each
operation gives the next chunk; there, a failure of the stream comes before one of the hook; and
after it nothing changes any more and no failure of the hook is reported.
-/
theorem performAll_releases_once (chunks : List Chunk) (length : Option Nat)
    (hook : Option CloseHook) (ops : List (Operation α)) :
    let body : Body := { chunks := some chunks, length, hook }
    let moment := Operation.moment chunks ops
    let dropped := (body.performAll ops).2.drop
    dropped.isClosed = true ∧ dropped.hookRuns = (if hook.isSome then 1 else 0) ∧
      (∀ n ≤ ops.length,
        let now := (body.performAll (ops.take n)).2
        (now.isClosed = true ↔ moment < n) ∧
          now.hookRuns = if moment < n ∧ hook.isSome then 1 else 0) ∧
      ∀ n op, ops[n]? = some op →
        let now := (body.performAll (ops.take n)).2
        let result := (now.perform op).1
        (body.performAll ops).1[n]? = some result ∧
          (n < moment → op.ends (chunks.drop n) = false ∧
            ∃ bytes, chunks[n]? = some (.data bytes) ∧ result = .ok (.chunk (some bytes))) ∧
          (n = moment → op.ends (chunks.drop n) = true ∧
            result = op.outcome (chunks.drop n) hook) ∧
          (moment < n → now.perform op = (op.ofContent [], now)) ∧
          (n ≠ moment → ∀ message, result ≠ .error (.io message)) := by
  intro body moment dropped
  -- The body starts open, with its hook still to run.
  have opened : body.chunks = some chunks := rfl
  have released : dropped = body.released := drop_performAll opened ops
  refine ⟨by rw [released]; rfl, by rw [released]; exact Nat.zero_add _, ?_, ?_⟩
  · intro n within now
    obtain ⟨closed, ran⟩ := performAll_isClosed_iff opened within
    exact ⟨closed, ran.trans (Nat.zero_add _)⟩
  · intro n op found now result
    have within := Nat.le_of_lt (List.getElem?_eq_some_iff.mp found).1
    refine ⟨performAll_getElem? found body, perform_before opened found, ?_,
      fun late => perform_after opened op late within, perform_ne_io opened found⟩
    rintro rfl
    exact perform_at opened found

end Body

end ServiceCall
