import ServiceCall.Failure
import ServiceCall.Json.Reader

/-!
Response bodies. A body is a stream of chunks and is released once: when it is closed, when it has
been read to its end, when reading fails, or when its owner drops it. A close hook runs at the
release and may fail.
-/

namespace ServiceCall

/-- What a stream yields next: bytes, or a failure that ends the reading. -/
inductive Chunk where
  | data (bytes : List UInt8)
  | fault (error : CallError)
  deriving DecidableEq, Repr

/-- What a close hook does when it runs. -/
inductive CloseHook where
  | succeeds
  | fails (message : String)
  deriving DecidableEq, Repr

/-- A response body: the chunks still to come, none once it is released, and the pending hook. -/
structure Body where
  chunks : Option (List Chunk)
  length : Option Nat := none
  hook : Option CloseHook := none
  hookRuns : Nat := 0
  deriving DecidableEq, Repr

namespace Body

/-- A body that is held in memory: one chunk of known length. -/
def ofBytes (bytes : List UInt8) : Body :=
  { chunks := some [.data bytes], length := some bytes.length }

/-- A body that streams chunks. -/
def ofChunks (chunks : List Chunk) (length : Option Nat) : Body :=
  { chunks := some chunks, length }

/-- The body with a hook that runs at its release. -/
def withHook (body : Body) (hook : CloseHook) : Body :=
  { body with hook := some hook }

/-- Whether the body has been released. -/
def isClosed (body : Body) : Bool :=
  body.chunks.isNone

/-- Releases the body. The hook, if it has not run yet, runs now and its failure is reported. -/
def close (body : Body) : Except CallError Unit × Body :=
  match body.hook with
  | none => (.ok (), { body with chunks := none })
  | some hook =>
    let released := { body with chunks := none, hook := none, hookRuns := body.hookRuns + 1 }
    match hook with
    | .succeeds => (.ok (), released)
    | .fails message => (.error (.io message), released)

/-- The body after its owner dropped it; a failure of the hook is not reported. -/
def drop (body : Body) : Body :=
  body.close.2

/-- The next chunk, or none at the end or after the release. -/
def chunk (body : Body) : Except CallError (Option (List UInt8)) × Body :=
  match body.chunks with
  | none => (.ok none, body)
  | some [] =>
    let (closed, released) := body.close
    (closed.map fun _ => none, released)
  | some (.data bytes :: rest) => (.ok (some bytes), { body with chunks := some rest })
  -- The failure of the read wins over a failure of the hook.
  | some (.fault error :: _) => (.error error, body.close.2)

/-- Reads given chunks to their end and releases the body they belong to. -/
def drain (body : Body) : List Chunk → Except CallError (List UInt8) × Body
  | [] =>
    let (closed, released) := body.close
    (closed.map fun _ => [], released)
  | .data bytes :: rest =>
    let (read, released) := drain body rest
    (read.map (bytes ++ ·), released)
  | .fault error :: _ => (.error error, body.close.2)

/-- Reads the rest of the body and releases it. -/
def bytes (body : Body) : Except CallError (List UInt8) × Body :=
  match body.chunks with
  | none => (.ok [], body)
  | some chunks => body.drain chunks

/-- Bytes as text, or the first place where they are not UTF-8. -/
def decodeText (bytes : List UInt8) : Except CallError String :=
  match Utf8.decode bytes with
  | .ok text => .ok (String.ofList text)
  | .error fault => .error (.payload (.notUtf8 fault))

/-- Reads the rest of the body as UTF-8 text. -/
def text (body : Body) : Except CallError String × Body :=
  let (read, released) := body.bytes
  (read.bind decodeText, released)

/-- Reads the rest of the body as JSON that a decoder accepts. -/
def json {α : Type} (decoder : Json.Value → Option α) (body : Body) : Except CallError α × Body :=
  let (read, released) := body.bytes
  (read.bind fun bytes =>
    match (Json.read? bytes).bind decoder with
    | some value => .ok value
    | none => .error (.payload .notJson), released)

/-- A one-line description: the declared length and whether the body is released. -/
def describe (body : Body) : String :=
  let length := match body.length with
    | some length => s!"Some({length})"
    | none => "None"
  s!"ResponseBody \x7b length: {length}, closed: {body.isClosed} \x7d"

end Body

end ServiceCall
