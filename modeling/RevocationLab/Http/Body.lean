/-
**Reading a body.**

A body arrives in chunks and may fail after the last of them.  It is read only when its length is
declared and within a limit, and only as far as the declared length: more octets are a failure of the
transport, fewer a mistake of the client.

Main definitions:

* `Http.Body` — chunks with how they end;
* `Http.Body.collect` — the octets of a body of at most some length;
* `Http.ReadError`, `Http.readBody` — reading under a declared length.
-/

import RevocationLab.Http.Header

set_option autoImplicit false

namespace RevocationLab

namespace Http

/-! ### Bodies -/

/-- Chunks, and the text of the failure after them if the transport fails. -/
structure Body where
  chunks : List Octets
  failure : Option String
  deriving DecidableEq, Repr

namespace Body

/-- A body in one piece. -/
def ofOctets (b : Octets) : Body := ⟨[b], none⟩

/-- The text of the failure of a body that is longer than it may be. -/
def overlong : String := "length limit exceeded"

/-- The octets of chunks of at most `room` octets in all, and the failure if there is one.  Room is
checked at each chunk, before anything that comes later. -/
def collectChunks (failure : Option String) : Nat → List Octets → Except String Octets
  | _, [] =>
      match failure with
      | none => .ok []
      | some text => .error text
  | room, c :: r =>
      if room < c.length then .error overlong
      else (collectChunks failure (room - c.length) r).map (c ++ ·)

/-- The octets of a body of at most `limit` octets. -/
def collect (limit : Nat) (body : Body) : Except String Octets :=
  collectChunks body.failure limit body.chunks

end Body

/-! ### Reading under a declared length -/

/-- The limit where none is given. -/
def defaultLimit : Nat := 1048576

/-- Why a body could not be read. -/
inductive ReadError where
  | missingLength
  | tooLarge (declared limit : Nat)
  | truncated (declared received : Nat)
  | transport (text : String)
  deriving DecidableEq, Repr

namespace ReadError

/-- Whether the client made a mistake, as opposed to the transport. -/
def isClientError : ReadError → Bool
  | transport _ => false
  | _ => true

/-- The name of the kind of error. -/
def kind : ReadError → String
  | missingLength => "MissingLength"
  | tooLarge _ _ => "TooLarge"
  | truncated _ _ => "Truncated"
  | transport _ => "Transport"

/-- The text of an error. -/
def message : ReadError → String
  | missingLength => "request has no declared content length"
  | tooLarge declared limit => s!"declared length {declared} exceeds limit {limit}"
  | truncated declared received => s!"body ended after {received} of {declared} bytes"
  | transport text => text

end ReadError

/-- The octets of a body whose length is declared in the headers and within the limit. -/
def readBody (headers : Headers) (limit : Option Nat) (body : Body) : Except ReadError Octets :=
  let limit := limit.getD defaultLimit
  match headers.contentLength? with
  | none => .error .missingLength
  | some declared =>
      if limit < declared then .error (.tooLarge declared limit)
      else match body.collect declared with
        | .error text => .error (.transport text)
        | .ok octets =>
            if octets.length = declared then .ok octets
            else .error (.truncated declared octets.length)

end Http

end RevocationLab
