import Courier.Text.Quoted

/-!
# Frame headers

A header says what a frame is: a request, a reply, an exception or an unasked message. On
the wire it is a `Record` of fields, some of which only some kinds use; `Header` is the form
in which each kind has exactly its fields.

* `Record.check` goes from the record to the header, or says what the record lacks.
* `Header.toRecord` goes back, leaving out what the kind does not use.
* `check_toRecord`: every header survives as a record.
-/

namespace Courier

/-- The number that ties a reply to its request. -/
abbrev ReqSeq := UInt64

/-- The number after the given one. The first number given out is the one after zero. -/
def ReqSeq.next (last : ReqSeq) : ReqSeq := last + 1

/-- What a frame is. -/
inductive Kind where
  | request
  | reply
  | exception
  | message
deriving DecidableEq

namespace Kind

/-- The code of a kind on the wire. -/
def code : Kind → UInt8
  | .request => 1
  | .reply => 2
  | .exception => 3
  | .message => 4

/-- The kind with a given code. -/
def ofCode? (code : UInt8) : Option Kind :=
  if code = 1 then some .request
  else if code = 2 then some .reply
  else if code = 3 then some .exception
  else if code = 4 then some .message
  else none

theorem code_of_ofCode? {code : UInt8} {k : Kind} (h : ofCode? code = some k) : k.code = code := by
  unfold ofCode? at h
  split at h
  · cases h; simp_all [Kind.code]
  split at h
  · cases h; simp_all [Kind.code]
  split at h
  · cases h; simp_all [Kind.code]
  split at h
  · cases h; simp_all [Kind.code]
  · cases h

end Kind

/-- A header as the wire has it: any kind code, and fields that may be absent. -/
structure Record where
  version : UInt32
  kind : UInt8
  reqSeq : Option ReqSeq
  uri : Option String
  method : Option String
deriving DecidableEq

/-- A header with exactly the fields of its kind. -/
inductive Header where
  | request (seq : ReqSeq) (uri : String)
  | reply (seq : ReqSeq)
  | exception (seq : ReqSeq)
  | message (method : String)
deriving DecidableEq

namespace Header

/-- The kind of a header. -/
def kind : Header → Kind
  | .request _ _ => .request
  | .reply _ => .reply
  | .exception _ => .exception
  | .message _ => .message

/-- The number of a header, if its kind has one. -/
def reqSeq? : Header → Option ReqSeq
  | .request seq _ | .reply seq | .exception seq => some seq
  | .message _ => none

/-- The record of a header under a protocol version. -/
def toRecord (version : UInt32) (h : Header) : Record where
  version := version
  kind := h.kind.code
  reqSeq := h.reqSeq?
  uri := match h with
    | .request _ uri => some uri
    | _ => none
  method := match h with
    | .message method => some method
    | _ => none

end Header

namespace Record

/-- What keeps a record from being a header. -/
inductive Fault where
  | unknownKind
  | missingSeq
  | missingUri
  | missingMethod
deriving DecidableEq

/-- The header that a record stands for. The number is missed before the address. -/
def check (r : Record) : Except Fault Header :=
  match Kind.ofCode? r.kind with
  | none => .error .unknownKind
  | some .message => match r.method with
    | some method => .ok (.message method)
    | none => .error .missingMethod
  | some kind => match r.reqSeq with
    | none => .error .missingSeq
    | some seq => match kind with
      | .request => match r.uri with
        | some uri => .ok (.request seq uri)
        | none => .error .missingUri
      | .reply => .ok (.reply seq)
      | _ => .ok (.exception seq)

/-- A record as it stands in a message. -/
def render (r : Record) : String :=
  "WireHeader \x7b version: " ++ toString r.version.toNat ++ ", kind: " ++ toString r.kind.toNat
    ++ ", req_seq: " ++ quoteOption (fun n => "ReqSeq(" ++ toString n.toNat ++ ")") r.reqSeq
    ++ ", uri: " ++ quoteOption quote r.uri ++ ", method: " ++ quoteOption quote r.method ++ " \x7d"

/-- What a record lacks, with the record itself. -/
def Fault.message (r : Record) : Fault → String
  | .unknownKind => "unknown kind: " ++ r.render
  | .missingSeq => "missing reqSeq: " ++ r.render
  | .missingUri => "httpRequest without uri: " ++ r.render
  | .missingMethod => "asyncMsg without method: " ++ r.render

end Record

/-- **A header survives as a record**, under any version. -/
theorem Record.check_toRecord (version : UInt32) (h : Header) :
    (h.toRecord version).check = .ok h := by
  cases h <;> rfl

end Courier
