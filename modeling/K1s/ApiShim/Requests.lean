import K1s.ApiShim.Operations
import K1s.Py.Decode

/-!
# Requests and their bodies

`_read_body` takes the body from the connection in one of two transfer modes and
`_read_json` turns it into a document.  Neither reports a failure: the first
returns what has come so far, the second an empty document.  The connection is
the list of the bytes that the client sends before it closes its side.
-/

namespace K1s
namespace ApiShim

open Py

/-- The methods that the server has a handler for. -/
inductive Method
  | get
  | post
  | put
  | patch
  | delete
  deriving DecidableEq

/-- A request, with the headers that the handlers read. -/
structure Request where
  method : Method
  /-- The target as it was sent. -/
  target : String
  /-- The path of the target, as `urlparse` has it. -/
  path : String
  /-- The query of the target, as `parse_qs` has it. -/
  query : List (String × List String)
  authorization : Option String
  upgrade : Option String
  contentType : Option String
  transferEncoding : Option String
  contentLength : Option String
  /-- What the client sends after the headers. -/
  rfile : List UInt8

namespace Request

/-- `query.get(key, [default])[0]`. -/
def queryValue (request : Request) (key default : String) : String :=
  ((request.query.lookup key).getD [default]).headD default

/-- The token of the request: that of the header, or else of the query of a
websocket. -/
def token (request : Request) : String :=
  let header := request.authorization.getD ""
  let bearer :=
    if startsWith "Bearer " header then String.ofList (header.toList.drop 7) else ""
  if bearer = "" ∧ lower (request.upgrade.getD "") = "websocket" then
    request.queryValue "token" ""
  else bearer

/-! ## The two transfer modes -/

/-- `rfile.readline()`, and what is left. -/
def readLine : List UInt8 → List UInt8 × List UInt8
  | [] => ([], [])
  | byte :: rest =>
      if byte = 10 then ([byte], rest) else (byte :: (readLine rest).1, (readLine rest).2)

/-- The bytes that `bytes.strip()` removes. -/
def blankByte (byte : UInt8) : Bool :=
  byte = 32 || (9 ≤ byte.toNat && byte.toNat ≤ 13)

def stripBytes (line : List UInt8) : List UInt8 :=
  ((line.dropWhile blankByte).reverse.dropWhile blankByte).reverse

/-- The size that a line gives, up to the first semicolon. -/
def chunkSize (line : List UInt8) : List Char :=
  (stripBytes ((stripBytes line).takeWhile (· ≠ 59))).map fun byte =>
    Char.ofNat byte.toNat

/-- Hexadecimal digits in which single underscores may stand between two
digits. -/
def hexDigits : List Char → Option (List Nat)
  | [] => none
  | [digit] => (hexValue digit).map ([·])
  | first :: '_' :: rest => do return (← hexValue first) :: (← hexDigits rest)
  | first :: rest => do return (← hexValue first) :: (← hexDigits rest)

/-- `int(line, 16)`, for a line without blanks around it. -/
def intOfHex (line : List Char) : Option Int :=
  let (negative, digits) := readSign line
  let digits :=
    match digits with
    | '0' :: mark :: '_' :: rest => if mark = 'x' ∨ mark = 'X' then rest else digits
    | '0' :: mark :: rest => if mark = 'x' ∨ mark = 'X' then rest else digits
    | digits => digits
  (hexDigits digits).map fun digits =>
    let value : Int := digits.foldl (fun value digit => 16 * value + digit) 0
    if negative then -value else value

/-- `rfile.read(length)`: a negative length reads to the end. -/
def readBytes (length : Int) (rfile : List UInt8) : List UInt8 × List UInt8 :=
  if length < 0 then (rfile, []) else (rfile.take length.toNat, rfile.drop length.toNat)

/-- The chunks of a body up to the last one, and whether that one has come. -/
def readChunks : Nat → List UInt8 → List UInt8 × Bool
  | 0, _ => ([], false)
  | fuel + 1, rfile =>
      let (line, rest) := readLine rfile
      if line.isEmpty then ([], false)
      else
        match intOfHex (chunkSize line) with
        | none => ([], false)
        | some length =>
            if length = 0 then ([], true)
            else
              let (chunk, rest) := readBytes length rest
              let (body, finished) := readChunks fuel (rest.drop 2)
              (chunk ++ body, finished)

/-- Whether the body comes in chunks. -/
def chunked (request : Request) : Bool :=
  decide ("chunked".toList <:+: (lower (request.transferEncoding.getD "")).toList)

/-- `int(self.headers.get("Content-Length", "0") or "0")`, `none` for an
exception. -/
def length (request : Request) : Option Int :=
  let header := request.contentLength.getD "0"
  intOfText (if header = "" then "0" else header)

/-- `_read_body`.  Every turn of the loop takes at least one byte. -/
def readBody (request : Request) : Option (List UInt8) :=
  if request.chunked then
    some (readChunks (request.rfile.length + 1) request.rfile).1
  else request.length.map fun length => (readBytes length request.rfile).1

/-- The client closed its side before the body had come to its end. -/
def truncated (request : Request) : Bool :=
  if request.chunked then
    !(readChunks (request.rfile.length + 1) request.rfile).2
  else
    match request.length with
    | some length => decide ((request.rfile.length : Int) < length)
    | none => false

end Request

/-! ## Documents -/

def readJson (handler : ShimHandler) (body : List UInt8) : Json :=
  if body.isEmpty then .dict []
  else
    match decodeUtf8 body with
    | none => .dict []
    | some text =>
        match jsonLoads text with
        | some document => document
        | none =>
            match handler.safeLoad text with
            | some document => document.or (.dict [])
            | none => .dict []

def Request.document (handler : ShimHandler) (request : Request) : Option Json :=
  request.readBody.map (readJson handler)

end ApiShim
end K1s
