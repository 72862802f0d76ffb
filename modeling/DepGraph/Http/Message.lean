import DepGraph.Json.Reader
import DepGraph.Path.Basic
import DepGraph.Text.Blank
import DepGraph.Text.Wide

/-!
# Requests and responses

A **request** has a method, a target, headers and a body, a **response** a status, headers and a
body. The names of headers are the same in any case. The path of a target is what stands before a
question mark, without a host, with its dots walked and its escapes decoded.
-/

namespace DepGraph.Http

/-! ### Headers -/

/-- **Headers**, by name. -/
abbrev Headers := List (String × String)

namespace Headers

/-- The small form of a name. -/
def smallName (name : String) : String := String.ofList (name.toList.map Char.toLower)

/-- Headers with their names in small letters. -/
def small (hs : Headers) : Headers := hs.map fun h => (smallName h.1, h.2)

/-- The value of a header, asked for by its small name. -/
def get? (hs : Headers) (name : String) : Option String :=
  (hs.find? fun h => smallName h.1 == name).map (·.2)

/-- Headers with one more, in place of an earlier one of its small name. -/
def set (hs : Headers) (name value : String) : Headers :=
  (hs.filter fun h => smallName h.1 != name) ++ [(name, value)]

/-- Headers that say that a response also depends on this header of the request. -/
def vary (hs : Headers) (name : String) : Headers :=
  match hs.get? "vary" with
  | some names => hs.set "vary" (names ++ ", " ++ name)
  | none => hs.set "vary" name

end Headers

/-! ### Requests -/

/-- A **request**. -/
structure Request where
  /-- The method. -/
  method : String
  /-- The target, with its query. -/
  target : String
  /-- The headers. -/
  headers : Headers := []
  /-- The body. -/
  body : Bytes := []

/-- The part of a target before its fragment. -/
def withoutFragment (target : String) : List Char := target.toList.takeWhile (· != '#')

/-- The characters with their percent escapes decoded, as bytes. -/
def unescape : List Char → Bytes
  | '%' :: a :: b :: rest =>
    match Text.ofHex? [a, b] with
    | some n => n.toUInt8 :: unescape rest
    | none => Utf8.encodeChar '%' ++ unescape (a :: b :: rest)
  | c :: rest => Utf8.encodeChar c ++ unescape rest
  | [] => []
termination_by cs => cs.length

/-- One step of walking the dots of a path, on the components so far, last first. -/
def walkStep (done : List (List Char)) (c : List Char) : List (List Char) :=
  if c == Path.here then done
  else if c == Path.above then (if done == [[]] then done else done.tail)
  else c :: done

/-- A path with its dots walked. -/
def walkDots (path : List Char) : List Char :=
  Path.joined ((Path.components path).foldl walkStep []).reverse

/-- A target without the host that two slashes in front introduce. -/
def withoutHost : List Char → List Char
  | '/' :: '/' :: rest => rest.dropWhile (· != '/')
  | cs => cs

namespace Request

/-- The **path** of a request. -/
def path (r : Request) : String :=
  let cs := (withoutHost ((withoutFragment r.target).takeWhile (· != '?')))
  let cs := walkDots ('/' :: cs.dropWhile (· == '/'))
  match Utf8.decode (unescape cs) with
  | .ok decoded => String.ofList decoded
  | .error _ => String.ofList cs

/-- The query of a request, without its question mark. -/
def query (r : Request) : String :=
  String.ofList (((withoutFragment r.target).dropWhile (· != '?')).drop 1)

end Request

/-! ### Bodies of requests -/

/-- What a request brings. -/
inductive Payload
  /-- Nothing. -/
  | nothing
  /-- Bytes that are no JSON text, or are not said to be one. -/
  | bytes
  /-- The value of a JSON text. -/
  | value (j : Json)
  /-- A JSON text that is malformed. -/
  | malformed
  /-- What is said to be a JSON text and cannot be read at all. -/
  | unreadable

/-- A text without blanks at the ends and in small letters. -/
def plainWord (cs : List Char) : List Char := (Text.trimBlank cs).map Char.toLower

/-- Whether a type of content is JSON or a dialect of it. -/
def isJsonType (contentType : String) : Bool :=
  let word := plainWord (contentType.toList.takeWhile (· != ';'))
  match word.dropWhile (· != '/') with
  | '/' :: subtype =>
    word.takeWhile (· != '/') == "application".toList && !subtype.contains '/' &&
      (subtype == "json".toList || "+json".toList.isSuffixOf subtype)
  | _ => false

/-- What a JSON text brings. -/
def Payload.ofText (cs : List Char) : Payload :=
  match Json.read cs with
  | .ok j => .value j
  | .error (.malformed _ _) => .malformed
  | .error _ => .unreadable

/-- What a request **brings**. -/
def Request.payload (r : Request) : Payload :=
  if r.body.isEmpty then .nothing
  else if ((r.headers.get? "content-type").map isJsonType).getD false then
    match Wide.decode r.body with
    | some cs => .ofText cs
    | none => .unreadable
  else .bytes

/-! ### Responses -/

/-- The body of a response. -/
inductive Content
  /-- A JSON text. -/
  | json (j : Json)
  /-- Any other text. -/
  | text (s : String)

/-- A **response**. -/
structure Response where
  /-- The status. -/
  status : Nat
  /-- The headers, with small names. -/
  headers : Headers := []
  /-- The body. -/
  content : Content

namespace Response

/-- A response with a JSON text, whose type is told unless the headers do. -/
def json (status : Nat) (j : Json) (headers : Headers) : Response where
  status
  headers :=
    if (headers.get? "content-type").isSome then headers.small
    else headers.small ++ [("content-type", "application/json")]
  content := .json j

/-- A response with a plain text. -/
def plain (status : Nat) (s : String) (headers : Headers) : Response where
  status
  headers := headers ++ [("content-type", "text/plain; charset=utf-8")]
  content := .text s

/-- A response that sends to another place. -/
def redirect (location : String) : Response where
  status := 307
  headers := [("location", location)]
  content := .text ""

/-- A response as it is sent: none has a body where only the headers are asked for. -/
def sent (method : String) (r : Response) : Response :=
  if method == "HEAD" then { r with content := .text "" } else r

end Response

end DepGraph.Http
