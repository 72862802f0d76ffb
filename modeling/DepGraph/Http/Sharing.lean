import DepGraph.Http.Message

/-!
# Sharing with other origins

A page of another origin may use the service, with credentials, if responses say so. Every response
says that it depends on the origin of the request, and names that origin if there is one. Before a
request with an unusual method or header, a page **asks** whether it may send it; that question is
answered by itself.
-/

namespace DepGraph.Http.Sharing

/-- The methods that pages of other origins may use. -/
def methods : List String := ["DELETE", "GET", "HEAD", "OPTIONS", "PATCH", "POST", "PUT"]

/-- How long the answer to a question holds, in seconds. -/
def holds : String := "600"

/-- The headers that name an origin that may use a response. -/
def allow (origin : String) (hs : Headers) : Headers :=
  (hs.set "access-control-allow-credentials" "true").set "access-control-allow-origin" origin

/-- A response that may be **shared** with the origin of the request. -/
def share (request : Request) (response : Response) : Response :=
  let headers :=
    match request.headers.get? "origin" with
    | some origin => allow origin response.headers
    | none => response.headers
  { response with headers := headers.vary "Origin" }

/-- The headers of an answer to a question about headers: they are allowed as they are asked for. -/
def askedHeaders (request : Request) : Headers :=
  match request.headers.get? "access-control-request-headers" with
  | some names => [("access-control-allow-headers", names)]
  | none => []

/-- What a question asks for that is not allowed: another method, or a private network. -/
def refused (request : Request) (method : String) : List String :=
  (if methods.contains method then [] else ["method"]) ++
    if (request.headers.get? "access-control-request-private-network").isSome then
      ["private-network"]
    else []

/-- The answer to a request that **asks** whether it may use a method, if it is one. -/
def answer? (request : Request) : Option Response :=
  match request.headers.get? "origin", request.headers.get? "access-control-request-method" with
  | some origin, some method =>
    if request.method == "OPTIONS" then
      let headers := allow origin
        ([("vary", "Origin"), ("access-control-allow-methods", String.intercalate ", " methods),
          ("access-control-max-age", holds)] ++ askedHeaders request)
      match refused request method with
      | [] => some (.plain 200 "OK" headers)
      | parts => some (.plain 400 ("Disallowed CORS " ++ String.intercalate ", " parts) headers)
    else none
  | _, _ => none

end DepGraph.Http.Sharing
