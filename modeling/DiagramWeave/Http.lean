import DiagramWeave.World.Basic

/-!
# The HTTP client

One client is shared by all runs of a program. It is made when it is first asked for, and made anew after
it has been closed. It follows redirects, up to a limit; other clients may not.
-/
namespace DiagramWeave

/-- The version of the program. -/
def programVersion : String := "1.0.0"

structure HttpClient where
  userAgent : String
  /-- The longest time in seconds that a request may take, if it does not say so itself. -/
  timeout : Float
  followRedirects : Bool

/-- The client that all runs share. -/
def HttpClient.shared : HttpClient :=
  ⟨"plantmark/" ++ programVersion, 60.0, true⟩

/-- The most redirects that are followed. -/
def redirectLimit : Nat := 20

/-- The server asks to look elsewhere. -/
def isRedirect (status : Nat) : Bool :=
  status == 301 || status == 302 || status == 303 || status == 307 || status == 308

/-- The server answers with what was asked for. -/
def isSuccess (status : Nat) : Bool :=
  200 ≤ status && status ≤ 299

/-- What a location means on a page: an address of its own, a path on the same server, or a path beside
    the page. -/
def resolveLocation (page location : String) : String :=
  if isUrl location.toList then location
  else
    match Text.splitFirst? ':' page.toList with
    | some (scheme, '/' :: '/' :: address) =>
      let host := address.takeWhile (· != '/')
      let origin := scheme ++ ':' :: '/' :: '/' :: host
      match location.toList with
      | '/' :: '/' :: _ => String.ofList (scheme ++ ':' :: location.toList)
      | '/' :: _ => String.ofList (origin ++ location.toList)
      | path =>
        let beside := match Text.splitLast? '/' (address.drop host.length) with
          | some (before, _) => before
          | none => []
        String.ofList (origin ++ beside ++ '/' :: path)
    | _ => location

/-- Sends a request and follows redirects, `redirects` at most. -/
def HttpClient.getFrom (client : HttpClient) (url : String) (timeout : Float) :
    Nat → Action (Except String (Nat × ByteArray))
  | 0 => return .error "Exceeded maximum allowed redirects."
  | redirects + 1 => do
    match ← World.send ⟨url, timeout⟩ with
    | .failed cause => return .error cause
    | .answer status location body =>
      match location with
      | some location =>
        if client.followRedirects && isRedirect status then
          client.getFrom (resolveLocation url location) timeout redirects
        else return .ok (status, body)
      | none => return .ok (status, body)

/-- The status and body at an address, or why there is none. -/
def HttpClient.get (client : HttpClient) (url : String) (timeout : Float) :
    Action (Except String (Nat × ByteArray)) :=
  client.getFrom url timeout (redirectLimit + 1)

/-- The clients that have been made, in order, with whether each is closed. The last one is the shared
    client as long as it is open. -/
structure ClientPool where
  closed : List Bool

namespace ClientPool

/-- No client has been asked for. -/
def start : ClientPool := ⟨[]⟩

/-- The shared client's number, and the pool with it. -/
def get (pool : ClientPool) : Nat × ClientPool :=
  if pool.closed.getLast? == some false then (pool.closed.length - 1, pool)
  else (pool.closed.length, ⟨pool.closed ++ [false]⟩)

/-- Closes the shared client, if there is one. -/
def close (pool : ClientPool) : ClientPool :=
  ⟨pool.closed.map fun _ => true⟩

end ClientPool

end DiagramWeave
