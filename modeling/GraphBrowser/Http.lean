import GraphBrowser.Fragment.Refusal
import GraphBrowser.Text.Percent

set_option autoImplicit false

namespace GraphBrowser.Http

structure Request where
  url : String
  method : String := "GET"
  mode : String := "SameOrigin"
deriving DecidableEq, Repr

structure Response where
  status : Nat
  textRefused : Option String
  textLost : Option String
  body : Option String
deriving DecidableEq, Repr

inductive Reply where
  | failed (reason : String)
  | foreign
  | response (r : Response)
deriving DecidableEq, Repr

structure Circumstances where
  refused : Option String
  window : Bool
  reply : Reply
deriving DecidableEq, Repr

def request (base id : String) : Request := { url := base ++ "?uri=" ++ Text.percentEncode id }

def thrown (reason : String) : FetchError := .network ("JsValue(" ++ reason ++ ")")

def Response.isOk (r : Response) : Bool := 200 ≤ r.status && r.status ≤ 299

def Response.read (r : Response) : FetchResult :=
  if r.isOk then
    match r.textRefused, r.textLost, r.body with
    | some reason, _, _ => .error (thrown reason)
    | none, some reason, _ => .error (thrown reason)
    | none, none, none => .error (.undecodable "body is not text")
    | none, none, some body => Fragment.decode body
  else .error (.status r.status)

def Reply.read : Reply → FetchResult
  | .failed reason => .error (thrown reason)
  | .foreign => .error (.network "response is not a Response")
  | .response r => r.read

def fetch (base id : String) (c : Circumstances) : List Request × FetchResult :=
  match c.refused, c.window with
  | some reason, _ => ([], .error (thrown reason))
  | none, false => ([], .error (.network "no window"))
  | none, true => ([request base id], c.reply.read)

end GraphBrowser.Http
