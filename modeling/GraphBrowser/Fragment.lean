set_option autoImplicit false

namespace GraphBrowser

structure NodeSummary where
  id : String
  label : Option String
deriving DecidableEq, Repr

structure LinkTriple where
  source : String
  destination : String
  name : String
deriving DecidableEq, Repr

structure Fragment where
  node : NodeSummary
  links : List LinkTriple
deriving DecidableEq, Repr

namespace Fragment

def id (f : Fragment) : String := f.node.id

end Fragment

inductive FetchError where
  | network (reason : String)
  | status (code : Nat)
  | undecodable (reason : String)
  | notFound (id : String)
deriving DecidableEq, Repr

def FetchError.message : FetchError → String
  | .network reason => "network error: " ++ reason
  | .status code => "HTTP " ++ toString code
  | .undecodable reason => "could not decode fragment: " ++ reason
  | .notFound id => "no such node: " ++ id

abbrev FetchResult := Except FetchError Fragment

inductive Failure where
  | fetch (id : String) (cause : FetchError)
  | mismatch (requested received : String)
deriving DecidableEq, Repr

def Failure.message : Failure → String
  | .fetch id cause => "fetch for " ++ id ++ " failed: " ++ cause.message
  | .mismatch requested received =>
      "fragment for " ++ received ++ " returned when " ++ requested ++ " was requested"

end GraphBrowser
