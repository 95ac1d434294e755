import GraphBrowser.Fragment
import GraphBrowser.IdMap

set_option autoImplicit false

namespace GraphBrowser

abbrev Collection := IdMap Fragment

namespace Collection

-- Of two fragments for one node the later one counts.
def ofList (fragments : List Fragment) : Collection :=
  fragments.foldl (fun c f => c.insert f.id f) ∅

def fetch (fragments : Collection) (id : String) : FetchResult :=
  match fragments[id]? with
  | some fragment => .ok fragment
  | none => .error (.notFound id)

end Collection

end GraphBrowser
