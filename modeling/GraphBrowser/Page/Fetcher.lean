import GraphBrowser.Collection
import GraphBrowser.Http
import GraphBrowser.Page

set_option autoImplicit false

namespace GraphBrowser

inductive Fetcher where
  | collection (c : Collection)
  | http (base : String) (circumstances : Http.Circumstances)
  | manual

namespace Fetcher

def fetch (f : Fetcher) (id : String) : List Http.Request × Option FetchResult :=
  match f with
  | .collection c => ([], some (c.fetch id))
  | .http base circumstances => (Http.fetch base id circumstances).map (·) some
  | .manual => ([], none)

end Fetcher

namespace Page

variable {α : Type} [Coordinate α]

def settleTasks (fetcher : Fetcher) (p : Page α) : List Task → List Http.Request × Page α
  | [] => ([], p)
  | task :: rest =>
      let (sent, result) := fetcher.fetch task.id
      let p := match result with
        | some result => p.answer task result
        | none => p
      let (others, p) := settleTasks fetcher p rest
      (sent ++ others, p)

def settle (fetcher : Fetcher) (p : Page α) : List Http.Request × Page α :=
  settleTasks fetcher p p.tasks

def deliver (p : Page α) (id : String) (result : FetchResult) : Option (Page α) :=
  (p.tasks.find? (·.id == id)).map fun task => p.answer task result

end Page

end GraphBrowser
