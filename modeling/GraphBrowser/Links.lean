set_option autoImplicit false

namespace GraphBrowser

structure Link where
  source : String
  destination : String
  -- Each name once, in the order in which they were first seen.
  names : List String
  visible : Bool
deriving DecidableEq, Repr

namespace Link

def ends (l : Link) : String × String := (l.source, l.destination)

def label (l : Link) : String := ",".intercalate l.names

def isLoop (l : Link) : Bool := l.source == l.destination

def touches (l : Link) (id : String) : Bool := l.source == id || l.destination == id

def addName (l : Link) (name : String) : Link := { l with names := l.names ++ [name] }

end Link

-- Links in the order of their first observation, one for each ordered pair of nodes. None is ever forgotten.
structure LinkTable where
  toList : List Link
  distinct : (toList.map Link.ends).Nodup
deriving DecidableEq

namespace LinkTable

def empty : LinkTable := ⟨[], List.nodup_nil⟩

def size (t : LinkTable) : Nat := t.toList.length

def get? (t : LinkTable) (source destination : String) : Option Link :=
  t.toList.find? (·.ends == (source, destination))

def isVisible (t : LinkTable) (source destination : String) : Bool :=
  ((t.get? source destination).map Link.visible).getD false

def map (t : LinkTable) (f : Link → Link) (keeps : ∀ l, (f l).ends = l.ends) : LinkTable where
  toList := t.toList.map f
  distinct := by
    have same : Link.ends ∘ f = Link.ends := funext keeps
    simpa [List.map_map, same] using t.distinct

def update (t : LinkTable) (source destination : String) (f : Link → Link)
    (keeps : ∀ l, (f l).ends = l.ends) : LinkTable :=
  t.map (fun l => if l.ends = (source, destination) then f l else l) fun l => by
    split <;> simp_all

theorem not_mem_of_get?_eq_none {t : LinkTable} {source destination : String}
    (absent : t.get? source destination = none) :
    (source, destination) ∉ t.toList.map Link.ends := by
  simpa [get?] using absent

def add (t : LinkTable) (l : Link) (fresh : t.get? l.source l.destination = none) : LinkTable where
  toList := t.toList ++ [l]
  distinct := by
    have absent := not_mem_of_get?_eq_none fresh
    rw [List.map_append, List.nodup_append]
    refine ⟨t.distinct, by simp, ?_⟩
    intro a old b new same
    have target : a = (l.source, l.destination) := by
      rw [same]
      simpa [Link.ends] using new
    exact absent (target ▸ old)

def register (t : LinkTable) (source destination name : String) : Bool × LinkTable :=
  match known : t.get? source destination with
  | none => (true, t.add ⟨source, destination, [name], false⟩ known)
  | some l =>
      if name ∈ l.names then (false, t)
      else (true, t.update source destination (·.addName name) fun _ => rfl)

def connect (t : LinkTable) (source destination : String) : Bool × LinkTable :=
  match t.get? source destination with
  | none => (false, t)
  | some l =>
      if l.visible then (false, t)
      else (true, t.update source destination ({ · with visible := true }) fun _ => rfl)

def disconnectAll (t : LinkTable) (id : String) : Nat × LinkTable :=
  (t.toList.countP fun l => l.touches id && l.visible,
    t.map (fun l => if l.touches id then { l with visible := false } else l) fun l => by
      split <;> rfl)

def outbound (t : LinkTable) (id : String) : List Link :=
  (t.toList.filter (·.source == id)).mergeSort fun a b => decide (a.destination ≤ b.destination)

def inbound (t : LinkTable) (id : String) : List Link :=
  (t.toList.filter (·.destination == id)).mergeSort fun a b => decide (a.source ≤ b.source)

def shown (t : LinkTable) : List Link := t.toList.filter Link.visible

end LinkTable

end GraphBrowser
