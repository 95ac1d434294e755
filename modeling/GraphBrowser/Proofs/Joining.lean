import GraphBrowser.Proofs.Books
import GraphBrowser.Proofs.CallCount

set_option autoImplicit false

namespace GraphBrowser

def Link.drawnIf (l : Link) (drawn : Bool) : Link := { l with visible := l.visible || drawn }

def Asker.ends (a : Asker) (neighbor : String) : String × String := a.direction.ends a.anchor neighbor

theorem Asker.ends_inj (a b : Asker) (neighbor : String) (apartFirst : a.anchor ≠ neighbor)
    (apartSecond : b.anchor ≠ neighbor) (same : a.ends neighbor = b.ends neighbor) : a = b := by
  cases a with
  | mk anchor direction =>
      cases b with
      | mk other turned =>
          cases direction <;> cases turned <;>
            simp_all [Asker.ends, Direction.ends]

namespace LinkTable

def Drawn (t u : LinkTable) (drawn : String → String → Bool) : Prop :=
  ∀ s d, u.get? s d = (t.get? s d).map (·.drawnIf (drawn s d))

theorem drawn_refl (t : LinkTable) : t.Drawn t fun _ _ => false := by
  intro s d
  have same : (fun l : Link => l.drawnIf false) = id := by
    funext l
    simp [Link.drawnIf]
  rw [same, Option.map_id, id]

theorem drawn_trans (t u v : LinkTable) (f g : String → String → Bool) (first : t.Drawn u f)
    (second : u.Drawn v g) : t.Drawn v fun s d => f s d || g s d := by
  intro s d
  rw [second s d, first s d, Option.map_map]
  congr 1
  funext l
  simp [Link.drawnIf, Bool.or_assoc]

theorem drawn_congr (t u : LinkTable) (f g : String → String → Bool) (drawn : t.Drawn u f)
    (same : ∀ s d, g s d = f s d) : t.Drawn u g := by
  intro s d
  rw [same, drawn]

theorem drawn_visible (t u : LinkTable) (f : String → String → Bool) (drawn : t.Drawn u f) (s d : String) :
    u.isVisible s d = (t.isVisible s d || ((t.get? s d).isSome && f s d)) := by
  rw [isVisible, drawn]
  cases found : t.get? s d <;> simp [isVisible, found, Link.drawnIf]

theorem drawn_known (t u : LinkTable) (f : String → String → Bool) (drawn : t.Drawn u f) (s d : String) :
    (u.get? s d).isSome = (t.get? s d).isSome := by
  rw [drawn, Option.isSome_map]

theorem connect_drawn (t : LinkTable) (source destination : String) :
    t.Drawn (t.connect source destination).2 fun s d => (s, d) == (source, destination) := by
  intro s d
  rw [connect_get]
  by_cases here : s = source ∧ d = destination
  · obtain ⟨rfl, rfl⟩ := here
    simp [Link.drawnIf]
  · have elsewhere : ((s, d) == (source, destination)) = false := by simpa using here
    simp only [if_neg here, elsewhere]
    exact drawn_refl t s d

theorem connect_idle (t : LinkTable) (source destination : String)
    (idle : (t.connect source destination).1 = false) : (t.connect source destination).2 = t := by
  unfold connect at idle ⊢
  split
  next => rfl
  next link known =>
    split
    next => rfl
    next hidden => simp [known, hidden] at idle

theorem connect_says (t : LinkTable) (source destination : String)
    (known : (t.get? source destination).isSome = true) :
    (t.connect source destination).1 = !t.isVisible source destination := by
  obtain ⟨link, found⟩ := Option.isSome_iff_exists.mp known
  rw [visible_of_get t source destination link found, Bool.eq_iff_iff, connect_fires]
  simp [found]

def gained (t u : LinkTable) : Nat := u.toList.countP fun l => l.visible && !t.isVisible l.source l.destination

theorem gained_none (t u : LinkTable) (same : ∀ s d, u.isVisible s d = true → t.isVisible s d = true) :
    gained t u = 0 := by
  apply List.countP_eq_zero.mpr
  intro l member
  cases visible : l.visible with
  | false => simp
  | true =>
      have shown : u.isVisible l.source l.destination = true := by
        rw [visible_of_get u _ _ l (get_of_mem u l member), visible]
      simp [same _ _ shown]

-- A key occurs once in a list without double keys, so counting it in addition adds one.
theorem count_one_more {β γ : Type} [BEq γ] [LawfulBEq γ] (key : β → γ) (list : List β)
    (distinct : (list.map key).Nodup) (counted : β → Bool) (one : β) (member : one ∈ list)
    (uncounted : counted one = false) :
    list.countP (fun b => counted b || key b == key one) = list.countP counted + 1 := by
  induction list with
  | nil => cases member
  | cons head tail ih =>
      rw [List.map_cons, List.nodup_cons] at distinct
      cases List.mem_cons.mp member with
      | inl here =>
          subst here
          have absent : tail.countP (fun b => counted b || key b == key one) = tail.countP counted := by
            apply List.countP_congr
            intro b inTail
            have other : key b ≠ key one := fun same =>
              distinct.1 (same ▸ List.mem_map_of_mem inTail)
            simp [other]
          simp [absent, uncounted]
      | inr later =>
          have other : key head ≠ key one := fun same =>
            distinct.1 (same ▸ List.mem_map_of_mem later)
          rw [List.countP_cons, List.countP_cons, ih distinct.2 later]
          simp [other]
          omega

theorem connect_gained (base t : LinkTable) (source destination : String) (link : Link)
    (kept : ∀ s d, base.isVisible s d = true → t.isVisible s d = true)
    (known : t.get? source destination = some link) (hidden : link.visible = false) :
    gained base (t.connect source destination).2 = gained base t + 1 := by
  have table : (t.connect source destination).2.toList = t.toList.map fun l =>
      if l.ends = (source, destination) then { l with visible := true } else l := by
    simp only [connect, known, hidden]
    rfl
  obtain ⟨member, ends⟩ := (get_some_iff t source destination link).mp known
  obtain ⟨sourceEq, destinationEq⟩ := get_ends t source destination link known
  have before : base.isVisible source destination = false := by
    cases earlier : base.isVisible source destination with
    | false => rfl
    | true =>
        have still := kept source destination earlier
        rw [visible_of_get t source destination link known, hidden] at still
        cases still
  have more := count_one_more Link.ends t.toList t.distinct
    (fun l => l.visible && !base.isVisible l.source l.destination) link member (by simp [hidden])
  rw [gained, table, List.countP_map, gained, ← more]
  apply List.countP_congr
  intro l inTable
  by_cases here : l.ends = (source, destination)
  · obtain ⟨rfl, rfl⟩ := Prod.mk.inj here
    simp [here, ends, before]
  · simp [here, ends]

end LinkTable

namespace Explorer

variable {α σ ε : Type} [Coordinate α]

def askers (x : Explorer α σ ε) (id : String) : List Asker := (x.pending[id]?.map Pending.askers).getD []

theorem askers_of_get (x : Explorer α σ ε) (id : String) (fetch : Pending) (found : x.pending[id]? = some fetch) :
    x.askers id = fetch.askers := by
  rw [askers, found]
  rfl

theorem askers_congr (x y : Explorer α σ ε) (id : String) (same : y.pending[id]? = x.pending[id]?) :
    y.askers id = x.askers id := by
  rw [askers, same, askers]

variable [Surface σ α ε]

theorem join_nodes (x : Explorer α σ ε) (a b : String) : (x.join a b).2.nodes = x.nodes := by
  rcases join_cases x a b with idle | ⟨source, destination, link, _, _, _, _, _, _, joined⟩
  · rw [idle]
  · rw [joined]

theorem join_asks (x : Explorer α σ ε) (a b : String) :
    (x.join a b).1 = ((x.nodes.isVisible a && x.nodes.isVisible b) && (x.links.connect a b).1) ∧
      (x.join a b).2.links = if x.nodes.isVisible a && x.nodes.isVisible b then (x.links.connect a b).2 else x.links := by
  unfold join
  split
  next source destination foundSource foundDestination =>
    rw [NodeTable.visible_of_get x.nodes a source foundSource,
      NodeTable.visible_of_get x.nodes b destination foundDestination]
    cases shown : source.visible && destination.visible with
    | false => exact ⟨rfl, rfl⟩
    | true =>
        simp only [if_true, Bool.true_and]
        split
        next links connected =>
          have idle := LinkTable.connect_idle x.links a b (by rw [connected])
          exact ⟨by rw [connected], idle.symm⟩
        next links connected => simp only [connected, and_self]
  next absent =>
    have hidden : (x.nodes.isVisible a && x.nodes.isVisible b) = false := by
      cases foundSource : x.nodes[a]? with
      | none => simp [NodeTable.isVisible, foundSource]
      | some source =>
          cases foundDestination : x.nodes[b]? with
          | none => simp [NodeTable.isVisible, foundDestination]
          | some destination => exact absurd foundDestination (absent source destination foundSource)
    rw [hidden]
    exact ⟨rfl, rfl⟩

theorem join_drawn (x : Explorer α σ ε) (a b : String) : x.links.Drawn (x.join a b).2.links
    fun s d => (x.nodes.isVisible a && x.nodes.isVisible b) && (s, d) == (a, b) := by
  rw [(join_asks x a b).2]
  cases shown : x.nodes.isVisible a && x.nodes.isVisible b with
  | false => simpa using LinkTable.drawn_refl x.links
  | true => simpa using LinkTable.connect_drawn x.links a b

theorem join_gained (base : LinkTable) (x : Explorer α σ ε) (a b : String)
    (kept : ∀ s d, base.isVisible s d = true → x.links.isVisible s d = true) :
    base.gained (x.join a b).2.links = (x.join a b).1.toNat + base.gained x.links := by
  rcases join_cases x a b with idle | ⟨source, destination, link, _, _, _, _, known, hidden, joined⟩
  · simp [idle]
  · rw [joined]
    have more := LinkTable.connect_gained base x.links a b link kept known hidden
    simp only [more, Bool.toNat_true]
    omega

theorem join_tally (tally : Tally σ) (x : Explorer α σ ε) (a b : String) :
    tally.count (x.join a b).2.surface = (x.join a b).1.toNat * tally.perDraw + tally.count x.surface := by
  rcases join_cases x a b with idle | ⟨source, destination, link, _, _, _, _, _, _, joined⟩
  · simp [idle]
  · rw [joined]
    simp only [tally.connect, Bool.toNat_true]
    omega

theorem ends_visible (nodes : NodeTable ε) (asker : Asker) (neighbor : String) :
    (nodes.isVisible (asker.ends neighbor).1 && nodes.isVisible (asker.ends neighbor).2) =
      (nodes.isVisible asker.anchor && nodes.isVisible neighbor) := by
  cases asker with
  | mk anchor direction =>
      cases direction with
      | outbound => rfl
      | inbound => exact Bool.and_comm _ _

theorem join_neighbor_drawn (x : Explorer α σ ε) (asker : Asker) (neighbor : String) :
    x.links.Drawn (x.joinNeighbor asker neighbor).2.links fun s d =>
      (x.nodes.isVisible asker.anchor && x.nodes.isVisible neighbor) && (s, d) == asker.ends neighbor := by
  rw [← ends_visible]
  exact join_drawn x (asker.ends neighbor).1 (asker.ends neighbor).2

theorem join_all_nodes (neighbor : String) (askers : List Asker) (x : Explorer α σ ε) :
    (x.joinAll neighbor askers).2.nodes = x.nodes := by
  induction askers generalizing x with
  | nil => rfl
  | cons asker rest ih => exact (ih (x.joinNeighbor asker neighbor).2).trans (join_nodes x _ _)

def drawsFor (nodes : NodeTable ε) (neighbor : String) (askers : List Asker) (s d : String) : Bool :=
  askers.any fun a => nodes.isVisible a.anchor && (s, d) == a.ends neighbor

theorem join_all_drawn (neighbor : String) (askers : List Asker) (x : Explorer α σ ε)
    (shown : x.nodes.isVisible neighbor = true) :
    x.links.Drawn (x.joinAll neighbor askers).2.links (drawsFor x.nodes neighbor askers) := by
  induction askers generalizing x with
  | nil => exact LinkTable.drawn_refl x.links
  | cons asker rest ih =>
      have nodes : (x.joinNeighbor asker neighbor).2.nodes = x.nodes := join_nodes x _ _
      have later := ih (x.joinNeighbor asker neighbor).2 (by rw [nodes, shown])
      have both := LinkTable.drawn_trans _ _ _ _ _ (join_neighbor_drawn x asker neighbor) later
      refine LinkTable.drawn_congr _ _ _ _ both ?_
      intro s d
      simp only [drawsFor, List.any_cons, nodes, shown, Bool.and_true]

-- How many askers get a connector: those whose anchor is visible, less those that have one.
theorem join_all_count (neighbor : String) (askers : List Asker) (x : Explorer α σ ε)
    (shown : x.nodes.isVisible neighbor = true) (distinct : askers.Nodup)
    (apart : ∀ a ∈ askers, a.anchor ≠ neighbor)
    (known : ∀ a ∈ askers, (x.links.get? (a.ends neighbor).1 (a.ends neighbor).2).isSome = true) :
    (x.joinAll neighbor askers).1 = askers.countP fun a =>
      x.nodes.isVisible a.anchor && !x.links.isVisible (a.ends neighbor).1 (a.ends neighbor).2 := by
  induction askers generalizing x with
  | nil => rfl
  | cons asker rest ih =>
      rw [List.nodup_cons] at distinct
      have nodes : (x.joinNeighbor asker neighbor).2.nodes = x.nodes := join_nodes x _ _
      have drawn := join_neighbor_drawn x asker neighbor
      have first : (x.joinNeighbor asker neighbor).1 =
          (x.nodes.isVisible asker.anchor && !x.links.isVisible (asker.ends neighbor).1 (asker.ends neighbor).2) := by
        have asks := (join_asks x (asker.ends neighbor).1 (asker.ends neighbor).2).1
        rw [ends_visible, shown, Bool.and_true, LinkTable.connect_says _ _ _ (known asker List.mem_cons_self)] at asks
        exact asks
      have later := ih (x.joinNeighbor asker neighbor).2 (by rw [nodes, shown]) distinct.2
        (fun a member => apart a (List.mem_cons_of_mem asker member))
        (fun a member => by rw [LinkTable.drawn_known _ _ _ drawn, known a (List.mem_cons_of_mem asker member)])
      have same : rest.countP (fun a => (x.joinNeighbor asker neighbor).2.nodes.isVisible a.anchor &&
          !(x.joinNeighbor asker neighbor).2.links.isVisible (a.ends neighbor).1 (a.ends neighbor).2) =
          rest.countP (fun a => x.nodes.isVisible a.anchor &&
            !x.links.isVisible (a.ends neighbor).1 (a.ends neighbor).2) := by
        apply List.countP_congr
        intro a member
        -- Another asker has another link, so what was drawn now is not its link.
        have other : ((a.ends neighbor).1, (a.ends neighbor).2) ≠ asker.ends neighbor := by
          intro same
          have equal := Asker.ends_inj a asker neighbor (apart a (List.mem_cons_of_mem asker member))
            (apart asker List.mem_cons_self) same
          exact distinct.1 (equal ▸ member)
        have undrawn : (((a.ends neighbor).1, (a.ends neighbor).2) == asker.ends neighbor) = false := by simpa using other
        rw [nodes, LinkTable.drawn_visible _ _ _ drawn, undrawn]
        simp
      change (x.joinNeighbor asker neighbor).1.toNat + ((x.joinNeighbor asker neighbor).2.joinAll neighbor rest).1 = _
      rw [later, same, List.countP_cons, first, Nat.add_comm]
      cases x.nodes.isVisible asker.anchor &&
        !x.links.isVisible (asker.ends neighbor).1 (asker.ends neighbor).2 <;> rfl

theorem join_all_gained (base : LinkTable) (neighbor : String) (askers : List Asker) (x : Explorer α σ ε)
    (kept : ∀ s d, base.isVisible s d = true → x.links.isVisible s d = true) :
    base.gained (x.joinAll neighbor askers).2.links = (x.joinAll neighbor askers).1 + base.gained x.links := by
  induction askers generalizing x with
  | nil => exact (Nat.zero_add _).symm
  | cons asker rest ih =>
      have first := join_gained base x (asker.ends neighbor).1 (asker.ends neighbor).2 kept
      have still : ∀ s d, base.isVisible s d = true → (x.joinNeighbor asker neighbor).2.links.isVisible s d = true := by
        intro s d before
        rw [LinkTable.drawn_visible _ _ _ (join_neighbor_drawn x asker neighbor), kept s d before, Bool.true_or]
      have later := ih (x.joinNeighbor asker neighbor).2 still
      change base.gained ((x.joinNeighbor asker neighbor).2.joinAll neighbor rest).2.links =
        (x.joinNeighbor asker neighbor).1.toNat + ((x.joinNeighbor asker neighbor).2.joinAll neighbor rest).1 +
          base.gained x.links
      change base.gained (x.joinNeighbor asker neighbor).2.links =
        (x.joinNeighbor asker neighbor).1.toNat + base.gained x.links at first
      omega

theorem join_all_tally (tally : Tally σ) (neighbor : String) (askers : List Asker) (x : Explorer α σ ε) :
    tally.count (x.joinAll neighbor askers).2.surface =
      (x.joinAll neighbor askers).1 * tally.perDraw + tally.count x.surface := by
  induction askers generalizing x with
  | nil => simp [joinAll]
  | cons asker rest ih =>
      have first := join_tally tally x (asker.ends neighbor).1 (asker.ends neighbor).2
      have later := ih (x.joinNeighbor asker neighbor).2
      change tally.count ((x.joinNeighbor asker neighbor).2.joinAll neighbor rest).2.surface =
        ((x.joinNeighbor asker neighbor).1.toNat + ((x.joinNeighbor asker neighbor).2.joinAll neighbor rest).1) *
          tally.perDraw + tally.count x.surface
      change tally.count (x.joinNeighbor asker neighbor).2.surface =
        (x.joinNeighbor asker neighbor).1.toNat * tally.perDraw + tally.count x.surface at first
      rw [later, first, Nat.add_mul]
      omega

end Explorer

end GraphBrowser
