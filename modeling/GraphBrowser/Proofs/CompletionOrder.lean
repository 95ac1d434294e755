import GraphBrowser.Proofs.Answers

set_option autoImplicit false

namespace GraphBrowser

theorem accepted_perm (first second : List Answer) (same : first.Perm second) (fragment : Fragment) :
    Accepted first fragment ↔ Accepted second fragment := by
  simp only [Accepted, same.mem_iff]

namespace LinkTable

theorem known_iff_named (t : LinkTable) (worded : t.Named) (s d : String) :
    (t.get? s d).isSome = true ↔ ∃ name, name ∈ t.names s d := by
  cases found : t.get? s d with
  | none => simp [names, found]
  | some l =>
      rw [names_of_get t s d l found]
      exact iff_of_true rfl (List.exists_mem_of_ne_nil _ (worded s d l found))

end LinkTable

namespace Explorer

variable {α σ ε : Type} [Coordinate α]

structure Alike (y z : Explorer α σ ε) : Prop where
  nodes : ∀ id : String, (y.nodes[id]?).map face = (z.nodes[id]?).map face
  links : ∀ s d, (y.links.get? s d).map Link.visible = (z.links.get? s d).map Link.visible
  names : ∀ s d name, name ∈ y.links.names s d ↔ name ∈ z.links.names s d
  pending : y.pending = z.pending
  failures : y.failures = z.failures

theorem answered_alike (x y z : Explorer α σ ε) (first second : List Answer) (same : first.Perm second)
    (left : Answered x first y) (right : Answered x second z) (leftNamed : y.links.Named)
    (rightNamed : z.links.Named) : Alike y z := by
  have accepted := accepted_perm first second same
  have names (s d name : String) : name ∈ y.links.names s d ↔ name ∈ z.links.names s d := by
    rw [left.names, right.names]
    simp only [accepted]
  have visible (s d : String) : y.links.isVisible s d = z.links.isVisible s d := by
    rw [Bool.eq_iff_iff, left.visible, right.visible]
    simp only [accepted]
  refine ⟨?_, ?_, names, ?_, ?_⟩
  · intro id
    by_cases answered : ∃ f, Accepted first f ∧ f.id = id
    · obtain ⟨f, acceptedFirst, rfl⟩ := answered
      rw [left.nodes f acceptedFirst, right.nodes f ((accepted f).mp acceptedFirst)]
    · rw [left.others id fun f acceptedFirst here => answered ⟨f, acceptedFirst, here⟩,
        right.others id fun f acceptedSecond here => answered ⟨f, (accepted f).mpr acceptedSecond, here⟩]
  · intro s d
    have known : (y.links.get? s d).isSome = (z.links.get? s d).isSome := by
      rw [Bool.eq_iff_iff, LinkTable.known_iff_named _ leftNamed, LinkTable.known_iff_named _ rightNamed]
      exact exists_congr (names s d)
    have shown := visible s d
    cases foundLeft : y.links.get? s d <;> cases foundRight : z.links.get? s d <;>
      simp_all [LinkTable.isVisible]
  · apply Std.ExtTreeMap.ext_getElem?
    intro id
    rw [left.pending, right.pending]
    simp only [(same.map (·.ticket.node)).mem_iff]
  · apply Std.ExtTreeMap.ext_getElem?
    intro id
    by_cases refused : ∃ a ∈ first, a.ticket.node = id ∧ refusal a.ticket.node a.result ≠ none
    · obtain ⟨a, member, rfl, held⟩ := refused
      obtain ⟨failure, found⟩ := Option.ne_none_iff_exists'.mp held
      rw [left.refused a member failure found, right.refused a (same.mem_iff.mp member) failure found]
    · have unrefused (a : Answer) (member : a ∈ first) (node : a.ticket.node = id) :
          refusal a.ticket.node a.result = none := by
        by_contra held
        exact refused ⟨a, member, node, held⟩
      rw [left.spared id unrefused, right.spared id fun a member => unrefused a (same.mem_iff.mpr member)]

variable [Surface σ α ε] [DecidableEq ε]

def redeemAll (x : Explorer α σ ε) : List Answer → List (Ticket × Outcome) × Explorer α σ ε
  | [] => ([], x)
  | a :: rest =>
      let (outcome, x) := x.redeem a.ticket a.result
      let (outcomes, x) := x.redeemAll rest
      ((a.ticket, outcome) :: outcomes, x)

theorem ready_rest (x : Explorer α σ ε) (a : Answer) (rest : List Answer) (ready : Ready x (a :: rest))
    (answered : Answered x [a] (x.redeem a.ticket a.result).2) :
    Ready (x.redeem a.ticket a.result).2 rest ∧
      ∀ b ∈ rest, foreseen (x.redeem a.ticket a.result).2 b = foreseen x b := by
  have growth := redeem_growth x a.ticket a.result
  have kept := answered_askers x _ [a] rest answered ready
  have apart := ready.apart
  rw [List.map_cons, List.nodup_cons] at apart
  refine ⟨⟨?_, ?_, ?_, ?_, apart.2⟩, ?_⟩
  · intro id fetch found
    rw [answered.pending] at found
    split at found
    next => cases found
    next =>
      obtain ⟨distinct, linked⟩ := ready.founded id fetch found
      exact ⟨distinct, fun k member => growth_linked x _ growth id k (linked k member)⟩
  · exact growth_ends_shown x _ growth ready.ends
  · intro b member
    rw [Live, (kept b member).1]
    exact ready.live b (List.mem_cons_of_mem a member)
  · intro b member
    rw [answered.others, ready.fresh b (List.mem_cons_of_mem a member)]
    intro f accepted same
    obtain ⟨c, listed, node, _⟩ := refusal_accepted [a] f accepted
    rw [List.mem_singleton.mp listed] at node
    exact apart.1 (List.mem_map.mpr ⟨b, member, by rw [node, same]⟩)
  · intro b member
    obtain ⟨pending, anchors⟩ := kept b member
    have counted : (x.askers b.ticket.node).countP (fun k => (x.redeem a.ticket a.result).2.nodes.isVisible k.anchor) =
        (x.askers b.ticket.node).countP fun k => x.nodes.isVisible k.anchor := by
      apply List.countP_congr
      intro k waits
      rw [anchors k waits]
    simp only [foreseen, askers_congr x _ b.ticket.node pending, counted]

theorem redeem_all_answered (x : Explorer α σ ε) (answers : List Answer) (ready : Ready x answers) :
    Answered x answers (x.redeemAll answers).2 ∧
      (x.redeemAll answers).1 = answers.map fun a => (a.ticket, foreseen x a) := by
  induction answers generalizing x with
  | nil => exact ⟨answered_nil x, rfl⟩
  | cons a rest ih =>
      have here (b : Answer) (member : b ∈ [a]) : b ∈ a :: rest := List.mem_singleton.mp member ▸ List.mem_cons_self
      have alone : Ready x [a] := ⟨ready.founded, ready.ends, fun b member => ready.live b (here b member),
        fun b member => ready.fresh b (here b member), List.nodup_singleton _⟩
      obtain ⟨answered, outcome⟩ := redeem_answered x a alone
      obtain ⟨later, foretold⟩ := ready_rest x a rest ready answered
      obtain ⟨answeredRest, outcomes⟩ := ih (x.redeem a.ticket a.result).2 later
      refine ⟨answered_append x _ _ [a] rest ready answered answeredRest, ?_⟩
      have first : (x.redeemAll (a :: rest)).1 =
          (a.ticket, (x.redeem a.ticket a.result).1) :: ((x.redeem a.ticket a.result).2.redeemAll rest).1 := rfl
      rw [first, outcome, outcomes, List.map_cons]
      congr 1
      apply List.map_congr_left
      intro b member
      rw [foretold b member]

theorem redeem_all_edits (x : Explorer α σ ε) (answers : List Answer) :
    LinkTable.Edits x.links (x.redeemAll answers).2.links := by
  induction answers generalizing x with
  | nil => exact .refl
  | cons a rest ih => exact (growth_edits x _ (redeem_growth x a.ticket a.result)).trans (ih _)

variable {δ : Type} [Adjustable σ δ]

theorem completion_order_is_immaterial (surface : σ) (settings : Settings α) (ops : List (Operation α ε δ))
    (first second : List Answer) (same : first.Perm second)
    (live : ∀ a ∈ first, ((Explorer.new surface settings : Explorer α σ ε).run ops).Live a.ticket)
    (fresh : ∀ a ∈ first, ((Explorer.new surface settings : Explorer α σ ε).run ops).nodes[a.ticket.node]? = none)
    (apart : (first.map (·.ticket.node)).Nodup) :
    let x : Explorer α σ ε := (Explorer.new surface settings).run ops
    (x.redeemAll first).1.Perm (x.redeemAll second).1 ∧ Alike (x.redeemAll first).2 (x.redeemAll second).2 := by
  intro x
  have founded : Founded x := run_founded surface settings ops
  have ends : EndsShown x := run_ends_shown surface settings ops
  have named (answers : List Answer) : (x.redeemAll answers).2.links.Named :=
    LinkTable.edits_named _ _ (redeem_all_edits x answers) (run_named surface settings ops)
  have firstReady : Ready x first := ⟨founded, ends, live, fresh, apart⟩
  have secondReady : Ready x second := ⟨founded, ends, fun a member => live a (same.mem_iff.mpr member),
    fun a member => fresh a (same.mem_iff.mpr member), (same.map _).nodup_iff.mp apart⟩
  obtain ⟨firstAnswered, firstOutcomes⟩ := redeem_all_answered x first firstReady
  obtain ⟨secondAnswered, secondOutcomes⟩ := redeem_all_answered x second secondReady
  refine ⟨?_, answered_alike x _ _ first second same firstAnswered secondAnswered (named first) (named second)⟩
  rw [firstOutcomes, secondOutcomes]
  exact same.map _

-- a asks for b and d asks for c.
def forked : List (Operation Float Nat Empty) :=
  [.openRoot ⟨⟨"a", none⟩, [⟨"a", "b", "knows"⟩]⟩, .openRoot ⟨⟨"d", none⟩, [⟨"d", "c", "knows"⟩]⟩,
    .expand "a" .outbound, .expand "d" .outbound]

def fromB : Answer := ⟨⟨"b", 1⟩, .ok ⟨⟨"b", some "B"⟩, [⟨"b", "c", "likes"⟩]⟩⟩

def fromC : Answer := ⟨⟨"c", 2⟩, .ok ⟨⟨"c", none⟩, [⟨"b", "c", "knows"⟩]⟩⟩

theorem completion_order_is_immaterial_for_two :
    [fromB, fromC].Perm [fromC, fromB] ∧ (∀ a ∈ [fromB, fromC], (recorded forked).Live a.ticket) ∧
      (∀ a ∈ [fromB, fromC], (recorded forked).nodes[a.ticket.node]? = none) ∧
      ([fromB, fromC].map (·.ticket.node)).Nodup ∧
      ((recorded forked).redeemAll [fromB, fromC]).1.Perm ((recorded forked).redeemAll [fromC, fromB]).1 ∧
      Alike ((recorded forked).redeemAll [fromB, fromC]).2 ((recorded forked).redeemAll [fromC, fromB]).2 := by
  have swapped : [fromB, fromC].Perm [fromC, fromB] := .swap fromC fromB []
  have live : ∀ a ∈ [fromB, fromC], (recorded forked).Live a.ticket := by
    unfold Live
    decide +kernel
  have fresh : ∀ a ∈ [fromB, fromC], (recorded forked).nodes[a.ticket.node]? = none := by decide +kernel
  have apart : ([fromB, fromC].map (·.ticket.node)).Nodup := by decide
  exact ⟨swapped, live, fresh, apart, completion_order_is_immaterial (CallLog.empty ⟨800, 600⟩) .standard forked
    [fromB, fromC] [fromC, fromB] swapped live fresh apart⟩

example : ((recorded forked).redeemAll [fromB, fromC]).2.links.names "b" "c" = ["likes", "knows"] ∧
    ((recorded forked).redeemAll [fromC, fromB]).2.links.names "b" "c" = ["knows", "likes"] := by decide +kernel

end Explorer

end GraphBrowser
