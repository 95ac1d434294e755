import GraphBrowser.Proofs.CallCount
import GraphBrowser.Proofs.Frames
import GraphBrowser.Proofs.Keeping
import Mathlib.Data.List.Chain

set_option autoImplicit false

namespace GraphBrowser

namespace Call

variable {α : Type}

def creation? : Call α → Option String
  | .create id => some id
  | _ => none

def binding? (id : String) : Call α → Option Nat
  | .bind other element => if other = id then some element else none
  | _ => none

def turn? (element : Nat) : Call α → Option Bool
  | .reveal other => if other = element then some true else none
  | .hide other => if other = element then some false else none
  | _ => none

def mentions : Call α → List Nat
  | .create _ => []
  | .connect source target _ => [source, target]
  | .bind _ element | .reveal element | .hide element | .disconnect element | .setOffset element _
  | .repaint element => [element]

def creations (calls : List (Call α)) : List String := calls.filterMap creation?

def bindings (calls : List (Call α)) (id : String) : List Nat := calls.filterMap (binding? id)

def turns (calls : List (Call α)) (element : Nat) : List Bool := calls.filterMap (turn? element)

def Introduced (calls : List (Call α)) : Prop :=
  ∀ before call after, calls = before ++ call :: after → ∀ element ∈ call.mentions, element < (creations before).length

theorem read_snoc {β : Type} (read : Call α → Option β) (calls : List (Call α)) (call : Call α) :
    (calls ++ [call]).filterMap read = calls.filterMap read ++ (read call).toList := by
  rw [List.filterMap_append]
  cases found : read call <;> simp [found]

theorem creations_snoc (calls : List (Call α)) (call : Call α) :
    creations (calls ++ [call]) = creations calls ++ call.creation?.toList := read_snoc creation? calls call

theorem bindings_snoc (calls : List (Call α)) (call : Call α) (id : String) :
    bindings (calls ++ [call]) id = bindings calls id ++ (call.binding? id).toList := read_snoc (binding? id) calls call

theorem turns_snoc (calls : List (Call α)) (call : Call α) (element : Nat) :
    turns (calls ++ [call]) element = turns calls element ++ (call.turn? element).toList :=
  read_snoc (turn? element) calls call

theorem introduced_snoc (calls : List (Call α)) (call : Call α) (introduced : Introduced calls)
    (made : ∀ element ∈ call.mentions, element < (creations calls).length) : Introduced (calls ++ [call]) := by
  intro before other after parts
  rcases (parted_snoc calls before after call other).mp parts with ⟨_, rfl, rfl⟩ | ⟨earlier, _, partsOld⟩
  · exact made
  · exact introduced before other earlier partsOld

theorem turn_mentions (call : Call α) (element : Nat) (visible : Bool) (turns : call.turn? element = some visible) :
    element ∈ call.mentions := by
  cases call <;> simp_all [turn?, mentions]

theorem unmade_turns (calls : List (Call α)) (introduced : Introduced calls) (element : Nat)
    (unmade : (creations calls).length ≤ element) : turns calls element = [] := by
  rw [turns, List.filterMap_eq_nil_iff]
  intro call member
  obtain ⟨before, after, parts⟩ := List.append_of_mem member
  cases turned : call.turn? element with
  | none => rfl
  | some visible =>
      have made := introduced before call after parts element (turn_mentions call element visible turned)
      have fewer : (creations before).length ≤ (creations calls).length := by
        rw [parts, creations, creations, List.filterMap_append, List.length_append]
        exact Nat.le_add_right _ _
      omega

structure Quiet (call : Call α) : Prop where
  creation : call.creation? = none
  binding : ∀ id, call.binding? id = none
  turn : ∀ element, call.turn? element = none

end Call

namespace Explorer

variable {α : Type} [Coordinate α]

def told (x : Explorer α (CallLog α) Nat) : List (Call α) := x.surface.calls.toList

structure Orderly (x : Explorer α (CallLog α) Nat) : Prop where
  created : x.surface.created = (Call.creations x.told).length
  maker : ∀ id element, x.element? id = some element ↔ (Call.creations x.told)[element]? = some id
  bound : ∀ id, Call.bindings x.told id = (x.element? id).toList
  wired : ∀ (id : String) (node : Node Nat), x.nodes[id]? = some node → node.wired = true
  turned : ∀ (id : String) (node : Node Nat), x.nodes[id]? = some node →
    (true :: Call.turns x.told node.element).getLast? = some node.visible
  -- A node is visible when its element is made.
  alternate : ∀ element, (true :: Call.turns x.told element).IsChain (· ≠ ·)
  introduced : Call.Introduced x.told

theorem new_orderly (size : Size α) (settings : Settings α) :
    Orderly (Explorer.new (CallLog.empty size) settings : Explorer α (CallLog α) Nat) := by
  refine ⟨rfl, ?_, fun _ => rfl, ?_, ?_, fun _ => .singleton true, ?_⟩
  · intro id element
    exact ⟨fun borne => (by cases borne), fun made => (by cases made)⟩
  · intro id node found
    simp [Explorer.new] at found
  · intro id node found
    simp [Explorer.new] at found
  · intro before call after parts
    simp [told, Explorer.new, CallLog.empty] at parts

theorem element_made (x : Explorer α (CallLog α) Nat) (orderly : Orderly x) (id : String) (element : Nat)
    (borne : x.element? id = some element) : element < (Call.creations x.told).length :=
  (List.getElem?_eq_some_iff.mp ((orderly.maker id element).mp borne)).1

theorem element_single (x : Explorer α (CallLog α) Nat) (orderly : Orderly x) (a b : String) (element : Nat)
    (first : x.element? a = some element) (second : x.element? b = some element) : a = b := by
  have made := (orderly.maker a element).mp first
  rw [(orderly.maker b element).mp second] at made
  exact (Option.some.inj made).symm

theorem note_orderly (x : Explorer α (CallLog α) Nat) (orderly : Orderly x) (links : LinkTable)
    (layout : Layout.Engine α) (scatter : Scatter α) (pending : IdMap Pending) (failures : IdMap Failure)
    (issued : Nat) : Orderly { x with links, layout, scatter, pending, failures, issued } :=
  ⟨orderly.created, orderly.maker, orderly.bound, orderly.wired, orderly.turned, orderly.alternate, orderly.introduced⟩

theorem plain_orderly (x y : Explorer α (CallLog α) Nat) (orderly : Orderly x) (call : Call α)
    (creation : call.creation? = none) (binding : ∀ id, call.binding? id = none)
    (told : y.told = x.told ++ [call]) (created : y.surface.created = x.surface.created)
    (element : ∀ id, y.element? id = x.element? id)
    (known : ∀ element ∈ call.mentions, ∃ id, x.element? id = some element)
    (wired : ∀ (id : String) (node : Node Nat), y.nodes[id]? = some node → node.wired = true)
    (turned : ∀ (id : String) (node : Node Nat), y.nodes[id]? = some node →
      (true :: Call.turns y.told node.element).getLast? = some node.visible)
    (alternate : ∀ element, (true :: Call.turns y.told element).IsChain (· ≠ ·)) : Orderly y := by
  have creations : Call.creations y.told = Call.creations x.told := by
    rw [told, Call.creations_snoc, creation, Option.toList_none, List.append_nil]
  refine ⟨?_, ?_, ?_, wired, turned, alternate, ?_⟩
  · rw [created, creations, orderly.created]
  · intro id e
    rw [element, creations, orderly.maker]
  · intro id
    rw [told, Call.bindings_snoc, binding, Option.toList_none, List.append_nil, element, orderly.bound]
  · rw [told]
    refine Call.introduced_snoc _ call orderly.introduced ?_
    intro e mentioned
    obtain ⟨id, borne⟩ := known e mentioned
    exact element_made x orderly id e borne

theorem quiet_orderly (x y : Explorer α (CallLog α) Nat) (orderly : Orderly x) (call : Call α) (quiet : call.Quiet)
    (told : y.told = x.told ++ [call]) (created : y.surface.created = x.surface.created) (nodes : y.nodes = x.nodes)
    (known : ∀ element ∈ call.mentions, ∃ id, x.element? id = some element) : Orderly y := by
  have turns (e : Nat) : Call.turns y.told e = Call.turns x.told e := by
    rw [told, Call.turns_snoc, quiet.turn, Option.toList_none, List.append_nil]
  refine plain_orderly x y orderly call quiet.creation quiet.binding told created ?_ known ?_ ?_ ?_
  · intro id
    rw [element?, nodes, element?]
  · rw [nodes]
    exact orderly.wired
  · intro id node found
    rw [nodes] at found
    rw [turns, orderly.turned id node found]
  · intro e
    rw [turns]
    exact orderly.alternate e

-- Showing or hiding a node for which that is a change. Its element belongs to no other node.
theorem turn_orderly (x y : Explorer α (CallLog α) Nat) (orderly : Orderly x) (id : String) (visible : Bool)
    (element : Nat) (changing : x.nodes.changing? id visible = some element) (call : Call α)
    (creation : call.creation? = none) (binding : ∀ other, call.binding? other = none)
    (turn : ∀ other, call.turn? other = if element = other then some visible else none)
    (mentions : call.mentions = [element]) (told : y.told = x.told ++ [call])
    (created : y.surface.created = x.surface.created) (nodes : y.nodes = x.nodes.setVisible id visible) :
    Orderly y := by
  obtain ⟨node, foundNode, rfl, differs⟩ := NodeTable.changing_some x.nodes id visible element changing
  have owned := element_of_get x id node foundNode
  have turns (e : Nat) : Call.turns y.told e =
      if node.element = e then Call.turns x.told e ++ [visible] else Call.turns x.told e := by
    rw [told, Call.turns_snoc, turn]
    split
    next => rfl
    next => rw [Option.toList_none, List.append_nil]
  have earlier (key : String) (other : Node Nat) (found : y.nodes[key]? = some other) :
      ∃ old, x.nodes[key]? = some old ∧ (if key = id then { old with visible } else old) = other := by
    rw [nodes, NodeTable.set_visible_get] at found
    by_cases here : key = id
    · simpa only [if_pos here, Option.map_eq_some_iff] using found
    · exact ⟨other, by rwa [if_neg here] at found, if_neg here⟩
  refine plain_orderly x y orderly call creation binding told created (set_visible_element x y id visible nodes)
    ?_ ?_ ?_ ?_
  · intro e mentioned
    rw [mentions, List.mem_singleton] at mentioned
    exact ⟨id, mentioned ▸ owned⟩
  · intro key other found
    obtain ⟨old, foundOld, rfl⟩ := earlier key other found
    have wired := orderly.wired key old foundOld
    split
    next => exact wired
    next => exact wired
  · intro key other found
    obtain ⟨old, foundOld, rfl⟩ := earlier key other found
    by_cases here : key = id
    · subst here
      rw [foundNode] at foundOld
      cases foundOld
      simp only [if_true, turns]
      rw [← List.cons_append, List.getLast?_concat]
    · have away : node.element ≠ old.element := by
        intro shared
        exact here (element_single x orderly key id _ (element_of_get x key old foundOld) (shared ▸ owned))
      rw [if_neg here, turns, if_neg away, orderly.turned key old foundOld]
  · intro e
    rw [turns]
    split
    next here =>
      subst here
      rw [← List.cons_append]
      refine List.IsChain.append (orderly.alternate node.element) (.singleton visible) ?_
      intro before was after is
      rw [orderly.turned id node foundNode] at was
      cases was
      cases is
      exact differs
    next => exact orderly.alternate e

theorem reveal_orderly (x : Explorer α (CallLog α) Nat) (id : String) (orderly : Orderly x) :
    Orderly (x.reveal id) := by
  cases changing : x.nodes.changing? id true with
  | none =>
      simp only [reveal, NodeTable.reveal, changing]
      exact orderly
  | some element =>
      simp only [reveal, NodeTable.reveal, changing]
      exact turn_orderly x _ orderly id true element changing (.reveal element) rfl (fun _ => rfl) (fun _ => rfl) rfl
        Array.toList_push rfl rfl

theorem hide_orderly (x : Explorer α (CallLog α) Nat) (id : String) (orderly : Orderly x) : Orderly (x.hide id) := by
  cases changing : x.nodes.changing? id false with
  | none =>
      simp only [hide, NodeTable.hide, changing]
      exact orderly
  | some element =>
      simp only [hide, NodeTable.hide, changing]
      exact turn_orderly x _ orderly id false element changing (.hide element) rfl (fun _ => rfl) (fun _ => rfl) rfl
        Array.toList_push rfl rfl

theorem move_orderly (x : Explorer α (CallLog α) Nat) (id : String) (element : Nat) (offset : Point α)
    (borne : x.element? id = some element) (orderly : Orderly x) : Orderly (x.moveTo element offset) := by
  have known : ∀ e ∈ [element], ∃ id, x.element? id = some e := by
    intro e member
    rw [List.mem_singleton.mp member]
    exact ⟨id, borne⟩
  have placed : Orderly { x with surface := Surface.setOffset element offset x.surface } :=
    quiet_orderly x _ orderly (.setOffset element offset) ⟨rfl, fun _ => rfl, fun _ => rfl⟩
      Array.toList_push rfl rfl known
  exact quiet_orderly _ _ placed (.repaint element) ⟨rfl, fun _ => rfl, fun _ => rfl⟩ Array.toList_push rfl rfl known

theorem join_orderly (x : Explorer α (CallLog α) Nat) (s d : String) (orderly : Orderly x) :
    Orderly (x.join s d).2 := by
  rcases join_cases x s d with idle | ⟨source, destination, link, foundSource, _, foundDestination, _, _, _, joined⟩
  · rw [idle]
    exact orderly
  · rw [joined]
    refine quiet_orderly x _ orderly (.connect source.element destination.element link.label)
      ⟨rfl, fun _ => rfl, fun _ => rfl⟩ Array.toList_push rfl rfl ?_
    intro element mentioned
    rcases List.mem_pair.mp mentioned with rfl | rfl
    · exact ⟨s, element_of_get x s source foundSource⟩
    · exact ⟨d, element_of_get x d destination foundDestination⟩

theorem collapse_orderly (x : Explorer α (CallLog α) Nat) (id : String) (orderly : Orderly x) :
    Orderly (x.collapse id).2 := by
  cases known : x.nodes[id]? with
  | none =>
      rw [collapse_unknown x id known]
      exact orderly
  | some node =>
      rw [collapse_known x id node known]
      apply hide_orderly
      refine quiet_orderly x _ orderly (.disconnect node.element) ⟨rfl, fun _ => rfl, fun _ => rfl⟩
        Array.toList_push rfl rfl ?_
      intro element mentioned
      rw [List.mem_singleton.mp mentioned]
      exact ⟨id, element_of_get x id node known⟩

theorem attach_fresh_orderly (x : Explorer α (CallLog α) Nat) (orderly : Orderly x) (fragment : Fragment)
    (fresh : x.nodes[fragment.id]? = none) : Orderly (x.attach fragment).2 := by
  have unknown : x.element? fragment.id = none := by rw [element?, fresh, Option.map_none]
  have made : x.attached fragment = ⟨x.surface.created, true, true, fragment.node.label⟩ := by
    simp only [attached, fresh]
    rfl
  have told : (x.attach fragment).2.told =
      x.told ++ [.create fragment.id] ++ [.bind fragment.id x.surface.created] := by
    simp [Explorer.told, attach_fresh x fragment fresh, Surface.bind, Surface.create, CallLog.write, Fragment.id]
  have created : (x.attach fragment).2.surface.created = x.surface.created + 1 := by
    rw [attach_fresh x fragment fresh]
    rfl
  have element (key : String) : (x.attach fragment).2.element? key =
      if key = fragment.id then some x.surface.created else x.element? key := by
    rw [element?, attach_get, made]
    split
    next => rfl
    next => rfl
  have creations : Call.creations (x.attach fragment).2.told = Call.creations x.told ++ [fragment.id] := by
    rw [told, Call.creations_snoc, Call.creations_snoc]
    exact List.append_nil _
  have turns (e : Nat) : Call.turns (x.attach fragment).2.told e = Call.turns x.told e := by
    rw [told, Call.turns_snoc, Call.turns_snoc]
    exact (List.append_nil _).trans (List.append_nil _)
  refine ⟨?_, ?_, ?_, ?_, ?_, ?_, ?_⟩
  · rw [created, creations, List.length_append, orderly.created]
    rfl
  · intro key e
    rw [element, creations, snoc_get, ← orderly.maker, ← orderly.created]
    by_cases here : key = fragment.id
    · subst here
      simp [unknown, eq_comm]
    · simp [here, Ne.symm here]
  · intro key
    rw [told, Call.bindings_snoc, Call.bindings_snoc, element, orderly.bound]
    by_cases here : key = fragment.id
    · subst here
      simp [unknown, Call.binding?]
    · simp [here, Ne.symm here, Call.binding?]
  · intro key node found
    rw [attach_get, made] at found
    split at found
    next =>
      cases found
      rfl
    next => exact orderly.wired key node found
  · intro key node found
    rw [attach_get, made] at found
    rw [turns]
    split at found
    next =>
      cases found
      rw [Call.unmade_turns x.told orderly.introduced _ (Nat.le_of_eq orderly.created.symm)]
      rfl
    next => exact orderly.turned key node found
  · intro e
    rw [turns]
    exact orderly.alternate e
  · rw [told]
    refine Call.introduced_snoc _ _ (Call.introduced_snoc _ _ orderly.introduced ?_) ?_
    · intro e mentioned
      cases mentioned
    · intro e mentioned
      rw [List.mem_singleton.mp mentioned, Call.creations_snoc, List.length_append, orderly.created]
      exact Nat.lt_succ_self _

theorem attach_orderly (x : Explorer α (CallLog α) Nat) (fragment : Fragment) (orderly : Orderly x) :
    Orderly (x.attach fragment).2 := by
  cases found : x.nodes[fragment.id]? with
  | none => exact attach_fresh_orderly x orderly fragment found
  | some node =>
      rw [attach_told x fragment node found (orderly.wired fragment.id node found)]
      exact note_orderly x orderly _ x.layout x.scatter x.pending x.failures x.issued

theorem orderly_upheld : Upheld (δ := Empty) (Orderly (α := α)) where
  note x layout scatter pending failures issued orderly :=
    note_orderly x orderly x.links layout scatter pending failures issued
  reveal := reveal_orderly
  hide := hide_orderly
  move := move_orderly
  join := join_orderly
  attach := attach_orderly
  collapse := collapse_orderly
  adjust _ change := change.elim

theorem creations_distinct (x : Explorer α (CallLog α) Nat) (orderly : Orderly x) : (Call.creations x.told).Nodup := by
  rw [List.nodup_iff_getElem?_ne_getElem?]
  intro i j before below same
  obtain ⟨id, made⟩ : ∃ id, (Call.creations x.told)[j]? = some id := ⟨_, List.getElem?_eq_getElem below⟩
  have first := (orderly.maker id i).mpr (same.trans made)
  rw [(orderly.maker id j).mpr made] at first
  exact Nat.ne_of_gt before (Option.some.inj first)

structure Disciplined (x : Explorer α (CallLog α) Nat) : Prop where
  created : ∀ id element, x.element? id = some element →
    (Call.creations x.told).count id = 1 ∧ (Call.creations x.told)[element]? = some id
  bound : ∀ id element, x.element? id = some element → Call.bindings x.told id = [element]
  apart : ∀ a b element, x.element? a = some element → x.element? b = some element → a = b
  introduced : Call.Introduced x.told
  -- The first turn of an element is not to be shown, but to be hidden.
  alternate : ∀ element, (true :: Call.turns x.told element).IsChain (· ≠ ·)

theorem orderly_disciplined (x : Explorer α (CallLog α) Nat) (orderly : Orderly x) : Disciplined x := by
  refine ⟨?_, ?_, element_single x orderly, orderly.introduced, orderly.alternate⟩
  · intro id element borne
    have made := (orderly.maker id element).mp borne
    exact ⟨List.count_eq_one_of_mem (creations_distinct x orderly) (List.mem_of_getElem? made), made⟩
  · intro id element borne
    rw [orderly.bound, borne, Option.toList_some]

theorem elements_disciplined (size : Size α) (settings : Settings α) (ops : List (Operation α Nat Empty))
    (own : OwnFrames (Explorer.new (CallLog.empty size) settings) ops) :
    let x : Explorer α (CallLog α) Nat := (Explorer.new (CallLog.empty size) settings).run ops
    Disciplined x ∧ ∀ op : Operation α Nat Empty, Persists x (x.perform op) := by
  intro x
  have orderly : Orderly x := run_upheld orderly_upheld _ (new_orderly size settings) ops own
  exact ⟨orderly_disciplined x orderly, perform_persists x⟩

def unfolded : List (Operation Float Nat Empty) :=
  [.openRoot ⟨⟨"a", none⟩, [⟨"a", "b", "knows"⟩]⟩, .expand "a" .outbound, .redeem ⟨"b", 1⟩ (.ok ⟨⟨"b", none⟩, []⟩)]

-- The two are laid out, and a is closed and opened again.
def tidied : List (Operation Float Nat Empty) :=
  unfolded ++ [.runLayout, .applyFrame (recorded unfolded).runLayout.1.ticked.painted, .collapse "a",
    .openRoot ⟨⟨"a", none⟩, []⟩]

theorem tidied_elements_disciplined :
    OwnFrames (recorded []) tidied ∧ Disciplined (recorded tidied) ∧
      ∀ op : Operation Float Nat Empty, Persists (recorded tidied) ((recorded tidied).perform op) := by
  let started := (recorded unfolded).runLayout
  have first := Layout.Run.next_unfinished started.1 started.2.layout (by decide +kernel)
  have second := Layout.Run.next_unfinished started.1.ticked started.2.layout (by decide +kernel)
  have yields : started.1.Yields started.1.ticked.painted := .later _ _ _ _ _ first (.now _ _ _ _ second)
  have laying : OwnFrames (recorded []) (unfolded ++ [.runLayout]) := own_frames_none _ _ (by simp [unfolded])
  have laid : OwnFrames (recorded []) (unfolded ++ [.runLayout] ++ [.applyFrame started.1.ticked.painted]) := by
    apply own_frames_snoc _ _ _ laying
    rintro frame ⟨⟩
    exact ⟨unfolded, List.prefix_rfl, yields⟩
  have closed := own_frames_snoc _ _ (.collapse "a") laid (by rintro frame ⟨⟩)
  have own : OwnFrames (recorded []) tidied :=
    own_frames_snoc _ _ (.openRoot ⟨⟨"a", none⟩, []⟩) closed (by rintro frame ⟨⟩)
  exact ⟨own, elements_disciplined ⟨800, 600⟩ .standard tidied own⟩

end Explorer

end GraphBrowser
