import GraphBrowser.Proofs.CallCount
import GraphBrowser.Proofs.Pairing
import GraphBrowser.Proofs.Picture
import GraphBrowser.Proofs.Tickets

set_option autoImplicit false

namespace GraphBrowser

structure Figure where
  id : String
  visible : Bool
  wired : Bool
deriving DecidableEq

structure Outline where
  figures : List Figure
  connectors : List Connector
deriving DecidableEq

namespace Outline

variable {α : Type}

def tell (o : Outline) : Call α → Outline
  | .create id => { o with figures := o.figures ++ [⟨id, true, false⟩] }
  | .bind _ element => { o with figures := o.figures.modify element ({ · with wired := true }) }
  | .reveal element => { o with figures := o.figures.modify element ({ · with visible := true }) }
  | .hide element => { o with figures := o.figures.modify element ({ · with visible := false }) }
  | .connect source target label => { o with connectors := o.connectors ++ [⟨source, target, label⟩] }
  | .disconnect element =>
      { o with connectors := o.connectors.filter fun c => c.source != element && c.target != element }
  | .setOffset _ _ => o
  | .repaint _ => o

def replay (calls : List (Call α)) : Outline := calls.foldl tell ⟨[], []⟩

theorem replay_snoc (calls : List (Call α)) (call : Call α) : replay (calls ++ [call]) = (replay calls).tell call := by
  simp only [replay, List.foldl_append, List.foldl_cons, List.foldl_nil]

end Outline

def SceneNode.figure {α : Type} (n : SceneNode α) : Figure := ⟨n.id, n.visible, n.wired⟩

namespace Scene

variable {α : Type}

def outline (s : Scene α) : Outline := ⟨s.nodes.toList.map SceneNode.figure, s.connectors⟩

theorem modify_figures (nodes : Array (SceneNode α)) (element : Nat) (f : SceneNode α → SceneNode α)
    (g : Figure → Figure) (same : ∀ n, (f n).figure = g n.figure) :
    (nodes.modify element f).toList.map SceneNode.figure = (nodes.toList.map SceneNode.figure).modify element g := by
  apply List.ext_getElem?
  intro i
  simp only [Array.toList_modify, List.getElem?_map, List.getElem?_modify]
  cases nodes.toList[i]? with
  | none => simp
  | some n =>
      by_cases here : element = i
      · simp [here, same]
      · simp [here]

theorem change_outline (s : Scene α) (element : Nat) (f : SceneNode α → SceneNode α) (g : Figure → Figure)
    (same : ∀ n, (f n).figure = g n.figure) :
    (s.change element f).outline = { s.outline with figures := s.outline.figures.modify element g } := by
  rw [outline, change_connectors, change_nodes, modify_figures s.nodes element f g same, outline]

theorem change_size (s : Scene α) (element : Nat) (f : SceneNode α → SceneNode α) :
    (s.change element f).nodes.size = s.nodes.size := by
  rw [change_nodes, Array.size_modify]

theorem move_outline (s : Scene α) (element : Nat) (position : Point α) :
    (s.moveNode element position).outline = s.outline := by
  have moved := change_outline s element ({ · with position }) id fun _ => rfl
  rwa [List.modify_id] at moved

variable [Scalar α]

theorem create_outline (s : Scene α) (node : NodeSummary) :
    (Surface.create node s).2.outline = s.outline.tell (.create node.id : Call α) := by
  have grown : (Surface.create node s).2.nodes.toList.map SceneNode.figure =
      s.nodes.toList.map SceneNode.figure ++ [⟨node.id, true, false⟩] := by
    simp [Surface.create, SceneNode.figure]
  rw [outline, grown]
  rfl

theorem bind_outline (s : Scene α) (id : String) (element : Nat) :
    (Surface.bind id element s).outline = s.outline.tell (.bind id element : Call α) := by
  have wired := modify_figures s.nodes element ({ · with wired := true }) ({ · with wired := true }) fun _ => rfl
  exact congrArg (Outline.mk · s.connectors) wired

end Scene

structure Recounts {α : Type} (log : CallLog α) (scene : Scene α) : Prop where
  created : log.created = scene.nodes.size
  outline : Outline.replay log.calls.toList = scene.outline

theorem recounts_write {α : Type} (log : CallLog α) (call : Call α) (scene next : Scene α)
    (recounts : Recounts log scene) (size : next.nodes.size = scene.nodes.size)
    (told : next.outline = scene.outline.tell call) : Recounts (log.write call) next := by
  refine ⟨recounts.created.trans size.symm, ?_⟩
  rw [CallLog.write, Array.toList_push, Outline.replay_snoc, recounts.outline, told]

def CallLog.twins {α : Type} [Scalar α] : Twins (CallLog α) (Scene α) where
  alike := Recounts
  create node log scene recounts := by
    have told := Scene.create_outline scene node
    refine ⟨recounts.created.symm, ?_, ?_⟩
    · simp [Surface.create, recounts.created]
    · rw [told, ← recounts.outline, ← Outline.replay_snoc]
      simp [Surface.create, write]
  bind id element log scene recounts :=
    recounts_write log _ scene _ recounts (Array.size_modify ..) (Scene.bind_outline scene id element)
  reveal element log scene recounts :=
    recounts_write log _ scene _ recounts (Scene.change_size scene element _)
      (Scene.change_outline scene element _ _ fun _ => rfl)
  hide element log scene recounts :=
    recounts_write log _ scene _ recounts (Scene.change_size scene element _)
      (Scene.change_outline scene element _ _ fun _ => rfl)
  connect source target label log scene recounts := recounts_write log _ scene _ recounts rfl rfl
  disconnect element log scene recounts := recounts_write log _ scene _ recounts rfl rfl
  setOffset element p q log scene recounts := by
    have written := recounts_write log (.setOffset element p) scene _ recounts
      (Scene.change_size scene element ({ · with position := q })) (Scene.move_outline scene element q)
    exact ⟨written.created, written.outline⟩
  repaint element log scene recounts := recounts_write log _ scene _ recounts rfl rfl

inductive Request where
  | openRoot (fragment : Fragment)
  | expand (id : String) (direction : Direction)
  | redeem (ticket : Ticket) (result : FetchResult)
  | collapse (id : String)

def Request.operation {α ε δ : Type} : Request → Operation α ε δ
  | .openRoot fragment => .openRoot fragment
  | .expand id direction => .expand id direction
  | .redeem ticket result => .redeem ticket result
  | .collapse id => .collapse id

inductive Reply (ε : Type) where
  | opened (element : ε)
  | asked (tickets : List Ticket)
  | taken (outcome : Outcome)
  | closed (known : Bool)
deriving DecidableEq

namespace Explorer

variable {α σ τ ε δ γ : Type} [Coordinate α] [Surface σ α ε] [Surface τ α ε] {twins : Twins σ τ}

theorem issues_paired (x : Explorer α σ ε) (y : Explorer α τ ε) (paired : Paired twins x y) (request : Request) :
    y.issues (request.operation : Operation α ε γ) = x.issues (request.operation : Operation α ε δ) := by
  cases request with
  | expand id direction => exact (expand_matched x y paired id direction).answer
  | openRoot fragment => rfl
  | redeem ticket result => rfl
  | collapse id => rfl

variable [DecidableEq ε]

def reply (x : Explorer α σ ε) : Request → Reply ε
  | .openRoot fragment => .opened (x.openRoot fragment).1
  | .expand id direction => .asked (x.expand id direction).1
  | .redeem ticket result => .taken (x.redeem ticket result).1
  | .collapse id => .closed (x.collapse id).1

variable [Adjustable σ δ] [Adjustable τ γ]

theorem perform_paired (x : Explorer α σ ε) (y : Explorer α τ ε) (paired : Paired twins x y) (request : Request) :
    y.reply request = x.reply request ∧ Paired twins (x.perform request.operation) (y.perform request.operation) := by
  cases request with
  | openRoot fragment =>
      have opened := open_root_matched x y paired fragment
      exact ⟨congrArg Reply.opened opened.answer, opened.paired⟩
  | expand id direction =>
      have expanded := expand_matched x y paired id direction
      exact ⟨congrArg Reply.asked expanded.answer, expanded.paired⟩
  | redeem ticket result =>
      have redeemed := redeem_matched x y paired ticket result
      exact ⟨congrArg Reply.taken redeemed.answer, redeemed.paired⟩
  | collapse id =>
      have collapsed := collapse_matched x y paired id
      exact ⟨congrArg Reply.closed collapsed.answer, collapsed.paired⟩

theorem run_paired (requests : List Request) (x : Explorer α σ ε) (y : Explorer α τ ε) (paired : Paired twins x y) :
    y.gathered issues (requests.map Request.operation) = x.gathered issues (requests.map Request.operation) ∧
      Paired twins (x.run (requests.map Request.operation)) (y.run (requests.map Request.operation)) := by
  induction requests generalizing x y with
  | nil => exact ⟨rfl, paired⟩
  | cons request rest ih =>
      obtain ⟨tickets, later⟩ := ih _ _ (perform_paired x y paired request).2
      refine ⟨?_, later⟩
      simp only [List.map_cons, gathered]
      rw [issues_paired x y paired request, tickets]

-- The tickets that were issued are the same in the same order, so one list of requests serves both.
theorem scene_replays_log (size : Size α) (settings : Settings α) (requests : List Request) :
    let overLog : Explorer α (CallLog α) Nat := Explorer.new (CallLog.empty size) settings
    let overScene : Explorer α (Scene α) Nat := Explorer.new (Scene.empty size) settings
    let log := overLog.run (requests.map Request.operation)
    let scene := overScene.run (requests.map Request.operation)
    overScene.gathered issues (requests.map Request.operation) =
        overLog.gathered issues (requests.map Request.operation) ∧
      Agree log scene ∧ (∀ request, scene.reply request = log.reply request) ∧
      scene.surface.outline = Outline.replay log.surface.calls.toList := by
  intro overLog overScene log scene
  have start : Paired CallLog.twins overLog overScene := ⟨⟨rfl, rfl, rfl, rfl, rfl, rfl, rfl⟩, rfl, rfl⟩
  obtain ⟨tickets, paired⟩ := run_paired requests overLog overScene start
  refine ⟨tickets, paired.toAgree, ?_, paired.surface.outline.symm⟩
  intro request
  exact (perform_paired log scene paired request).1

example : Outline.replay (recorded [.openRoot ⟨⟨"a", none⟩, [⟨"a", "b", "knows"⟩]⟩, .openRoot ⟨⟨"b", none⟩, []⟩,
    .expand "a" .outbound]).surface.calls.toList = ⟨[⟨"a", true, true⟩, ⟨"b", true, true⟩], [⟨0, 1, "knows"⟩]⟩ := by
  decide +kernel

end Explorer

end GraphBrowser
