import GraphBrowser.Proofs.Joining
import GraphBrowser.Proofs.Mirror

set_option autoImplicit false

namespace GraphBrowser.Explorer

variable {α σ ε : Type} [Coordinate α]

theorem known_element (x : Explorer α σ ε) (id : String) :
    x.nodes[id]?.isSome = true ↔ ∃ element, x.element? id = some element := by
  rw [element?, ← Option.isSome_iff_exists, Option.isSome_map]

variable [Surface σ α ε]

section Lasting

variable {β : Type} (read : Node ε → β) (lasting : Lasting read)

include lasting

theorem act_lasting (x y : Explorer α σ ε) (act : Act x y) (id : String) :
    (y.nodes[id]?).map read = (x.nodes[id]?).map read := by
  cases act with
  | reveal shown => rw [reveal_nodes, set_visible_lasting read lasting]
  | join s d => rw [join_nodes]
  | move element offset => rfl
  | note layout scatter pending failures issued => rfl

theorem acts_lasting (x y : Explorer α σ ε) (acts : Acts x y) (id : String) :
    (y.nodes[id]?).map read = (x.nodes[id]?).map read := by
  induction acts with
  | refl => rfl
  | tail _ last ih => exact (act_lasting read lasting _ _ last id).trans ih

variable [DecidableEq ε]

theorem attach_lasting (x : Explorer α σ ε) (fragment : Fragment) (id : String) (value : β)
    (borne : (x.nodes[id]?).map read = some value) : ((x.attach fragment).2.nodes[id]?).map read = some value := by
  rw [attach_get]
  by_cases here : id = fragment.id
  · subst here
    obtain ⟨node, found, same⟩ := Option.map_eq_some_iff.mp borne
    rw [if_pos rfl, attached_known x fragment node found, Option.map_some, ← same]
    exact congrArg some (lasting node node.visible true)
  · rw [if_neg here]
    exact borne

theorem growth_lasting (x y : Explorer α σ ε) (growth : Growth x y) (id : String) (value : β)
    (borne : (x.nodes[id]?).map read = some value) : (y.nodes[id]?).map read = some value := by
  cases growth with
  | acts _ steps => rw [acts_lasting read lasting x y steps, borne]
  | attach pending fragment _ after =>
      rw [acts_lasting read lasting _ y after]
      exact attach_lasting read lasting { x with pending } fragment id value borne
  | hidden pending fragment fresh =>
      rw [hide_nodes, set_visible_lasting read lasting]
      exact attach_lasting read lasting { x with pending } fragment id value borne

theorem perform_lasting {δ : Type} [Adjustable σ δ] (x : Explorer α σ ε) (op : Operation α ε δ) (id : String)
    (value : β) (borne : (x.nodes[id]?).map read = some value) :
    ((x.perform op).nodes[id]?).map read = some value := by
  rcases perform_cases x op with growth | ⟨closed, collapsed⟩ | ⟨change, adjusted⟩
  · exact growth_lasting read lasting x _ growth id value borne
  · rw [collapsed, collapse_lasting read lasting, borne]
  · rw [adjusted]
    exact borne

end Lasting

variable [DecidableEq ε]

theorem growth_known (x y : Explorer α σ ε) (growth : Growth x y) (id : String)
    (known : x.nodes[id]?.isSome = true) : y.nodes[id]?.isSome = true := by
  rw [known_element] at known ⊢
  obtain ⟨element, borne⟩ := known
  exact ⟨element, growth_lasting Node.element element_lasting x y growth id element borne⟩

variable {δ : Type} [Adjustable σ δ]

theorem perform_element (x : Explorer α σ ε) (op : Operation α ε δ) (id : String) (element : ε)
    (borne : x.element? id = some element) : (x.perform op).element? id = some element :=
  perform_lasting Node.element element_lasting x op id element borne

theorem perform_known (x : Explorer α σ ε) (op : Operation α ε δ) (id : String)
    (known : x.nodes[id]?.isSome = true) : (x.perform op).nodes[id]?.isSome = true := by
  rw [known_element] at known ⊢
  obtain ⟨element, borne⟩ := known
  exact ⟨element, perform_element x op id element borne⟩

theorem run_element (x : Explorer α σ ε) (ops : List (Operation α ε δ)) (id : String) (element : ε)
    (borne : x.element? id = some element) : (x.run ops).element? id = some element :=
  run_keeps (fun y => y.element? id = some element) (fun y op => perform_element y op id element) x ops borne

theorem run_known_element (x : Explorer α σ ε) (ops : List (Operation α ε δ)) (id : String) (element : ε)
    (known : x.nodes[id]?.isSome = true) (borne : (x.run ops).element? id = some element) :
    x.element? id = some element := by
  obtain ⟨before, has⟩ := (known_element x id).mp known
  rw [has, ← borne, run_element x ops id before has]

end GraphBrowser.Explorer
