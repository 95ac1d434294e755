import GraphBrowser.Page
import GraphBrowser.Proofs.Books

set_option autoImplicit false

namespace GraphBrowser

def Task.ticket? : Task → Option Ticket
  | .neighbor ticket => some ticket
  | .root _ => none

def Task.root? : Task → Option String
  | .root id => some id
  | .neighbor _ => none

theorem Task.ticket_eq (task : Task) (ticket : Ticket) : task.ticket? = some ticket ↔ task = .neighbor ticket := by
  cases task <;> simp [ticket?]

theorem Task.root_eq (task : Task) (id : String) : task.root? = some id ↔ task = .root id := by
  cases task <;> simp [root?]

def Environment.isDrawable {α : Type} (environment : Environment α) : Bool :=
  environment.canvas && environment.window && environment.context

namespace Page

variable {α : Type} [Coordinate α]

def fetches (p : Page α) : List Ticket := p.tasks.filterMap Task.ticket?

def openings (p : Page α) : List String := p.tasks.filterMap Task.root?

theorem mem_readings {β : Type} (read : Task → Option β) (make : β → Task)
    (made : ∀ task value, read task = some value ↔ task = make value) (tasks : List Task) (value : β) :
    value ∈ tasks.filterMap read ↔ make value ∈ tasks := by
  rw [List.mem_filterMap]
  constructor
  · intro ⟨task, member, same⟩
    exact (made task value).mp same ▸ member
  · intro member
    exact ⟨make value, member, (made _ value).mpr rfl⟩

-- Taking a task out of a list takes what is read off it out of what is read off the list.
theorem erased_readings {β : Type} [DecidableEq β] (read : Task → Option β) (make : β → Task)
    (made : ∀ task value, read task = some value ↔ task = make value) (tasks : List Task) (task : Task) :
    (tasks.erase task).filterMap read = (read task).elim (tasks.filterMap read) (tasks.filterMap read).erase := by
  induction tasks with
  | nil => cases read task <;> rfl
  | cons first rest ih =>
      by_cases here : first = task
      · subst here
        cases found : read first <;> simp [found]
      · rw [List.erase_cons_tail (by simpa using here)]
        cases found : read first with
        | none => simp [found, ih]
        | some value =>
            cases sought : read task with
            | none => simp [found, ih, sought]
            | some other =>
                have differ : value ≠ other := by
                  intro same
                  apply here
                  rw [(made first value).mp found, (made task other).mp sought, same]
                rw [sought] at ih
                simp only [List.filterMap_cons, found, Option.elim_some] at ih ⊢
                rw [ih, List.erase_cons_tail (by simpa using differ)]

theorem mem_fetches (p : Page α) (ticket : Ticket) : ticket ∈ p.fetches ↔ .neighbor ticket ∈ p.tasks :=
  mem_readings Task.ticket? .neighbor Task.ticket_eq p.tasks ticket

theorem mem_openings (p : Page α) (id : String) : id ∈ p.openings ↔ .root id ∈ p.tasks :=
  mem_readings Task.root? .root Task.root_eq p.tasks id

theorem spawn_fetches (p : Page α) (tickets : List Ticket) : (p.spawn tickets).fetches = p.fetches ++ tickets := by
  have spawned : (tickets.map Task.neighbor).filterMap Task.ticket? = tickets := by
    rw [List.filterMap_map]
    exact List.filterMap_some
  rw [fetches, spawn, List.filterMap_append, spawned, fetches]

theorem spawn_openings (p : Page α) (tickets : List Ticket) : (p.spawn tickets).openings = p.openings := by
  have unrooted : (tickets.map Task.neighbor).filterMap Task.root? = [] := by
    simp [List.filterMap_map, List.filterMap_eq_nil_iff, Task.root?]
  rw [openings, spawn, List.filterMap_append, unrooted, List.append_nil, openings]

-- A page before its first event. The root is asked for only if it could be drawn.
structure Mounted (placing : Placing α) (environment : Environment α) (p : Page α) : Prop where
  books : p.explorer.books = (∅, ∅, 0)
  tasks : p.tasks = if environment.isDrawable then [.root placing.root] else []
  errors : p.errors = []
  rootError : p.rootError = none

theorem mount_mounted (placing : Placing α) (environment : Environment α) (settings : Settings α) :
    Mounted placing environment (mount placing environment settings) := by
  have drawable : (blank placing environment settings).environment = environment := rfl
  unfold mount start
  rw [drawable]
  dsimp only
  cases placeable : environment.canvas && environment.window with
  | true =>
      cases context : environment.context with
      | true => exact ⟨rfl, by rw [Environment.isDrawable, placeable, context]; rfl, rfl, rfl⟩
      | false => exact ⟨rfl, by rw [Environment.isDrawable, placeable, context]; rfl, rfl, rfl⟩
  | false => exact ⟨rfl, by rw [Environment.isDrawable, placeable]; rfl, rfl, rfl⟩

def visit (p : Page α) (events : List (Event α)) : Page α := events.foldl handle p

theorem visit_snoc (p : Page α) (events : List (Event α)) (e : Event α) :
    p.visit (events ++ [e]) = (p.visit events).handle e := by
  rw [visit, List.foldl_append]
  rfl

theorem visit_keeps (P : Page α → Prop) (step : ∀ (p : Page α) (e : Event α), P p → P (p.handle e)) (p : Page α)
    (events : List (Event α)) (start : P p) : P (p.visit events) := by
  induction events generalizing p with
  | nil => exact start
  | cons e rest ih => exact ih (p.handle e) (step p e start)

structure Quiet (p q : Page α) : Prop where
  books : q.explorer.books = p.explorer.books
  tasks : q.tasks = p.tasks
  errors : q.errors = p.errors
  rootError : q.rootError = p.rootError

theorem quiet_refl (p : Page α) : Quiet p p := ⟨rfl, rfl, rfl, rfl⟩

theorem quiet_trans (p q r : Page α) (first : Quiet p q) (second : Quiet q r) : Quiet p r :=
  ⟨second.books.trans first.books, second.tasks.trans first.tasks, second.errors.trans first.errors,
    second.rootError.trans first.rootError⟩

theorem scene_quiet (p : Page α) (scene : Scene α) : Quiet p (p.withScene scene) := ⟨rfl, rfl, rfl, rfl⟩

theorem press_quiet (p : Page α) (pointer : Point α) : Quiet p (p.press pointer) := by
  unfold press
  split
  next => exact ⟨rfl, rfl, rfl, rfl⟩
  next => exact ⟨rfl, rfl, rfl, rfl⟩

theorem moved_quiet (p : Page α) (pointer : Point α) : Quiet p (p.moved pointer) := by
  unfold moved
  split
  next =>
    dsimp only
    split
    next => exact ⟨rfl, rfl, rfl, rfl⟩
    next => exact ⟨rfl, rfl, rfl, rfl⟩
  next => exact scene_quiet p _
  next => exact quiet_refl p

theorem resize_quiet (p : Page α) (inner : Option (Size α)) : Quiet p (p.windowResize inner) := by
  unfold windowResize
  dsimp only
  split
  next => exact ⟨rfl, rfl, rfl, rfl⟩
  next => exact ⟨rfl, rfl, rfl, rfl⟩

theorem advance_quiet (p : Page α) : Quiet p p.advanceRun := by
  unfold advanceRun
  split
  next => exact quiet_refl p
  next =>
    split
    next => exact ⟨rfl, rfl, rfl, rfl⟩
    next frame _ _ => exact ⟨Explorer.apply_placements_books frame.placements p.explorer, rfl, rfl, rfl⟩

theorem paint_quiet (p : Page α) : Quiet p p.paint.2 := by
  unfold paint
  dsimp only
  split
  next => exact ⟨rfl, rfl, rfl, rfl⟩
  next => exact scene_quiet p _

theorem animate_quiet (p : Page α) : Quiet p p.animate.2 := by
  unfold animate
  split
  next => exact quiet_trans p p.advanceRun _ (advance_quiet p) (paint_quiet p.advanceRun)
  next => exact quiet_refl p

theorem on_canvas_quiet (p : Page α) (pointer : Pointer α) (act : Point α → Page α) (quiet : ∀ point, Quiet p (act point)) :
    Quiet p (((p.onCanvas? pointer).map act).getD p) := by
  cases p.onCanvas? pointer with
  | none => exact quiet_refl p
  | some point => exact quiet point

theorem handle_cases (p : Page α) (e : Event α) : Quiet p (p.handle e) ∨
    (∃ id alt shift, e = .release alt shift ∧ p.handle e = p.letGo.click id alt shift) ∨
    ∃ task result, e = .answer task result ∧ task ∈ p.tasks ∧ p.handle e = p.answer task result := by
  cases e with
  | press pointer => exact .inl (on_canvas_quiet p pointer p.press (press_quiet p))
  | move pointer => exact .inl (on_canvas_quiet p pointer p.moved (moved_quiet p))
  | release alt shift =>
      cases clicked : p.clicked? with
      | none =>
          have idle : p.handle (.release alt shift) = p.letGo := by simp only [handle, release, clicked]
          rw [idle]
          exact .inl ⟨rfl, rfl, rfl, rfl⟩
      | some id => exact .inr (.inl ⟨id, alt, shift, rfl, by simp only [handle, release, clicked]⟩)
  | leave => exact .inl ⟨rfl, rfl, rfl, rfl⟩
  | wheel pointer delta => exact .inl (on_canvas_quiet p pointer (p.wheel · delta) fun _ => scene_quiet p _)
  | layoutButton => exact .inl ⟨rfl, rfl, rfl, rfl⟩
  | windowResize inner => exact .inl (resize_quiet p inner)
  | animationFrame => exact .inl (animate_quiet p)
  | answer task result =>
      by_cases spawned : task ∈ p.tasks
      · exact .inr (.inr ⟨task, result, rfl, spawned, rfl⟩)
      · left
        rw [handle, answer, if_neg spawned]
        exact quiet_refl p

theorem answer_tasks (p : Page α) (task : Task) (result : FetchResult) :
    (p.answer task result).tasks = p.tasks.erase task := by
  by_cases spawned : task ∈ p.tasks
  · rw [answer, if_pos spawned]
    cases task with
    | root id => cases result <;> rfl
    | neighbor ticket =>
        dsimp only
        split <;> rfl
  · rw [answer, if_neg spawned, List.erase_of_not_mem spawned]

theorem answer_fetches (p : Page α) (task : Task) (result : FetchResult) :
    (p.answer task result).fetches = task.ticket?.elim p.fetches p.fetches.erase := by
  rw [fetches, answer_tasks]
  exact erased_readings Task.ticket? .neighbor Task.ticket_eq p.tasks task

theorem answer_openings (p : Page α) (task : Task) (result : FetchResult) :
    (p.answer task result).openings = task.root?.elim p.openings p.openings.erase := by
  rw [openings, answer_tasks]
  exact erased_readings Task.root? .root Task.root_eq p.tasks task

theorem answer_root_books (p : Page α) (id : String) (result : FetchResult) :
    (p.answer (.root id) result).explorer.books = p.explorer.books := by
  unfold answer
  split
  next =>
    cases result with
    | ok fragment => exact Explorer.open_root_books p.explorer fragment
    | error cause => rfl
  next => rfl

theorem answer_explorer (p : Page α) (ticket : Ticket) (result : FetchResult) (spawned : .neighbor ticket ∈ p.tasks) :
    (p.answer (.neighbor ticket) result).explorer = (p.explorer.redeem ticket result).2 := by
  rw [answer, if_pos spawned]
  dsimp only
  split <;> rfl

end Page

end GraphBrowser
