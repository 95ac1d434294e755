import GraphBrowser.Proofs.Frames
import Mathlib.Data.List.Induction

set_option autoImplicit false

namespace GraphBrowser.Layout

-- Runs are numbered from zero in the order of their start.
inductive Move (ε σ : Type) where
  | start (nodes : NodeTable ε) (links : LinkTable) (surface : σ)
  | cancel
  | pull (number : Nat)

namespace Move

variable {ε σ : Type}

def isStart : Move ε σ → Bool
  | .start _ _ _ => true
  | _ => false

def isPull : Move ε σ → Bool
  | .pull _ => true
  | _ => false

def starts (moves : List (Move ε σ)) : Nat := moves.countP isStart

-- The run with this number was started, and since then no run was started and nothing was cancelled.
def Latest (moves : List (Move ε σ)) (number : Nat) : Prop :=
  ∃ before nodes links surface after, moves = before ++ .start nodes links surface :: after ∧
    starts before = number ∧ ∀ m ∈ after, m.isPull = true

theorem starts_snoc (moves : List (Move ε σ)) (m : Move ε σ) : starts (moves ++ [m]) = starts moves + m.isStart.toNat := by
  rw [starts, List.countP_append, starts]
  cases m <;> rfl

theorem latest_last (moves : List (Move ε σ)) (number : Nat) (latest : Latest moves number) :
    starts moves = number + 1 := by
  obtain ⟨before, nodes, links, surface, after, rfl, rfl, pulls⟩ := latest
  have none : after.countP isStart = 0 := by
    rw [List.countP_eq_zero]
    intro m member started
    have pulled := pulls m member
    cases m <;> cases started
    cases pulled
  simp only [starts, List.countP_append, List.countP_cons, isStart, if_true, none]

theorem latest_snoc (moves : List (Move ε σ)) (m : Move ε σ) (number : Nat) : Latest (moves ++ [m]) number ↔
    m.isStart = true ∧ starts moves = number ∨ m.isPull = true ∧ Latest moves number := by
  constructor
  · rintro ⟨before, nodes, links, surface, after, parts, counted, pulls⟩
    rcases (parted_snoc moves before after m _).mp parts with ⟨_, rfl, rfl⟩ | ⟨earlier, rfl, rfl⟩
    · exact .inl ⟨rfl, counted⟩
    · refine .inr ⟨pulls m (by simp), before, nodes, links, surface, earlier, rfl, counted, ?_⟩
      intro other member
      exact pulls other (List.mem_append_left [m] member)
  · rintro (⟨started, rfl⟩ | ⟨pulled, before, nodes, links, surface, after, rfl, counted, pulls⟩)
    · cases m with
      | start nodes links surface => exact ⟨moves, nodes, links, surface, [], rfl, rfl, by simp⟩
      | cancel => cases started
      | pull number => cases started
    · refine ⟨before, nodes, links, surface, after ++ [m], by simp, counted, ?_⟩
      intro other member
      rcases List.mem_append.mp member with old | new
      · exact pulls other old
      · rw [List.mem_singleton.mp new]
        exact pulled

end Move

variable {α ε σ : Type} [Coordinate α]

structure Fleet (α ε : Type) [Coordinate α] where
  engine : Engine α
  runs : List (Run α ε)

namespace Fleet

def new (settings : LayoutSettings α) : Fleet α ε := ⟨.new settings, []⟩

def pull (f : Fleet α ε) (number : Nat) : Option (Frame α ε) × Fleet α ε :=
  match f.runs[number]?.bind (·.next? f.engine) with
  | none => (none, f)
  | some (frame, run) => (some frame, { f with runs := f.runs.set number run })

def yielded (f : Fleet α ε) (number : Nat) : Move ε σ → List (Frame α ε)
  | .pull other => if other = number then (f.pull other).1.toList else []
  | _ => []

theorem pull_absent (f : Fleet α ε) (number : Nat) (absent : f.runs[number]? = none) : f.pull number = (none, f) := by
  simp only [pull, absent, Option.bind_none]

theorem pull_finished (f : Fleet α ε) (number : Nat) (run : Run α ε) (found : f.runs[number]? = some run)
    (finished : run.isFinished f.engine = true) : f.pull number = (none, f) := by
  simp only [pull, found, Option.bind_some, Run.next_eq, finished, if_true]

theorem pull_unfinished (f : Fleet α ε) (number : Nat) (run : Run α ε) (found : f.runs[number]? = some run)
    (unfinished : run.isFinished f.engine = false) :
    f.pull number = (some run.painted, { f with runs := f.runs.set number run.ticked }) := by
  simp only [pull, found, Option.bind_some, Run.next_unfinished run f.engine unfinished]

theorem pull_yields (f : Fleet α ε) (number : Nat) :
    (f.pull number).1.isSome = true ↔ ∃ run, f.runs[number]? = some run ∧ run.isFinished f.engine = false := by
  cases found : f.runs[number]? with
  | none => simp [pull_absent f number found]
  | some run =>
      cases finished : run.isFinished f.engine with
      | true => simp [pull_finished f number run found finished, finished]
      | false => simp [pull_unfinished f number run found finished, finished]

theorem pull_engine (f : Fleet α ε) (number : Nat) : (f.pull number).2.engine = f.engine := by
  unfold pull
  split <;> rfl

theorem pull_count (f : Fleet α ε) (number : Nat) : (f.pull number).2.runs.length = f.runs.length := by
  unfold pull
  split
  next => rfl
  next => exact List.length_set

theorem pull_run (f : Fleet α ε) (pulled number : Nat) (run : Run α ε)
    (found : (f.pull pulled).2.runs[number]? = some run) : ∃ old, f.runs[number]? = some old ∧
      (run = old ∧ f.yielded number (.pull pulled : Move ε σ) = [] ∨
        old.isFinished f.engine = false ∧ run = old.ticked ∧
          f.yielded number (.pull pulled : Move ε σ) = [old.painted]) := by
  have idle (same : f.pull pulled = (none, f)) : f.runs[number]? = some run ∧
      f.yielded number (.pull pulled : Move ε σ) = [] := by
    rw [same] at found
    exact ⟨found, by simp [yielded, same]⟩
  cases foundPulled : f.runs[pulled]? with
  | none =>
      obtain ⟨kept, silent⟩ := idle (pull_absent f pulled foundPulled)
      exact ⟨run, kept, .inl ⟨rfl, silent⟩⟩
  | some old =>
      cases finished : old.isFinished f.engine with
      | true =>
          obtain ⟨kept, silent⟩ := idle (pull_finished f pulled old foundPulled finished)
          exact ⟨run, kept, .inl ⟨rfl, silent⟩⟩
      | false =>
          have moved := pull_unfinished f pulled old foundPulled finished
          rw [moved, List.getElem?_set] at found
          by_cases here : pulled = number
          · subst here
            obtain ⟨below, _⟩ := List.getElem?_eq_some_iff.mp foundPulled
            simp only [if_true, if_pos below, Option.some.injEq] at found
            exact ⟨old, foundPulled, .inr ⟨finished, found.symm, by simp [yielded, moved]⟩⟩
          · rw [if_neg here] at found
            exact ⟨run, found, .inl ⟨rfl, by simp [yielded, here]⟩⟩

-- The frames that a run has yielded so far bear the numbers from one up to the run's count of ticks.
structure Numbered (given : LayoutSettings α) (run : Run α ε) (frames : List (Frame α ε)) : Prop where
  settings : run.settings = given
  ticks : run.iteration = frames.length
  bounded : frames.length ≤ given.maxIterations
  numbers : frames.map Frame.iteration = List.range' 1 frames.length

theorem ticked_numbered (given : LayoutSettings α) (run : Run α ε) (frames : List (Frame α ε))
    (numbered : Numbered given run frames) (e : Engine α) (unfinished : run.isFinished e = false) :
    Numbered given run.ticked (frames ++ [run.painted]) := by
  have early : run.iteration < given.maxIterations := by
    rw [← numbered.settings]
    by_contra late
    have finished := (Run.finished_iff run e).mpr (.inr (Nat.le_of_not_lt late))
    rw [unfinished] at finished
    cases finished
  have count := numbered.ticks
  refine ⟨numbered.settings, ?_, ?_, ?_⟩
  · rw [List.length_append, ← count]
    rfl
  · rw [List.length_append, List.length_singleton]
    omega
  · rw [List.map_append, numbered.numbers, List.length_append, List.length_singleton, List.range'_concat, Nat.one_mul,
      ← count, Nat.add_comm 1]
    rfl

-- What holds of every fleet that was made by these moves, with the frames that each of its runs has yielded.
structure Kept (given : LayoutSettings α) (moves : List (Move ε σ)) (f : Fleet α ε)
    (frames : Nat → List (Frame α ε)) : Prop where
  settings : f.engine.settings = given
  generation : f.engine.generation = moves.countP (!·.isPull)
  count : f.runs.length = Move.starts moves
  numbered : ∀ (number : Nat) (run : Run α ε), f.runs[number]? = some run → Numbered given run (frames number)
  silent : ∀ number : Nat, f.runs[number]? = none → frames number = []
  issued : ∀ (number : Nat) (run : Run α ε), f.runs[number]? = some run → run.generation ≤ f.engine.generation
  current : ∀ (number : Nat) (run : Run α ε), f.runs[number]? = some run →
    (run.generation = f.engine.generation ↔ Move.Latest moves number)

variable [Surface σ α ε]

def move (f : Fleet α ε) : Move ε σ → Fleet α ε
  | .start nodes links surface =>
      let (run, engine) := f.engine.run nodes links surface
      ⟨engine, f.runs ++ [run]⟩
  | .cancel => { f with engine := f.engine.cancel }
  | .pull number => (f.pull number).2

def play (f : Fleet α ε) (moves : List (Move ε σ)) : Fleet α ε := moves.foldl move f

def frames (number : Nat) (f : Fleet α ε) : List (Move ε σ) → List (Frame α ε)
  | [] => []
  | m :: rest => f.yielded number m ++ frames number (f.move m) rest

theorem play_snoc (f : Fleet α ε) (moves : List (Move ε σ)) (m : Move ε σ) :
    f.play (moves ++ [m]) = (f.play moves).move m := by
  rw [play, List.foldl_append]
  rfl

theorem frames_snoc (f : Fleet α ε) (number : Nat) (moves : List (Move ε σ)) (m : Move ε σ) :
    f.frames number (moves ++ [m]) = f.frames number moves ++ (f.play moves).yielded number m := by
  induction moves generalizing f with
  | nil => exact List.append_nil _
  | cons first rest ih =>
      rw [List.cons_append, frames, ih, frames, List.append_assoc]
      rfl

variable (given : LayoutSettings α) (moves : List (Move ε σ)) (f : Fleet α ε) (frames : Nat → List (Frame α ε))
  (kept : Kept given moves f frames)

include kept

theorem start_kept (nodes : NodeTable ε) (links : LinkTable) (surface : σ) :
    Kept given (moves ++ [.start nodes links surface]) (f.move (.start nodes links surface)) frames := by
  have added (number : Nat) (run : Run α ε) (found : (f.move (.start nodes links surface)).runs[number]? = some run) :
      f.runs[number]? = some run ∨ number = f.runs.length ∧ (f.engine.run nodes links surface).1 = run :=
    (snoc_get f.runs (f.engine.run nodes links surface).1 run number).mp found
  refine ⟨kept.settings, ?_, ?_, ?_, ?_, ?_, ?_⟩
  · rw [List.countP_append, ← kept.generation]
    rfl
  · rw [Move.starts_snoc, ← kept.count]
    exact List.length_append
  · intro number run found
    rcases added number run found with old | ⟨rfl, rfl⟩
    · exact kept.numbered number run old
    · rw [kept.silent _ (List.getElem?_eq_none (Nat.le_refl _))]
      exact ⟨kept.settings, rfl, Nat.zero_le _, rfl⟩
  · intro number absent
    apply kept.silent
    rw [List.getElem?_eq_none_iff] at absent ⊢
    exact Nat.le_trans (by simp [move]) absent
  · intro number run found
    rcases added number run found with old | ⟨rfl, rfl⟩
    · exact Nat.le_succ_of_le (kept.issued number run old)
    · exact Nat.le_refl _
  · intro number run found
    simp only [Move.latest_snoc, ← kept.count, Move.isStart, Move.isPull, true_and, Bool.false_eq_true, false_and,
      or_false]
    rcases added number run found with old | ⟨rfl, rfl⟩
    · have earlier := kept.issued number run old
      have below := (List.getElem?_eq_some_iff.mp old).1
      have newer : (f.move (.start nodes links surface)).engine.generation = f.engine.generation + 1 := rfl
      omega
    · exact iff_of_true rfl rfl

theorem cancel_kept : Kept given (moves ++ [.cancel]) (f.move (.cancel : Move ε σ)) frames := by
  refine ⟨kept.settings, ?_, ?_, kept.numbered, kept.silent, ?_, ?_⟩
  · rw [List.countP_append, ← kept.generation]
    rfl
  · rw [Move.starts_snoc, ← kept.count]
    rfl
  · intro number run found
    exact Nat.le_succ_of_le (kept.issued number run found)
  · intro number run found
    have earlier := kept.issued number run found
    have newer : (f.move (.cancel : Move ε σ)).engine.generation = f.engine.generation + 1 := rfl
    simp only [Move.latest_snoc, Move.isStart, Move.isPull, Bool.false_eq_true, false_and, or_false, iff_false]
    omega

theorem pull_kept (pulled : Nat) : Kept given (moves ++ [.pull pulled]) (f.move (.pull pulled : Move ε σ))
    fun number => frames number ++ f.yielded number (.pull pulled : Move ε σ) := by
  have engine := pull_engine f pulled
  have count := pull_count f pulled
  refine ⟨?_, ?_, ?_, ?_, ?_, ?_, ?_⟩
  · rw [move, engine, kept.settings]
  · rw [move, engine, kept.generation, List.countP_append]
    rfl
  · rw [move, count, kept.count, Move.starts_snoc]
    rfl
  · intro number run found
    obtain ⟨old, foundOld, ⟨rfl, silent⟩ | ⟨unfinished, rfl, painted⟩⟩ := pull_run (σ := σ) f pulled number run found
    · rw [silent, List.append_nil]
      exact kept.numbered number run foundOld
    · rw [painted]
      exact ticked_numbered given old _ (kept.numbered number old foundOld) f.engine unfinished
  · intro number absent
    have gone : f.runs[number]? = none := by
      rw [List.getElem?_eq_none_iff] at absent ⊢
      rwa [move, count] at absent
    rw [kept.silent number gone, List.nil_append, yielded]
    split
    next here =>
      rw [pull_absent f pulled (here ▸ gone)]
      rfl
    next => rfl
  · intro number run found
    obtain ⟨old, foundOld, ⟨rfl, _⟩ | ⟨_, rfl, _⟩⟩ := pull_run (σ := σ) f pulled number run found
    · exact engine ▸ kept.issued number run foundOld
    · exact engine ▸ kept.issued number old foundOld
  · intro number run found
    simp only [Move.latest_snoc, Move.isStart, Move.isPull, Bool.false_eq_true, false_and, false_or, true_and, move,
      engine]
    obtain ⟨old, foundOld, ⟨rfl, _⟩ | ⟨_, rfl, _⟩⟩ := pull_run (σ := σ) f pulled number run found
    · exact kept.current number run foundOld
    · exact kept.current number old foundOld

omit kept

theorem play_kept : Kept given moves ((new given).play moves) fun number => (new given).frames number moves := by
  induction moves using List.reverseRecOn with
  | nil =>
      refine ⟨rfl, rfl, rfl, ?_, ?_, ?_, ?_⟩
      · intro number run found
        cases found
      · intro number _
        rfl
      · intro number run found
        cases found
      · intro number run found
        cases found
  | append_singleton moves m ih =>
      simp only [play_snoc, frames_snoc]
      cases m with
      | start nodes links surface =>
          simp only [yielded, List.append_nil]
          exact start_kept given moves _ _ ih nodes links surface
      | cancel =>
          simp only [yielded, List.append_nil]
          exact cancel_kept given moves _ _ ih
      | pull pulled => exact pull_kept given moves _ _ ih pulled

theorem move_finished (number : Nat) (run : Run α ε) (found : f.runs[number]? = some run)
    (issued : run.generation ≤ f.engine.generation) (finished : run.isFinished f.engine = true) (m : Move ε σ) :
    (f.move m).runs[number]? = some run ∧ run.generation ≤ (f.move m).engine.generation ∧
      run.isFinished (f.move m).engine = true := by
  have newer (e : Engine α) (advanced : e.generation = f.engine.generation + 1) :
      run.generation ≤ e.generation ∧ run.isFinished e = true := by
    rw [Run.finished_iff]
    omega
  cases m with
  | start nodes links surface =>
      refine ⟨?_, newer _ rfl⟩
      have below := (List.getElem?_eq_some_iff.mp found).1
      exact (List.getElem?_append_left below).trans found
  | cancel => exact ⟨found, newer _ rfl⟩
  | pull pulled =>
      rw [move, pull_engine]
      refine ⟨?_, issued, finished⟩
      have below : number < (f.pull pulled).2.runs.length := by
        rw [pull_count]
        exact (List.getElem?_eq_some_iff.mp found).1
      obtain ⟨old, foundOld, ⟨same, _⟩ | ⟨unfinished, _, _⟩⟩ :=
        pull_run (σ := σ) f pulled number _ (List.getElem?_eq_getElem below)
      · rw [List.getElem?_eq_getElem below, same, ← foundOld, found]
      · rw [found, Option.some.injEq] at foundOld
        rw [foundOld, unfinished] at finished
        cases finished

theorem play_finished (number : Nat) (run : Run α ε) (found : f.runs[number]? = some run)
    (issued : run.generation ≤ f.engine.generation) (finished : run.isFinished f.engine = true)
    (later : List (Move ε σ)) :
    (f.play later).runs[number]? = some run ∧ run.isFinished (f.play later).engine = true := by
  induction later generalizing f with
  | nil => exact ⟨found, finished⟩
  | cons m rest ih =>
      obtain ⟨foundNext, issuedNext, finishedNext⟩ := move_finished f number run found issued finished m
      exact ih (f.move m) foundNext issuedNext finishedNext

structure InTurn (given : LayoutSettings α) (moves : List (Move ε σ)) (f : Fleet α ε) : Prop where
  -- The generation counts starts and cancels.
  generation : f.engine.generation = moves.countP (!·.isPull)
  alive : ∀ number, (f.pull number).1.isSome = true ↔
    Move.Latest moves number ∧ ((new given).frames number moves).length < given.maxIterations
  alone : ∀ a b, (f.pull a).1.isSome = true → (f.pull b).1.isSome = true → a = b
  ended : ∀ (number : Nat) (run : Run α ε), f.runs[number]? = some run →
    ¬ Move.Latest moves number ∨ (f.pull number).1 = none → ∀ later : List (Move ε σ),
      (f.play later).runs[number]? = some run ∧ ((f.play later).pull number).1 = none
  numbered : ∀ number, ((new given).frames number moves).map Frame.iteration =
    List.range' 1 ((new given).frames number moves).length
  bounded : ∀ number, ((new given).frames number moves).length ≤ given.maxIterations
  ticks : ∀ (number : Nat) (run : Run α ε), f.runs[number]? = some run →
    run.iteration = ((new given).frames number moves).length

theorem play_alive (number : Nat) : (((new given).play moves).pull number).1.isSome = true ↔
    Move.Latest moves number ∧ ((new given).frames number moves).length < given.maxIterations := by
  have kept := play_kept given moves
  rw [pull_yields]
  constructor
  · rintro ⟨run, found, unfinished⟩
    rw [Bool.eq_false_iff, ne_eq, Run.finished_iff, not_or, not_not, Nat.not_le] at unfinished
    obtain ⟨settings, ticks, _, _⟩ := kept.numbered number run found
    rw [settings, ticks] at unfinished
    exact ⟨(kept.current number run found).mp unfinished.1, unfinished.2⟩
  · rintro ⟨latest, early⟩
    have below : number < ((new given).play moves).runs.length := by
      rw [kept.count, Move.latest_last moves number latest]
      exact Nat.lt_succ_self number
    have found := List.getElem?_eq_getElem below
    obtain ⟨settings, ticks, _, _⟩ := kept.numbered number _ found
    refine ⟨_, found, ?_⟩
    rw [Bool.eq_false_iff, ne_eq, Run.finished_iff, not_or, not_not, Nat.not_le, settings, ticks]
    exact ⟨(kept.current number _ found).mpr latest, early⟩

theorem play_numbers (number : Nat) : ((new given).frames number moves).map Frame.iteration =
      List.range' 1 ((new given).frames number moves).length ∧
    ((new given).frames number moves).length ≤ given.maxIterations := by
  have kept := play_kept given moves
  cases found : ((new given).play moves).runs[number]? with
  | none =>
      have silent := kept.silent number found
      rw [silent]
      exact ⟨rfl, Nat.zero_le _⟩
  | some run =>
      have numbered := kept.numbered number run found
      exact ⟨numbered.numbers, numbered.bounded⟩

theorem runs_in_turn : InTurn given moves ((new given).play moves) := by
  have kept := play_kept given moves
  have alive := play_alive given moves
  refine ⟨kept.generation, alive, ?_, ?_, ?_, ?_, ?_⟩
  · intro a b first second
    have lastA := Move.latest_last moves a ((alive a).mp first).1
    have lastB := Move.latest_last moves b ((alive b).mp second).1
    omega
  · intro number run found past later
    have silent : ¬ (((new given).play moves).pull number).1.isSome = true := by
      rcases past with superseded | ended
      · exact fun yields => superseded ((alive number).mp yields).1
      · rw [ended]
        exact Bool.false_ne_true
    have finished : run.isFinished ((new given).play moves).engine = true := by
      by_contra unfinished
      exact silent ((pull_yields _ number).mpr ⟨run, found, Bool.eq_false_iff.mpr unfinished⟩)
    obtain ⟨still, ended⟩ := play_finished _ number run found (kept.issued number run found) finished later
    exact ⟨still, by rw [pull_finished _ number run still ended]⟩
  · exact fun number => (play_numbers given moves number).1
  · exact fun number => (play_numbers given moves number).2
  · intro number run found
    exact (kept.numbered number run found).ticks

end Fleet

end GraphBrowser.Layout
