/-
Module: Interpose.Proofs.Programs
Purpose: Runs of programs: the states they pass through, and two runs side by side.
Main exports: Program.Visits, Program.Asks, Program.visits_of_run, Program.kept_of_visits,
  Program.kept_of_asks, Program.run_congr, Program.related_run, Program.related_visits,
  Program.related_asks
-/
import Interpose.Program

namespace Interpose.Program

variable {Request : Type} {Reply : Request → Type} {α State Other : Type}

/-- A run passes through a state, also if it comes to no end.  The state that it
starts in counts, and so does the state after every request. -/
inductive Visits (handle : (r : Request) → State → Option (Reply r × State)) :
    Program Request Reply α → State → State → Prop where
  | start (program : Program Request Reply α) (state : State) : Visits handle program state state
  | step {request : Request} {resume : Reply request → Program Request Reply α}
      {state after visited : State} {reply : Reply request}
      (served : handle request state = some (reply, after))
      (rest : Visits handle (resume reply) after visited) :
      Visits handle (ask request resume) state visited

/-- A run asks for something in a state that it passes through, also if the request
is never served. -/
inductive Asks (handle : (r : Request) → State → Option (Reply r × State)) :
    Program Request Reply α → State → Request → State → Prop where
  | here {request : Request} (resume : Reply request → Program Request Reply α) (state : State) :
      Asks handle (ask request resume) state request state
  | later {request asked : Request} {resume : Reply request → Program Request Reply α}
      {state after visited : State} {reply : Reply request}
      (served : handle request state = some (reply, after))
      (rest : Asks handle (resume reply) after asked visited) :
      Asks handle (ask request resume) state asked visited

variable {handle : (r : Request) → State → Option (Reply r × State)}

theorem run_request (r : Request) (state : State) :
    (request r).run handle state = handle r state := by
  unfold request run
  cases handle r state <;> rfl

/-- What every served request keeps holds in every state that is passed through. -/
theorem kept_of_visits {invariant : State → Prop}
    (kept : ∀ request state reply after, invariant state →
      handle request state = some (reply, after) → invariant after)
    {program : Program Request Reply α} {state visited : State}
    (visits : Visits handle program state visited) (initially : invariant state) :
    invariant visited := by
  induction visits with
  | start program state => exact initially
  | step served rest inductionHypothesis =>
      exact inductionHypothesis (kept _ _ _ _ initially served)

private theorem visits_of_asks {program : Program Request Reply α} {request : Request}
    {state visited : State} (asks : Asks handle program state request visited) :
    Visits handle program state visited := by
  induction asks with
  | here resume state => exact .start _ state
  | later served rest inductionHypothesis => exact .step served inductionHypothesis

/-- What every served request keeps holds in every state in which something is asked. -/
theorem kept_of_asks {invariant : State → Prop}
    (kept : ∀ request state reply after, invariant state →
      handle request state = some (reply, after) → invariant after)
    {program : Program Request Reply α} {request : Request} {state visited : State}
    (asks : Asks handle program state request visited) (initially : invariant state) :
    invariant visited :=
  kept_of_visits kept (visits_of_asks asks) initially

/-- A run passes through the state that it ends in. -/
theorem visits_of_run {program : Program Request Reply α} {state final : State} {result : α}
    (ran : program.run handle state = some (result, final)) :
    Visits handle program state final := by
  induction program generalizing state with
  | done value =>
      obtain ⟨_, rfl⟩ := Prod.mk.inj (Option.some.inj ran)
      exact .start _ _
  | ask request resume inductionHypothesis =>
      unfold run at ran
      cases served : handle request state with
      | none =>
          rw [served] at ran
          cases ran
      | some answer =>
          rw [served] at ran
          exact .step served (inductionHypothesis answer.1 ran)

/-- What every served request keeps is kept by a run. -/
theorem kept_of_run {invariant : State → Prop}
    (kept : ∀ request state reply after, invariant state →
      handle request state = some (reply, after) → invariant after)
    {program : Program Request Reply α} {state final : State} {result : α}
    (ran : program.run handle state = some (result, final)) (initially : invariant state) :
    invariant final :=
  kept_of_visits kept (visits_of_run ran) initially

/-- Handlers that serve alike whatever a program asks for run it alike. -/
theorem run_congr {other : (r : Request) → State → Option (Reply r × State)}
    {program : Program Request Reply α} :
    ∀ {state : State}, (∀ request visited, Asks handle program state request visited →
        handle request visited = other request visited) →
      program.run handle state = program.run other state := by
  induction program with
  | done result => exact fun _ => rfl
  | ask request resume inductionHypothesis =>
      intro state same
      have first := same request state (.here resume state)
      simp only [run, ← first]
      cases served : handle request state with
      | none => rfl
      | some answer =>
          exact inductionHypothesis answer.1 fun asked visited asks =>
            same asked visited (.later served asks)

section Related

variable {related : State → Other → Prop}
  {handleOther : (r : Request) → Other → Option (Reply r × Other)}
  (alike : ∀ request state other, related state other →
    Option.Rel (fun one two => one.1 = two.1 ∧ related one.2 two.2)
      (handle request state) (handleOther request other))

include alike

/-- What one of two such handlers serves, the other serves alike. -/
private theorem served_alike {request : Request} {state after : State} {other : Other}
    {reply : Reply request} (running : related state other)
    (served : handle request state = some (reply, after)) :
    ∃ afterOther, handleOther request other = some (reply, afterOther) ∧
      related after afterOther := by
  have replies := alike request state other running
  rw [served] at replies
  cases servedOther : handleOther request other with
  | none =>
      rw [servedOther] at replies
      cases replies
  | some answer =>
      rw [servedOther] at replies
      obtain ⟨replyOther, afterOther⟩ := answer
      obtain ⟨same, still⟩ := Option.rel_some_some.mp replies
      obtain rfl : reply = replyOther := same
      exact ⟨afterOther, rfl, still⟩

/-- Two handlers that reply alike in related states, and leave related states,
carry a program to the same result, or both to none. -/
theorem related_run (program : Program Request Reply α) :
    ∀ state other, related state other →
      Option.Rel (fun one two => one.1 = two.1 ∧ related one.2 two.2)
        (program.run handle state) (program.run handleOther other) := by
  induction program with
  | done result =>
      intro state other initially
      exact .some ⟨rfl, initially⟩
  | ask request resume inductionHypothesis =>
      intro state other initially
      unfold run
      cases served : handle request state with
      | none =>
          have replies := alike request state other initially
          rw [served] at replies
          cases servedOther : handleOther request other with
          | none => exact .none
          | some answer =>
              rw [servedOther] at replies
              cases replies
      | some answer =>
          obtain ⟨afterOther, servedOther, still⟩ := served_alike alike initially served
          rw [servedOther]
          exact inductionHypothesis answer.1 answer.2 afterOther still

/-- Such runs pass through related states. -/
theorem related_visits {program : Program Request Reply α} {state visited : State}
    (visits : Visits handle program state visited) :
    ∀ {other : Other}, related state other →
      ∃ visitedOther, Visits handleOther program other visitedOther ∧
        related visited visitedOther := by
  induction visits with
  | start program state => exact fun running => ⟨_, .start program _, running⟩
  | step served rest inductionHypothesis =>
      intro other running
      obtain ⟨afterOther, servedOther, still⟩ := served_alike alike running served
      obtain ⟨visitedOther, visits, reached⟩ := inductionHypothesis still
      exact ⟨visitedOther, .step servedOther visits, reached⟩

/-- Such runs ask for the same things, in related states. -/
theorem related_asks {program : Program Request Reply α} {request : Request}
    {state visited : State} (asks : Asks handle program state request visited) :
    ∀ {other : Other}, related state other →
      ∃ visitedOther, Asks handleOther program other request visitedOther ∧
        related visited visitedOther := by
  induction asks with
  | here resume state => exact fun running => ⟨_, .here resume _, running⟩
  | later served rest inductionHypothesis =>
      intro other running
      obtain ⟨afterOther, servedOther, still⟩ := served_alike alike running served
      obtain ⟨visitedOther, asks, reached⟩ := inductionHypothesis still
      exact ⟨visitedOther, .later servedOther asks, reached⟩

end Related

end Interpose.Program
