import Calculator.Number.Double
import Calculator.Session

/-!
Runs of a session.

A run is a list of steps; its transcript has one entry for each of them. The state after a run
is determined by three parts of its history: the mode chosen last, the operators registered,
and the latest scalar answer in algebraic mode (`after_eq`). So every text is answered as by a
calculator without memory that is told these three, and evaluations that leave no scalar can be
left out of a run. Main statement: `run_from_start`.
-/

namespace Calculator.Session

open Expression

variable {α : Type}

/-! ### Steps and transcripts -/

inductive Step (α : Type) where
  | evaluate (context : Context α) (text : List Char)
  | setMode (mode : Mode)
  | register (operator : Operator α)

/-- A step of a run: the mode it was taken in and, for a text, the answer. -/
structure Entry (α : Type) where
  mode : Mode
  step : Step α
  answer : Option (Except Failure (Value α))

def Step.mode? : Step α → Option Mode
  | .setMode mode => some mode
  | _ => none

def Step.operator? : Step α → Option (Operator α)
  | .register operator => some operator
  | _ => none

/-- The mode chosen last; a session starts in algebraic mode. -/
def chosenMode (steps : List (Step α)) : Mode :=
  (steps.filterMap Step.mode?).getLast?.getD .algebraic

def registered (steps : List (Step α)) : List (Operator α) :=
  steps.filterMap Step.operator?

def scalarOf? : Except Failure (Value α) → Option α
  | .ok value => value.asScalar?
  | .error _ => none

/-- The scalar that a text was answered with in algebraic mode. -/
def Entry.scalar? : Entry α → Option α
  | ⟨.algebraic, .evaluate _ _, some answer⟩ => scalarOf? answer
  | _ => none

/-- The latest scalar answer to a text in algebraic mode. -/
def latestScalar (entries : List (Entry α)) : Option α :=
  (entries.filterMap Entry.scalar?).getLast?

/-- A text that was not answered, or with a vector or a matrix, or in linear mode. -/
inductive Entry.IsPassing : Entry α → Prop where
  | failed (mode : Mode) (context : Context α) (text : List Char) (cause : Failure) :
      IsPassing ⟨mode, .evaluate context text, some (.error cause)⟩
  | vector (mode : Mode) (context : Context α) (text : List Char) {n : Nat} (v : Vector α n) :
      IsPassing ⟨mode, .evaluate context text, some (.ok (.vector v))⟩
  | matrix (mode : Mode) (context : Context α) (text : List Char) {m n : Nat}
      (a : Linear.DenseMatrix α m n) :
      IsPassing ⟨mode, .evaluate context text, some (.ok (.matrix a))⟩
  | linear (context : Context α) (text : List Char) (answer : Except Failure (Value α)) :
      IsPassing ⟨.linear, .evaluate context text, some answer⟩

/-- Some of the passing entries of a transcript are left out. -/
inductive Thinned : (kept entries : List (Entry α)) → Prop where
  | nil : Thinned [] []
  | keep (entry : Entry α) {kept entries : List (Entry α)} :
      Thinned kept entries → Thinned (entry :: kept) (entry :: entries)
  | drop {entry : Entry α} {kept entries : List (Entry α)} :
      entry.IsPassing → Thinned kept entries → Thinned kept (entry :: entries)

section Runs

variable [Arithmetic α] [Numeral α]

/-- Take a step: the answer, if it is a text, and the session after it. -/
def take (session : Session α) : Step α → Option (Except Failure (Value α)) × Session α
  | .evaluate context text =>
      (some (session.evaluate context text).1, (session.evaluate context text).2)
  | .setMode mode => (none, session.setMode mode)
  | .register operator => (none, session.register operator)

def after (session : Session α) (steps : List (Step α)) : Session α :=
  steps.foldl (fun session step => (session.take step).2) session

def transcript (session : Session α) : List (Step α) → List (Entry α)
  | [] => []
  | step :: steps =>
      ⟨session.mode, step, (session.take step).1⟩ :: (session.take step).2.transcript steps

end Runs

/-- The answer to a text without a session: from the settings, the mode, the operators in
addition to the built-in ones, and the last answer. -/
def statelessAnswer [Elementary α] [Numeral α] (config : Config α) (mode : Mode)
    (operators : List (Operator α)) (last : Option α) (context : Context α)
    (text : List Char) : Except Failure (Value α) :=
  match mode with
  | .algebraic =>
      Expression.respond ((Builtin.registry config).registerAll operators) config
        (context.orElse (.ofBindings (last.toList.map fun x => (answerName, x)))) text
  | .linear => (Linear.respond config text).mapError Failure.linear

/-! ### One step -/

/-- What is read first and then computed has the shape in which it is answered. -/
theorem bind_map_ne_scalar {ε β : Type} {γ : β → Type} {read : Except ε β}
    {compute : (b : β) → Except ε (γ b)} {answer : (b : β) → γ b → Value α}
    (shape : ∀ b c x, answer b c ≠ .scalar x) (x : α) :
    (read.bind fun b => (compute b).map (answer b)) ≠ .ok (.scalar x) := by
  cases read with
  | error cause => nofun
  | ok b =>
      rw [Except.bind]
      cases compute b with
      | error cause => nofun
      | ok c => exact fun same => shape b c x (Except.ok.inj same)

section Steps

variable [Arithmetic α] [Numeral α]

/-- In linear mode no text is answered with a scalar. -/
theorem linear_respond_ne_scalar (config : Config α) (text : List Char) (x : α) :
    Linear.respond config text ≠ .ok (.scalar x) := by
  have vector {n : Nat} (v : Vector α n) (y : α) : Value.vector v ≠ .scalar y := by
    intro same
    cases same
  have matrix {m n : Nat} (a : Linear.DenseMatrix α m n) (y : α) :
      Value.matrix a ≠ .scalar y := by
    intro same
    cases same
  unfold Linear.respond
  split
  · exact bind_map_ne_scalar (fun _ factors => matrix (Linear.Factors.q factors)) x
  · split
    · exact bind_map_ne_scalar (fun _ => vector) x
    · unfold Linear.solveSystem
      split
      · exact bind_map_ne_scalar (fun _ => vector) x
      · exact bind_map_ne_scalar (fun _ => vector) x

theorem scalarOf?_linear (config : Config α) (text : List Char) :
    scalarOf? ((Linear.respond config text).mapError Failure.linear) = none := by
  cases answered : Linear.respond config text with
  | error cause => rfl
  | ok value =>
      cases value with
      | scalar x => exact absurd answered (linear_respond_ne_scalar config text x)
      | vector v => rfl
      | matrix a => rfl

omit [Arithmetic α] [Numeral α] in
theorem remember_eq (session : Session α) (answer : Except Failure (Value α)) :
    session.remember answer =
      { session with lastAnswer := (scalarOf? answer).or session.lastAnswer } := by
  cases answer with
  | error cause => rfl
  | ok value => cases value <;> rfl

/-- What a step changes. -/
theorem take_snd (session : Session α) (step : Step α) : (session.take step).2 =
    { config := session.config
      mode := step.mode?.getD session.mode
      registry := session.registry.registerAll step.operator?.toList
      lastAnswer :=
        (Entry.scalar? ⟨session.mode, step, (session.take step).1⟩).or session.lastAnswer } := by
  cases step with
  | setMode mode => obtain ⟨config, - | -, registry, lastAnswer⟩ := session <;> rfl
  | register operator => obtain ⟨config, - | -, registry, lastAnswer⟩ := session <;> rfl
  | evaluate context text =>
      obtain ⟨config, mode, registry, lastAnswer⟩ := session
      cases mode with
      | algebraic => exact remember_eq _ _
      | linear =>
          refine (remember_eq _ _).trans ?_
          change Session.mk _ _ _ ((scalarOf? ((Linear.respond config text).mapError _)).or _) = _
          rw [scalarOf?_linear]
          rfl

omit [Arithmetic α] [Numeral α] in
theorem Entry.IsPassing.idle {entry : Entry α} (passing : entry.IsPassing) :
    entry.scalar? = none ∧ entry.step.mode? = none ∧ entry.step.operator? = none := by
  cases passing with
  | failed mode => cases mode <;> exact ⟨rfl, rfl, rfl⟩
  | vector mode => cases mode <;> exact ⟨rfl, rfl, rfl⟩
  | matrix mode => cases mode <;> exact ⟨rfl, rfl, rfl⟩
  | linear => exact ⟨rfl, rfl, rfl⟩

/-- A passing entry leaves the session as it was. -/
theorem take_of_isPassing {session : Session α} {step : Step α}
    (passing : Entry.IsPassing ⟨session.mode, step, (session.take step).1⟩) :
    (session.take step).2 = session := by
  obtain ⟨noScalar, noMode, noOperator⟩ := passing.idle
  rw [take_snd, noScalar, noMode, noOperator]
  rfl

/-- What a text is answered with does not depend on how the session came about. -/
theorem respond_eq {β : Type} [Elementary β] [Numeral β] (config : Config β) (mode : Mode)
    (operators : List (Operator β)) (last : Option β) (context : Context β) (text : List Char) :
    respond ⟨config, mode, (Builtin.registry config).registerAll operators, last⟩ context text =
      statelessAnswer config mode operators last context text := by
  cases mode with
  | linear => rfl
  | algebraic =>
      have bound : answerContext ⟨config, .algebraic,
          (Builtin.registry config).registerAll operators, last⟩ =
            Context.ofBindings (last.toList.map fun x => (answerName, x)) := by
        funext name
        cases last with
        | none => exact ite_self none
        | some x =>
            by_cases same : name = answerName
            · simp [answerContext, Context.ofBindings, same]
            · simp [answerContext, Context.ofBindings, same, Ne.symm same]
      rw [respond, statelessAnswer, bound]

end Steps

/-! ### Runs -/

section Runs

variable [Arithmetic α] [Numeral α]

omit [Arithmetic α] [Numeral α] in
/-- The last item that `write` has a value for may be the first of all. -/
theorem getLast?_filterMap_cons {β γ : Type} (write : β → Option γ) (item : β)
    (items : List β) : ((item :: items).filterMap write).getLast? =
      (items.filterMap write).getLast?.or (write item) := by
  rw [List.filterMap_cons]
  cases write item with
  | none => exact Option.or_none.symm
  | some value => exact List.getLast?_cons.trans Option.or_some.symm

theorem after_cons (session : Session α) (step : Step α) (steps : List (Step α)) :
    session.after (step :: steps) = (session.take step).2.after steps := rfl

/-- The state after a run. -/
theorem after_eq (session : Session α) (steps : List (Step α)) : session.after steps =
    { config := session.config
      mode := (steps.filterMap Step.mode?).getLast?.getD session.mode
      registry := session.registry.registerAll (registered steps)
      lastAnswer := (latestScalar (session.transcript steps)).or session.lastAnswer } := by
  induction steps generalizing session with
  | nil => rfl
  | cons step steps ih =>
      have mode (initial : Mode) :
          ((step :: steps).filterMap Step.mode?).getLast?.getD initial =
            (steps.filterMap Step.mode?).getLast?.getD (step.mode?.getD initial) := by
        rw [getLast?_filterMap_cons, Option.getD_or]
      have lastAnswer (entry : Entry α) (entries : List (Entry α)) (initial : Option α) :
          (latestScalar (entry :: entries)).or initial =
            (latestScalar entries).or (entry.scalar?.or initial) := by
        rw [latestScalar, getLast?_filterMap_cons, Option.or_assoc, latestScalar]
      have registry (initial : Registry α) : initial.registerAll (registered (step :: steps)) =
          (initial.registerAll step.operator?.toList).registerAll (registered steps) := by
        cases step <;> rfl
      rw [after_cons, ih, transcript, lastAnswer, mode, registry, take_snd]

theorem transcript_append (session : Session α) (before rest : List (Step α)) :
    session.transcript (before ++ rest) =
      session.transcript before ++ (session.after before).transcript rest := by
  induction before generalizing session with
  | nil => rfl
  | cons step before ih =>
      rw [List.cons_append, transcript, transcript, ih]
      rfl

theorem length_transcript (session : Session α) (steps : List (Step α)) :
    (session.transcript steps).length = steps.length := by
  induction steps generalizing session with
  | nil => rfl
  | cons step steps ih => rw [transcript, List.length_cons, ih, List.length_cons]

/-- The entries that are kept are those of the run without the other steps, and it leads to the
same session. -/
theorem transcript_of_thinned {session : Session α} {steps : List (Step α)}
    {kept : List (Entry α)} (thinned : Thinned kept (session.transcript steps)) :
    session.transcript (kept.map Entry.step) = kept ∧
      session.after (kept.map Entry.step) = session.after steps := by
  induction steps generalizing session kept with
  | nil =>
      cases thinned
      exact ⟨rfl, rfl⟩
  | cons step steps ih =>
      cases thinned with
      | keep _ rest =>
          obtain ⟨same, last⟩ := ih rest
          exact ⟨congrArg _ same, last⟩
      | drop passing rest =>
          rw [after_cons]
          rw [take_of_isPassing passing] at rest ⊢
          exact ih rest

end Runs

section Start

variable [Elementary α] [Numeral α]

theorem after_start (config : Config α) (steps : List (Step α)) : (start config).after steps =
    { config := config
      mode := chosenMode steps
      registry := (Builtin.registry config).registerAll (registered steps)
      lastAnswer := latestScalar ((start config).transcript steps) } := by
  rw [after_eq, start, Option.or_none]
  rfl

/-- Runs from the start of a session. The last answer is the latest scalar answer of the
algebraic mode. A text is answered as by a calculator without memory that is given the mode
chosen last, the operators registered so far and, behind the variables of the text, the last
answer as `Ans`. And texts that were not answered, or with a vector or a matrix, or in linear
mode, can be left out of a run: the other steps have the answers they had, and the session ends
in the same state. -/
theorem run_from_start (config : Config α) :
    (∀ steps, ((start config).after steps).lastAnswer =
      latestScalar ((start config).transcript steps)) ∧
    (∀ before context text rest,
      ((start config).transcript (before ++ .evaluate context text :: rest))[before.length]? =
        some ⟨chosenMode before, .evaluate context text, some <|
          statelessAnswer config (chosenMode before) (registered before)
            ((start config).after before).lastAnswer context text⟩) ∧
    (∀ steps kept, Thinned kept ((start config).transcript steps) →
      (start config).transcript (kept.map Entry.step) = kept ∧
        (start config).after (kept.map Entry.step) = (start config).after steps) := by
  refine ⟨fun steps => ?_, fun before context text rest => ?_, fun steps kept thinned => ?_⟩
  · rw [after_start]
  · rw [transcript_append, ← length_transcript (start config) before,
      List.getElem?_append_right (Nat.le_refl _), Nat.sub_self, transcript,
      List.getElem?_cons_zero, after_start, ← respond_eq]
    rfl
  · exact transcript_of_thinned thinned

end Start

/-- A division by zero and an equation are left out of a run. -/
theorem run_from_start_left_out :
    let evaluate (text : String) : Step Float := .evaluate Context.empty text.toList
    let session : Session Float := start Config.standard
    let steps := [evaluate "2 + 3", evaluate "1 / 0", .setMode .linear, evaluate "x = 4",
      .setMode .algebraic, evaluate "Ans * 2"]
    ∃ kept, Thinned kept (session.transcript steps) ∧
      kept.map Entry.step =
        [evaluate "2 + 3", .setMode .linear, .setMode .algebraic, evaluate "Ans * 2"] ∧
      session.transcript (kept.map Entry.step) = kept ∧
      session.after (kept.map Entry.step) = session.after steps ∧
      (session.after steps).lastAnswer = some (10 : Float) := by
  intro evaluate session steps
  let second := (session.take (evaluate "2 + 3")).2
  have division : Entry.IsPassing ⟨second.mode, evaluate "1 / 0", some <|
      second.respond Context.empty "1 / 0".toList⟩ := by
    have failed : (second.respond Context.empty "1 / 0".toList).isOk = false := by
      decide +kernel
    generalize second.respond _ _ = answer at failed
    cases answer with
    | error cause => exact .failed _ _ _ cause
    | ok value => cases failed
  obtain ⟨kept, thinned, others⟩ : ∃ kept, Thinned kept (session.transcript steps) ∧
      kept.map Entry.step =
        [evaluate "2 + 3", .setMode .linear, .setMode .algebraic, evaluate "Ans * 2"] :=
    ⟨_, .keep _ (.drop division (.keep _ (.drop (.linear ..) (.keep _ (.keep _ .nil))))), rfl⟩
  obtain ⟨-, -, leaveOut⟩ := run_from_start (Config.standard (α := Float))
  obtain ⟨same, last⟩ := leaveOut steps kept thinned
  exact ⟨kept, thinned, others, same, last, by decide +kernel⟩

end Calculator.Session
