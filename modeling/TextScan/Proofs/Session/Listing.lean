import TextScan.Session

/-!
# Programs written out line by line

The steps of a session nest: a context and a thread have steps of their own. Written out, a program
is a list of lines (`Session.listing`), where the steps of a context or a thread stand between a
line that begins it and a line that ends it. A `Machine` carries out lines one after the other; it
remembers the configurations to go back to on a stack.

Carrying out the lines of a program is carrying out the program (`Session.exec_listing`): every line
gives the result that the program gives at its place, and the session is the same at the end. So
what is true along every list of lines is true along every program, however its steps nest.
-/

namespace TextScan

/-- Whether a step has steps of its own. -/
def Step.nests : Step → Bool
  | .within .. | .thread _ => true
  | _ => false

namespace Session

/-! ## Lines -/

/-- A line of a program. -/
inductive Line where
  /-- A step without steps of its own. -/
  | plain (step : Step)
  /-- A context begins. -/
  | opening (spec : ConfigSpec)
  /-- A thread begins. -/
  | start
  /-- The context or thread that began last ends. -/
  | closing

mutual

/-- The lines of a step. -/
def linesOf : Step → List Line
  | .within spec _ steps => .opening spec :: (listing steps ++ [.closing])
  | .thread steps => .start :: (listing steps ++ [.closing])
  | step => [.plain step]

/-- The lines of a program. -/
def listing : List Step → List Line
  | [] => []
  | step :: steps => linesOf step ++ listing steps

end

mutual

/-- A result line by line, where the lines that begin or end something give nothing. -/
def writtenOne : StepResult → List StepResult
  | .within results _ => .none :: (written results ++ [.none])
  | .thread results => .none :: (written results ++ [.none])
  | result => [result]

/-- The results of a program line by line. -/
def written : List StepResult → List StepResult
  | [] => []
  | result :: results => writtenOne result ++ written results

end

/-! ## Carrying out lines -/

/-- A session, and the configurations that the contexts and threads which have begun go back to when
they end, the latest first. -/
structure Machine where
  /-- The session. -/
  session : Session := {}
  /-- The configurations to go back to. -/
  saved : List Config := []

/-- Carries out a line. -/
def Line.exec : Line → Machine → StepResult × Machine
  | .plain step, k => ((Session.step step k.session).1, ⟨(Session.step step k.session).2, k.saved⟩)
  | .opening spec, k =>
    let (c, s) := k.session.resolve spec
    (.none, ⟨s.install c, k.session.config :: k.saved⟩)
  | .start, k => (.none, ⟨k.session.install {}, k.session.config :: k.saved⟩)
  | .closing, ⟨s, []⟩ => (.none, ⟨s, []⟩)
  | .closing, ⟨s, c :: saved⟩ => (.none, ⟨s.install c, saved⟩)

/-- Carries out lines one after the other. -/
def exec : List Line → Machine → List StepResult × Machine
  | [], k => ([], k)
  | line :: lines, k =>
    let (result, k) := line.exec k
    let (results, k) := exec lines k
    (result :: results, k)

/-- The first line is carried out, and then the others. -/
theorem exec_cons (line : Line) (lines : List Line) (k : Machine) :
    exec (line :: lines) k =
      ((line.exec k).1 :: (exec lines (line.exec k).2).1, (exec lines (line.exec k).2).2) := rfl

/-- Lines that follow others start from where these have led. -/
theorem exec_append (lines more : List Line) (k : Machine) :
    exec (lines ++ more) k =
      ((exec lines k).1 ++ (exec more (exec lines k).2).1, (exec more (exec lines k).2).2) := by
  induction lines generalizing k with
  | nil => rfl
  | cons line lines ih => rw [List.cons_append, exec_cons, ih, exec_cons, List.cons_append]

/-- Every line gives one result. -/
theorem length_exec (lines : List Line) (k : Machine) :
    (exec lines k).1.length = lines.length := by
  induction lines generalizing k with
  | nil => rfl
  | cons line lines ih => rw [exec_cons, List.length_cons, List.length_cons, ih]

/-! ## Programs -/

/-- What is done with a scanner gives a result of one line. -/
theorem writtenOne_call (s : Session) (name : String) (op : Op) :
    writtenOne (s.call name op).1 = [(s.call name op).1] := by
  unfold call
  split <;> rfl

mutual

/-- Carrying out the lines of a step is carrying out the step. -/
theorem exec_linesOf (step : Step) (s : Session) (saved : List Config) :
    exec (linesOf step) ⟨s, saved⟩ =
      (writtenOne (Session.step step s).1, ⟨(Session.step step s).2, saved⟩) := by
  cases step with
  | within spec fails steps =>
    rw [linesOf, exec_cons, exec_append]
    dsimp only [Line.exec]
    rw [exec_listing steps]
    rfl
  | thread steps =>
    rw [linesOf, exec_cons, exec_append]
    dsimp only [Line.exec]
    rw [exec_listing steps]
    rfl
  | call name op =>
    show ([(s.call name op).1], _) = (writtenOne (s.call name op).1, _)
    rw [writtenOne_call]
  | _ => rfl

/-- Carrying out the lines of a program is carrying out the program. -/
theorem exec_listing (steps : List Step) (s : Session) (saved : List Config) :
    exec (listing steps) ⟨s, saved⟩ =
      (written (runSteps steps s).1, ⟨(runSteps steps s).2, saved⟩) := by
  cases steps with
  | nil => rfl
  | cons step steps =>
    rw [listing, exec_append, exec_linesOf step, exec_listing steps]
    rfl

end

/-- What a program gives from a place on is what the lines from there on give after those before. -/
theorem written_drop {program : List Step} {earlier later : List Line}
    (h : listing program = earlier ++ later) :
    (written (runSteps program {}).1).drop earlier.length =
      (exec later (exec earlier {}).2).1 := by
  have hexec := exec_listing program {} []
  rw [h, exec_append] at hexec
  rw [← (Prod.mk.inj hexec).1, List.drop_left' (length_exec earlier {})]

/-- What a program gives at a line is what the line gives after those before it. -/
theorem written_at {program : List Step} {earlier later : List Line} {line : Line}
    (h : listing program = earlier ++ line :: later) :
    (written (runSteps program {}).1)[earlier.length]? =
      some (line.exec (exec earlier {}).2).1 := by
  rw [← List.head?_drop, written_drop h]
  rfl

/-- A line is flat if it is no step with steps of its own. -/
def Line.Flat (line : Line) : Prop := ∀ step, line = .plain step → step.nests = false

mutual

/-- The lines of a step are flat. -/
theorem flat_of_mem_linesOf {step : Step} {line : Line} (h : line ∈ linesOf step) : line.Flat := by
  cases step with
  | within spec fails steps =>
    rw [linesOf, List.mem_cons, List.mem_append, List.mem_singleton] at h
    rcases h with rfl | h | rfl
    · rintro _ ⟨⟩
    · exact flat_of_mem_listing h
    · rintro _ ⟨⟩
  | thread steps =>
    rw [linesOf, List.mem_cons, List.mem_append, List.mem_singleton] at h
    rcases h with rfl | h | rfl
    · rintro _ ⟨⟩
    · exact flat_of_mem_listing h
    · rintro _ ⟨⟩
  | _ =>
    obtain rfl : line = .plain _ := by simpa [linesOf] using h
    rintro _ ⟨⟩
    rfl

/-- The lines of a program are flat. -/
theorem flat_of_mem_listing {steps : List Step} {line : Line} (h : line ∈ listing steps) :
    line.Flat := by
  cases steps with
  | nil => simp [listing] at h
  | cons step steps =>
    rw [listing, List.mem_append] at h
    rcases h with h | h
    · exact flat_of_mem_linesOf h
    · exact flat_of_mem_listing h

end

end Session

end TextScan
