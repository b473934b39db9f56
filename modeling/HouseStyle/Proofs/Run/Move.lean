import HouseStyle.Run.Schedule

namespace HouseStyle

/-!
# What a step of a run does

Every step of a run either changes nothing or is one of ten moves. A file gets
further by one phase, and only when it is finished or the scheduler stops to
watch does the report change. In a cancelled run no move adds a result.
-/

namespace Run

/-- All that a step can do. -/
inductive Move
    (check : String → Option Evaluation)
    (run : Run) :
    Step →
    Run →
    Prop where
  | idle (taken : Step) : Move check run taken run
  | begin
      {file : Nat}
      (isWaiting : run.phases[file]? = some .waiting) :
      Move check run (.start file) (run.setPhase file .started)
  /-- A worker drops a file before it looks at it. -/
  | drop
      {file : Nat}
      (isWaiting : run.phases[file]? = some .waiting)
      (isCancelled : run.cancelled = true) :
      Move check run (.start file)
        { run.setPhase file .finished with report := run.report.abandon }
  | look
      {file : Nat}
      {path : String}
      (isStarted : run.phases[file]? = some .started)
      (isFile : run.files[file]? = some path) :
      Move check run (.look file)
        (run.setPhase file (.looked (check path)))
  | skip
      {file : Nat}
      (isLooked : run.phases[file]? = some (.looked none)) :
      Move check run (.handIn file)
        { run.setPhase file .finished with report := run.report.skip }
  /-- A result that comes too late is refused. -/
  | refuse
      {file : Nat}
      {evaluation : Evaluation}
      (isLooked : run.phases[file]? = some (.looked (some evaluation)))
      (isCancelled : run.cancelled = true) :
      Move check run (.handIn file)
        { run.setPhase file .finished with report := run.report.abandon }
  | add
      {file : Nat}
      {path : String}
      {evaluation : Evaluation}
      (isLooked : run.phases[file]? = some (.looked (some evaluation)))
      (isFile : run.files[file]? = some path)
      (notCancelled : run.cancelled = false) :
      Move check run (.handIn file)
        { run.setPhase file .finished with
          report := run.report.add path evaluation }
  | cancel :
      Move check run .cancel { run with cancelled := true }
  | stop
      (isWatching : run.watching = true)
      (isCancelled : run.cancelled = true) :
      Move check run .poll
        { run with report := run.report.abandon, watching := false }
  | withdraw
      {file : Nat}
      (notWatching : run.watching = false)
      (isWaiting : run.phases[file]? = some .waiting) :
      Move check run (.withdraw file) (run.setPhase file .withdrawn)
  | settle
      (isOver : run.allOver = true) :
      Move check run .settle { run with watching := false }

/-- Every step is a move. -/
theorem move_step
    (check : String → Option Evaluation)
    (run : Run)
    (taken : Step) :
    Move check run taken (run.step check taken) := by
  cases taken with
  | start file =>
      simp only [step, start]
      split
      · next isWaiting =>
          split
          · next isCancelled =>
              exact .drop isWaiting isCancelled
          · exact .begin isWaiting
      · exact .idle _
  | look file =>
      simp only [step, look]
      split
      · next isStarted isFile =>
          exact .look isStarted isFile
      · exact .idle _
  | handIn file =>
      simp only [step, handIn]
      split
      · next found path isLooked isFile =>
          cases found with
          | none =>
              exact .skip isLooked
          | some evaluation =>
              simp only [reportOf, Report.addUnless]
              split
              · next isCancelled =>
                  exact .refuse isLooked isCancelled
              · next notCancelled =>
                  exact
                    .add isLooked isFile (Bool.eq_false_iff.mpr notCancelled)
      · exact .idle _
  | cancel =>
      exact .cancel
  | poll =>
      simp only [step, poll]
      split
      · next both =>
          obtain ⟨isWatching, isCancelled⟩ := Bool.and_eq_true_iff.mp both
          exact .stop isWatching isCancelled
      · exact .idle _
  | withdraw file =>
      simp only [step, withdraw]
      split
      · next both =>
          obtain ⟨notWatching, isWaiting⟩ := Bool.and_eq_true_iff.mp both
          exact
            .withdraw
              (by simpa using notWatching)
              (by simpa using isWaiting)
      · exact .idle _
  | settle =>
      simp only [step, settle]
      split
      · next isOver =>
          exact .settle isOver
      · exact .idle _

theorem phase?_setPhase_of_ne
    {file other : Nat}
    (isOther : file ≠ other)
    (run : Run)
    (phase : Phase) :
    (run.setPhase file phase).phases[other]? = run.phases[other]? := by
  simp [setPhase, isOther]

theorem phase?_setPhase_self
    {run : Run}
    {file : Nat}
    {earlier : Phase}
    (isPhase : run.phases[file]? = some earlier)
    (phase : Phase) :
    (run.setPhase file phase).phases[file]? = some phase := by
  obtain ⟨inBounds, _⟩ := Array.getElem?_eq_some_iff.mp isPhase
  simp [setPhase, inBounds]

/-- A phase behind the change of a phase is the new one or was there before. -/
theorem of_phase?_setPhase
    {run : Run}
    {file other : Nat}
    {phase found : Phase}
    (isPhase : (run.setPhase file phase).phases[other]? = some found) :
    (file = other ∧ found = phase) ∨ run.phases[other]? = some found := by
  by_cases isOther : file = other
  · subst isOther
    obtain ⟨inBounds, same⟩ := Array.getElem?_eq_some_iff.mp isPhase
    exact .inl ⟨rfl, by simpa [setPhase] using same.symm⟩
  · exact .inr ((phase?_setPhase_of_ne isOther run phase).symm.trans isPhase)

theorem of_phase?_setPhase_of_ne
    {run : Run}
    {file other : Nat}
    {phase found : Phase}
    (isPhase : (run.setPhase file phase).phases[other]? = some found)
    (isOther : phase ≠ found) :
    run.phases[other]? = some found := by
  rcases of_phase?_setPhase isPhase with ⟨_, isNew⟩ | isOld
  · exact (isOther isNew.symm).elim
  · exact isOld

/-- Nothing more happens to any file that has a phase. -/
theorem allOver_iff
    {run : Run} :
    run.allOver = true ↔
      ∀ (file : Nat) (phase : Phase),
        run.phases[file]? = some phase →
        phase.isOver = true := by
  rw [allOver, Array.all_eq_true]
  constructor
  · intro areOver file phase isPhase
    obtain ⟨inBounds, rfl⟩ := Array.getElem?_eq_some_iff.mp isPhase
    exact areOver file inBounds
  · intro areOver file inBounds
    exact areOver file _ (Array.getElem?_eq_getElem inBounds)

namespace Move

variable
  {check : String → Option Evaluation}
  {run after : Run}
  {taken : Step}
  (move : Move check run taken after)

include move

/-- No move takes a cancellation back. -/
theorem cancelled_after
    (isCancelled : run.cancelled = true) :
    after.cancelled = true := by
  cases move <;> first | exact isCancelled | rfl

/-- No move takes back that the report is cancelled. -/
theorem report_cancelled_after
    (isCancelled : run.report.cancelled = true) :
    after.report.cancelled = true := by
  cases move <;> first | exact isCancelled | rfl

/-- In a cancelled run no move adds a result. -/
theorem results_of_cancelled
    (isCancelled : run.cancelled = true) :
    after.report.results = run.report.results := by
  cases move with
  | add _ _ notCancelled =>
      rw [isCancelled] at notCancelled
      cases notCancelled
  | _ =>
      rfl

/-- A file to which nothing more happens keeps its phase. -/
theorem phase?_of_isOver
    {file : Nat}
    {phase : Phase}
    (isPhase : run.phases[file]? = some phase)
    (isOver : phase.isOver = true) :
    after.phases[file]? = some phase := by
  have keeps {other : Nat} {was : Phase}
      (wasPhase : run.phases[other]? = some was)
      (notOver : was.isOver = false)
      (next : Phase) :
      (run.setPhase other next).phases[file]? = some phase := by
    have isOther : other ≠ file := by
      rintro rfl
      rw [wasPhase, Option.some.injEq] at isPhase
      rw [isPhase, isOver] at notOver
      cases notOver
    rw [phase?_setPhase_of_ne isOther, isPhase]
  cases move with
  | idle => exact isPhase
  | begin isWaiting => exact keeps isWaiting rfl _
  | drop isWaiting => exact keeps isWaiting rfl _
  | look isStarted => exact keeps isStarted rfl _
  | skip isLooked => exact keeps isLooked rfl _
  | refuse isLooked => exact keeps isLooked rfl _
  | add isLooked => exact keeps isLooked rfl _
  | cancel => exact isPhase
  | stop => exact isPhase
  | withdraw _ isWaiting => exact keeps isWaiting rfl _
  | settle => exact isPhase

theorem size_phases_after :
    after.phases.size = run.phases.size := by
  cases move <;> simp [setPhase]

/-- When all is over, it stays over. -/
theorem allOver_after
    (areOver : run.allOver = true) :
    after.allOver = true := by
  rw [allOver_iff] at areOver ⊢
  intro file phase isPhase
  have inBounds : file < run.phases.size := by
    rw [← move.size_phases_after]
    exact (Array.getElem?_eq_some_iff.mp isPhase).1
  have was := Array.getElem?_eq_getElem inBounds
  have isOver := areOver file _ was
  rw [move.phase?_of_isOver was isOver, Option.some.injEq] at isPhase
  rw [← isPhase]
  exact isOver

/-- What a worker has looked at is what there is to see. -/
theorem of_looked_after
    {file : Nat}
    {found : Option Evaluation}
    (isLooked : after.phases[file]? = some (.looked found)) :
    run.phases[file]? = some (.looked found) ∨
      ∃ path, run.files[file]? = some path ∧ found = check path := by
  cases move with
  | look _ isFile =>
      rcases of_phase?_setPhase isLooked with ⟨rfl, isNew⟩ | isOld
      · exact .inr ⟨_, isFile, Phase.looked.inj isNew⟩
      · exact .inl isOld
  | idle => exact .inl isLooked
  | begin => exact .inl (of_phase?_setPhase_of_ne isLooked nofun)
  | drop => exact .inl (of_phase?_setPhase_of_ne isLooked nofun)
  | skip => exact .inl (of_phase?_setPhase_of_ne isLooked nofun)
  | refuse => exact .inl (of_phase?_setPhase_of_ne isLooked nofun)
  | add => exact .inl (of_phase?_setPhase_of_ne isLooked nofun)
  | cancel => exact .inl isLooked
  | stop => exact .inl isLooked
  | withdraw => exact .inl (of_phase?_setPhase_of_ne isLooked nofun)
  | settle => exact .inl isLooked

end Move

/-- Once a run is cancelled, its report gets no further result. -/
theorem results_steps_of_cancelled
    (check : String → Option Evaluation)
    {run : Run}
    (isCancelled : run.cancelled = true)
    (taken : List Step) :
    (run.steps check taken).report.results = run.report.results := by
  induction taken generalizing run with
  | nil =>
      rfl
  | cons first rest inductionHypothesis =>
      have move := move_step check run first
      calc
        (run.steps check (first :: rest)).report.results =
            (run.step check first).report.results :=
          inductionHypothesis (move.cancelled_after isCancelled)
        _ = run.report.results :=
          move.results_of_cancelled isCancelled

end Run

end HouseStyle
