import BillingQuery.Proofs.Assembled
import BillingQuery.Service.Server

/-!
# The row cap

The rows of a raw statement are fetched one after the other. Each is kept and decoded, up to the
cap; one more is fetched to see whether there is one.

**Main result (`StatementGuard.capsRows`).** Unless one of these steps fails, the rows up to the cap
are returned, and are said to be cut iff there are more. Otherwise the first step that fails decides
the error. Whatever comes after these steps makes no difference.

This is proved for any engine (`RawEngine`), since a store of our own fails before its first row or
not at all.
-/

namespace BillingQuery

namespace Sql

variable {decode : α → Except ε β} {maxRows : Nat} {step : Except ε α}
  {stream stream' : List (Except ε α)}

/-! ## Steps -/

/-- The step at a place of the stream fails: its row is not fetched, or is to be kept and cannot be
decoded. -/
inductive StepFails (decode : α → Except ε β) (maxRows : Nat) (stream : List (Except ε α)) :
    Nat → ε → Prop
  | fetch {i : Nat} {e : ε} (found : stream[i]? = some (.error e)) (read : i ≤ maxRows) :
      StepFails decode maxRows stream i e
  | decode {i : Nat} {a : α} {e : ε} (found : stream[i]? = some (.ok a))
      (failed : decode a = .error e) (kept : i < maxRows) : StepFails decode maxRows stream i e

/-- The step fails, and none before it. -/
def IsFirstFailure (decode : α → Except ε β) (maxRows : Nat) (stream : List (Except ε α)) (i : Nat)
    (e : ε) : Prop :=
  StepFails decode maxRows stream i e ∧ ∀ j < i, ∀ e', ¬ StepFails decode maxRows stream j e'

theorem stepFails_succ_iff {i : Nat} {e : ε} :
    StepFails decode (maxRows + 1) (step :: stream) (i + 1) e ↔
      StepFails decode maxRows stream i e := by
  constructor
  · rintro (⟨found, read⟩ | ⟨found, failed, kept⟩)
    · exact .fetch found (Nat.le_of_succ_le_succ read)
    · exact .decode found failed (Nat.lt_of_succ_lt_succ kept)
  · rintro (⟨found, read⟩ | ⟨found, failed, kept⟩)
    · exact .fetch found (Nat.succ_le_succ read)
    · exact .decode found failed (Nat.succ_lt_succ kept)

theorem not_stepFails_zero {a : α} {b : β} {e : ε} (hdecode : decode a = .ok b) :
    ¬ StepFails decode maxRows (.ok a :: stream) 0 e := by
  rintro (⟨⟨⟩, -⟩ | ⟨⟨⟩, failed, -⟩)
  cases hdecode.symm.trans failed

/-! ## Collecting -/

/-- The step gives a row that is decoded to this. -/
def Yields (decode : α → Except ε β) (step : Except ε α) (b : β) : Prop :=
  ∃ a, step = .ok a ∧ decode a = .ok b

/-- What comes of collecting rows. -/
inductive Collects (decode : α → Except ε β) (maxRows : Nat) (stream : List (Except ε α)) :
    Except ε (List β × Bool) → Prop
  | rows {bs : List β} {truncated : Bool}
      (succeeds : ∀ i e, ¬ StepFails decode maxRows stream i e)
      (yields : List.Forall₂ (Yields decode) (stream.take maxRows) bs)
      (cut : truncated = true ↔ maxRows < stream.length) :
      Collects decode maxRows stream (.ok (bs, truncated))
  | failure {i : Nat} {e : ε} (first : IsFirstFailure decode maxRows stream i e) :
      Collects decode maxRows stream (.error e)

theorem Collects.cons {a : α} {b : β} {outcome : Except ε (List β × Bool)}
    (hdecode : decode a = .ok b) (h : Collects decode maxRows stream outcome) :
    Collects decode (maxRows + 1) (.ok a :: stream)
      (outcome.map fun (bs, truncated) => (b :: bs, truncated)) := by
  cases h with
  | rows succeeds yields cut =>
    refine .rows (fun i e => ?_) (.cons ⟨a, rfl, hdecode⟩ yields) ?_
    · cases i with
      | zero => exact not_stepFails_zero hdecode
      | succ i => exact fun hfails => succeeds i e (stepFails_succ_iff.1 hfails)
    · rw [cut, List.length_cons, Nat.add_lt_add_iff_right]
  | failure first =>
    obtain ⟨hfails, hearlier⟩ := first
    refine .failure ⟨stepFails_succ_iff.2 hfails, fun j hj e' => ?_⟩
    cases j with
    | zero => exact not_stepFails_zero hdecode
    | succ j => exact fun hj' => hearlier j (by omega) e' (stepFails_succ_iff.1 hj')

/-- Rows are collected up to the cap, or to the first step that fails. -/
theorem collects_collectRows (decode : α → Except ε β) (maxRows : Nat)
    (stream : List (Except ε α)) :
    Collects decode maxRows stream (collectRows decode maxRows stream) := by
  -- A row that is taken shifts every place of the rest by one.
  induction stream generalizing maxRows with
  | nil =>
    have hnone : ∀ i e, ¬ StepFails decode maxRows [] i e := by
      rintro i e (⟨⟨⟩, -⟩ | ⟨⟨⟩, -, -⟩)
    rw [collectRows]
    exact .rows hnone (by rw [List.take_nil]; exact .nil) (iff_of_false nofun nofun)
  | cons step stream ih =>
    cases step with
    | error e =>
      have hfirst : IsFirstFailure decode maxRows (.error e :: stream) 0 e :=
        ⟨.fetch rfl (Nat.zero_le _), nofun⟩
      rw [collectRows]
      exact .failure hfirst
    | ok a =>
      cases maxRows with
      | zero =>
        have hnone : ∀ i e, ¬ StepFails decode 0 (.ok a :: stream) i e := by
          rintro i e (⟨found, read⟩ | ⟨-, -, kept⟩)
          · obtain rfl := Nat.le_zero.1 read
            cases found
          · cases kept
        -- One row past the cut is fetched, and what it holds is not read.
        exact .rows hnone .nil (iff_of_true rfl (Nat.succ_pos _))
      | succ maxRows =>
        cases hdecode : decode a with
        | error e =>
          have hfirst : IsFirstFailure decode (maxRows + 1) (.ok a :: stream) 0 e :=
            ⟨.decode rfl hdecode (Nat.succ_pos _), nofun⟩
          rw [collectRows, hdecode]
          exact .failure hfirst
        | ok b =>
          have hcollect : collectRows decode (maxRows + 1) (.ok a :: stream) =
              (collectRows decode maxRows stream).map fun (bs, truncated) =>
                (b :: bs, truncated) := by
            rw [collectRows, hdecode]
            cases collectRows decode maxRows stream <;> rfl
          rw [hcollect]
          exact (ih maxRows).cons hdecode

/-! ## Later rows -/

/-- The streams have the same rows up to the cap, and after it both have a row, or neither, or the
same failure. -/
def AreSeenAlike (maxRows : Nat) (stream stream' : List (Except ε α)) : Prop :=
  stream.take maxRows = stream'.take maxRows ∧
    stream[maxRows]?.map (Except.map fun _ => ()) = stream'[maxRows]?.map (Except.map fun _ => ())

theorem collectRows_congr (h : AreSeenAlike maxRows stream stream') :
    collectRows decode maxRows stream = collectRows decode maxRows stream' := by
  -- By the rows still to be taken: with none, all that is seen of the stream is its next step.
  induction maxRows generalizing stream stream' with
  | zero =>
    obtain ⟨-, hnext⟩ := h
    match stream, stream' with
    | [], [] => rfl
    | [], step' :: _ => cases hnext
    | step :: _, [] => cases hnext
    | .error e :: _, .error e' :: _ =>
      obtain rfl : e = e' := by simpa [Except.map] using hnext
      rfl
    | .error e :: _, .ok a' :: _ => cases hnext
    | .ok a :: _, .error e' :: _ => cases hnext
    | .ok a :: _, .ok a' :: _ => rfl
  | succ maxRows ih =>
    obtain ⟨htake, hnext⟩ := h
    match stream, stream' with
    | [], [] => rfl
    | [], step' :: _ => cases htake
    | step :: _, [] => cases htake
    | step :: stream, step' :: stream' =>
      rw [List.take_succ_cons, List.take_succ_cons] at htake
      obtain ⟨rfl, hrows⟩ := List.cons.inj htake
      have hrest := ih ⟨hrows, hnext⟩
      cases step with
      | error e => rfl
      | ok a => rw [collectRows, collectRows, hrest]

end Sql

/-! ## Engines -/

/-- What a raw statement is run by: the rows that it gives, how one is decoded, and what is said of
a failure. -/
structure RawEngine (ε α : Type) where
  stream : String → List (Except ε α)
  decode : α → Except ε Json
  message : ε → String

namespace RawEngine

variable {ε α : Type}

/-- The first `maxRows` rows of a raw statement that the guard lets pass. -/
def run (engine : RawEngine ε α) (guard : StatementGuard) (maxRows : Nat) (sql : String) :
    Except QueryError RawResult := do
  let statement ← guard.validate sql
  let (rows, truncated) ← (Sql.collectRows engine.decode maxRows (engine.stream statement)).mapError
    fun e => .executionFailed (engine.message e)
  return ⟨rows, truncated⟩

theorem run_eq {engine : RawEngine ε α} {guard : StatementGuard} {maxRows : Nat}
    {sql statement : String} (h : guard.validate sql = .ok statement) :
    engine.run guard maxRows sql =
      ((Sql.collectRows engine.decode maxRows (engine.stream statement)).mapError fun e =>
        .executionFailed (engine.message e)).map fun (rows, truncated) => ⟨rows, truncated⟩ := by
  rw [run, h]
  simp only [bind, Except.bind]
  cases Sql.collectRows engine.decode maxRows (engine.stream statement) <;> rfl

/-- A run gives what comes of collecting the rows of its statement. -/
theorem exists_collects (engine : RawEngine ε α) {guard : StatementGuard} {sql statement : String}
    (h : guard.validate sql = .ok statement) (maxRows : Nat) :
    ∃ outcome, Sql.Collects engine.decode maxRows (engine.stream statement) outcome ∧
      engine.run guard maxRows sql =
        (outcome.mapError fun e => .executionFailed (engine.message e)).map fun (rows, truncated) =>
          ⟨rows, truncated⟩ :=
  ⟨_, Sql.collects_collectRows _ _ _, run_eq h⟩

end RawEngine

/-- The engine that a database is. -/
def Database.rawEngine (db : Database) : RawEngine Sql.RunError Sql.ResultRow where
  stream := db.rawStream
  decode row := .ok (Sql.recordOf row)
  message := Sql.RunError.message

/-- What comes of a statement that the guard lets pass, whatever engine runs it. -/
structure StatementGuard.CapsRows (g : StatementGuard) (maxRows : Nat) (sql statement : String) :
    Prop where
  /-- If no step fails, the rows up to the cap are returned, and cut iff there are more. -/
  returned : ∀ {ε α : Type} (engine : RawEngine ε α),
    (∀ i e, ¬ Sql.StepFails engine.decode maxRows (engine.stream statement) i e) →
    ∃ result, engine.run g maxRows sql = .ok result ∧
      List.Forall₂ (Sql.Yields engine.decode) ((engine.stream statement).take maxRows)
        result.rows ∧
      (result.truncated = true ↔ maxRows + 1 ≤ (engine.stream statement).length)
  /-- If a step fails, the first that does is the error, and there are no rows. -/
  failed : ∀ {ε α : Type} (engine : RawEngine ε α) (i : Nat) (e : ε),
    Sql.StepFails engine.decode maxRows (engine.stream statement) i e →
    ∃ j e', Sql.IsFirstFailure engine.decode maxRows (engine.stream statement) j e' ∧
      engine.run g maxRows sql = .error (.executionFailed (engine.message e'))
  /-- No more of the stream matters than the rows up to the cap and whether the next one is
  fetched. -/
  later : ∀ {ε α : Type} (engine : RawEngine ε α) (stream : String → List (Except ε α)),
    Sql.AreSeenAlike maxRows (engine.stream statement) (stream statement) →
    { engine with stream }.run g maxRows sql = engine.run g maxRows sql
  /-- A database is such an engine. -/
  database : ∀ db : Database, db.runRaw g maxRows sql = db.rawEngine.run g maxRows sql

namespace StatementGuard

variable {g : StatementGuard} {sql statement : String}

/-- **The cap** is exact, and so is what is said about it. -/
theorem capsRows (h : g.validate sql = .ok statement) (maxRows : Nat) :
    g.CapsRows maxRows sql statement where
  returned := by
    intro ε α engine hsucceeds
    obtain ⟨_, ⟨-, yields, cut⟩ | ⟨first⟩, hrun⟩ := engine.exists_collects h maxRows
    · exact ⟨⟨_, _⟩, hrun, yields, cut⟩
    · exact absurd first.1 (hsucceeds _ _)
  failed := by
    intro ε α engine i e hfails
    obtain ⟨_, ⟨succeeds, -, -⟩ | ⟨first⟩, hrun⟩ := engine.exists_collects h maxRows
    · exact absurd hfails (succeeds i e)
    · exact ⟨_, _, first, hrun⟩
  later := by
    intro ε α engine stream hseen
    rw [RawEngine.run_eq h, RawEngine.run_eq h, Sql.collectRows_congr hseen]
  database := fun _ => rfl

/-- An engine that fails at its third row. -/
def sampleEngine : RawEngine String Int where
  stream _ := [.ok 1, .ok 2, .error "lost"]
  decode n := .ok (Json.int n)
  message := id

theorem capsRows_select :
    standard.validate "SELECT n FROM numbers;" = .ok "SELECT n FROM numbers" ∧
      standard.CapsRows 1 "SELECT n FROM numbers;" "SELECT n FROM numbers" ∧
      sampleEngine.run standard 1 "SELECT n FROM numbers;" = .ok ⟨[Json.int 1], true⟩ := by
  have haccepted : standard.validate "SELECT n FROM numbers;" = .ok "SELECT n FROM numbers" := rfl
  have hcaps := capsRows haccepted 1
  have hsucceeds (i : Nat) (e : String) : ¬ Sql.StepFails sampleEngine.decode 1
      (sampleEngine.stream "SELECT n FROM numbers") i e := by
    rintro (⟨found, read⟩ | ⟨-, failed, -⟩)
    · -- the failure comes after the one row that is looked at beyond the cap
      obtain rfl | rfl : i = 0 ∨ i = 1 := by omega
      · cases found
      · cases found
    · cases failed
  obtain ⟨⟨rows, truncated⟩, hrun, hrows, hcut⟩ := hcaps.returned sampleEngine hsucceeds
  obtain rfl : truncated = true := hcut.2 (by decide)
  obtain ⟨_, _, ⟨_, ⟨⟩, ⟨⟩⟩, ⟨⟩, rfl⟩ := List.forall₂_cons_left_iff.1 hrows
  exact ⟨haccepted, hcaps, hrun⟩

/-- A failure right after the row past the cap is not met. -/
example :
    [0, 1, 2].map (fun maxRows => sampleEngine.run standard maxRows "SELECT n FROM numbers") =
      [.ok ⟨[], true⟩, .ok ⟨[Json.int 1], true⟩, .error (.executionFailed "lost")] := by
  rfl

end StatementGuard
end BillingQuery
