import Mathlib.Algebra.Ring.Int.Defs
import Mathlib.Algebra.Ring.Nat
import Rygnal.Core.Models
import Rygnal.Library.Partition

/-! # The risk engine

`RiskEngine` of `risk_engine.py`. The registry of detectors is a parameter, as it is of the
constructor: the signals that the detectors find in the normalized context of a request. The engine
keeps the scores of each trace, so a score depends on the requests before it. What the runs do is
said without that state: by the last scores of the same trace.
-/

namespace Rygnal.Risk
open Rygnal.Core Rygnal.Library Rygnal.Library.PyText

inductive RiskLevel where
  | low
  | medium
  | high
  | critical
deriving DecidableEq, Repr

def RiskLevel.value : RiskLevel → String
  | .low => "low"
  | .medium => "medium"
  | .high => "high"
  | .critical => "critical"

inductive RiskSignalCategory where
  | baseline
  | capability
  | action
  | asset
  | data
  | destination
  | environment
  | command
deriving DecidableEq, Repr

/-- The range of a score, which its field validates. -/
abbrev Score := { n : ℕ // n ≤ 100 }

theorem le_hundred_ten : 10 ≤ 100 := by omega
theorem le_hundred_twenty : 20 ≤ 100 := by omega
theorem le_hundred_fortyFive : 45 ≤ 100 := by omega

structure RiskSignal where
  code : String
  severity : RiskLevel
  score : Score
  reason : String
  category : RiskSignalCategory
  evidence : Dict
  reversible : Option Bool

structure RiskAssessment where
  riskScore : Score
  riskLevel : RiskLevel
  reasons : List String
  signals : List RiskSignal
  explanation : String

structure RiskScoringProfile where
  mediumThreshold : ℤ
  highThreshold : ℤ
  criticalThreshold : ℤ

def RiskScoringProfile.default : RiskScoringProfile := ⟨30, 60, 85⟩

def RiskScoringProfile.levelFromScore (profile : RiskScoringProfile) (score : Score) : RiskLevel :=
  if score.val ≥ profile.criticalThreshold then .critical
  else if score.val ≥ profile.highThreshold then .high
  else if score.val ≥ profile.mediumThreshold then .medium
  else .low

/-- What the constructor of an engine is given. -/
structure RiskEngine where
  detect : ToolRequest → List RiskSignal
  scoringProfile : RiskScoringProfile
  traceHistoryLimit : ℤ

/-- `_trace_risk_history`, a `defaultdict` of lists. -/
abbrev TraceRiskHistory := Text → List Score

def traceIdentityAt (metadata : Dict) (key : String) : Option Text :=
  match metadata.get key with
  | some (.str value) => if strip value.toList = [] then none else some (strip value.toList)
  | _ => none

def traceIdentity (request : ToolRequest) : Option Text :=
  ["trace_id", "request_id", "session_id", "run_id"].findSome? (traceIdentityAt request.metadata)

/-- `_score`. -/
def score (signals : List RiskSignal) : Score :=
  ⟨min (signals.map fun signal => signal.score.val).sum 100, Nat.min_le_right _ _⟩

def baselineSignal (request : ToolRequest) : RiskSignal :=
  { code := "baseline-low-risk"
    severity := .low
    score := ⟨10, le_hundred_ten⟩
    reason := "No risky tool, target, or input pattern detected."
    category := .baseline
    evidence := [("tool_name", .str request.toolName)]
    reversible := some true }

def cumulativeEvidence (previousRiskyEvents historySize : ℕ) : Dict :=
  [("trace_id_present", .bool true), ("previous_risky_events", .int previousRiskyEvents),
    ("history_size", .int historySize)]

def explanation (riskScore : Score) (riskLevel : RiskLevel) (signals : List RiskSignal) : String :=
  "Risk score " ++ toString riskScore.val ++ " mapped to " ++ riskLevel.value ++ " based on: " ++
    String.intercalate ", " (signals.map RiskSignal.code) ++ "."

namespace RiskEngine
variable (engine : RiskEngine)

/-- The scores from the medium threshold on are risky. -/
def risky (score : Score) : Bool := score.val ≥ engine.scoringProfile.mediumThreshold

/-- The signals of the detectors, or the one that stands for none. -/
def signals (request : ToolRequest) : List RiskSignal :=
  if (engine.detect request).isEmpty then [baselineSignal request] else engine.detect request

/-- `_cumulative_trace_signal` with the history of the trace, if there is one. -/
def cumulativeTraceSignal (history : Option (List Score)) (currentScore : Score) :
    Option RiskSignal :=
  match history with
  | none => none
  | some history =>
    if !engine.risky currentScore then none
    else
      let previousRiskyEvents := history.countP engine.risky
      if 2 ≤ previousRiskyEvents then
        some
          { code := "cumulative-trace-risk"
            severity := .critical
            score := ⟨45, le_hundred_fortyFive⟩
            reason := "Multiple risky actions occurred in the same trace."
            category := .baseline
            evidence := cumulativeEvidence previousRiskyEvents history.length
            reversible := none }
      else if 1 ≤ previousRiskyEvents then
        some
          { code := "cumulative-trace-risk"
            severity := .high
            score := ⟨20, le_hundred_twenty⟩
            reason := "Repeated risky actions are accumulating in the same trace."
            category := .baseline
            evidence := cumulativeEvidence previousRiskyEvents history.length
            reversible := none }
      else none

/-- `history.append(risk_score)` and the deletion beyond the limit. -/
def recordScore (history : List Score) (riskScore : Score) : List Score :=
  let history := history ++ [riskScore]
  if (history.length : ℤ) > engine.traceHistoryLimit then
    history.drop ((history.length : ℤ) - engine.traceHistoryLimit).toNat
  else history

/-- `_record_trace_risk`. -/
def recordTraceRisk (history : TraceRiskHistory) (request : ToolRequest) (riskScore : Score) :
    TraceRiskHistory :=
  match traceIdentity request with
  | none => history
  | some trace => Function.update history trace (engine.recordScore (history trace) riskScore)

def assessment (signals : List RiskSignal) : RiskAssessment :=
  let riskScore := score signals
  let riskLevel := engine.scoringProfile.levelFromScore riskScore
  { riskScore := riskScore
    riskLevel := riskLevel
    reasons := signals.map RiskSignal.reason
    signals := signals
    explanation := explanation riskScore riskLevel signals }

/-- `assess`: the history that it leaves, and its result. -/
def assess (history : TraceRiskHistory) (request : ToolRequest) :
    TraceRiskHistory × RiskAssessment :=
  let signals := engine.signals request
  let cumulative := engine.cumulativeTraceSignal ((traceIdentity request).map history) (score signals)
  let result := engine.assessment (signals ++ cumulative.toList)
  (engine.recordTraceRisk history request result.riskScore, result)

/-- One request after the other. -/
def assessAll : TraceRiskHistory → List ToolRequest → List (ToolRequest × RiskAssessment)
  | _, [] => []
  | history, request :: requests =>
    (request, (engine.assess history request).2) ::
      assessAll (engine.assess history request).1 requests

/-- The history of a new engine. -/
def noHistory : TraceRiskHistory := fun _ => []

/-! ## The traces as independent parts -/

/-- `assess` on the history of the request's own trace. -/
def assessTrace (history : Option (List Score)) (request : ToolRequest) :
    List Score × RiskAssessment :=
  let signals := engine.signals request
  let cumulative := engine.cumulativeTraceSignal history (score signals)
  let result := engine.assessment (signals ++ cumulative.toList)
  (engine.recordScore (history.getD []) result.riskScore, result)

theorem assess_eq_step (history : TraceRiskHistory) (request : ToolRequest) :
    engine.assess history request =
      Partition.step traceIdentity engine.assessTrace history request := by
  simp only [assess, Partition.step, assessTrace, recordTraceRisk]
  cases traceIdentity request with
  | none => rfl
  | some trace => rfl

theorem assessAll_eq_run (history : TraceRiskHistory) (requests : List ToolRequest) :
    engine.assessAll history requests =
      (Partition.run traceIdentity engine.assessTrace history requests).2 := by
  induction requests generalizing history with
  | nil => rfl
  | cons request requests ih => rw [assessAll, ih, assess_eq_step, Partition.run]

/-- The length that a history is kept to. -/
def window : ℕ := engine.traceHistoryLimit.toNat

theorem recordScore_eq (history : List Score) (riskScore : Score) :
    engine.recordScore history riskScore =
      Partition.keepLast engine.window (history ++ [riskScore]) := by
  simp only [recordScore, Partition.keepLast, window]
  split
  · by_cases hlimit : 0 ≤ engine.traceHistoryLimit
    · congr 1
      omega
    · rw [List.drop_of_length_le (by omega), List.drop_of_length_le (by omega)]
  · rw [show (history ++ [riskScore]).length - engine.traceHistoryLimit.toNat = 0 by omega,
      List.drop_zero]

/-- The scores of a trace among the results of a run. -/
def traceScores (results : List (ToolRequest × RiskAssessment)) (trace : Text) : List Score :=
  (results.filter fun result => traceIdentity result.1 = some trace).map fun result =>
    result.2.riskScore

theorem runPart_history (history : List Score) (requests : List ToolRequest) :
    (Partition.runPart engine.assessTrace (Partition.keepLast engine.window history) requests).1 =
      Partition.keepLast engine.window (history ++
        (Partition.runPart engine.assessTrace (Partition.keepLast engine.window history)
          requests).2.map fun result => result.2.riskScore) := by
  induction requests generalizing history with
  | nil => simp [Partition.runPart]
  | cons request requests ih =>
    have hstate : (engine.assessTrace (some (Partition.keepLast engine.window history)) request).1 =
        Partition.keepLast engine.window (history ++ [(engine.assessTrace
          (some (Partition.keepLast engine.window history)) request).2.riskScore]) := by
      rw [assessTrace, Option.getD_some, recordScore_eq, Partition.keepLast_keepLast_append]
    rw [Partition.runPart, hstate, ih, List.map_cons, List.append_assoc, List.singleton_append]

/-- After every run the engine knows the last scores of each trace. -/
theorem history_eq (requests : List ToolRequest) (trace : Text) :
    (Partition.run traceIdentity engine.assessTrace noHistory requests).1 trace =
      Partition.keepLast engine.window (traceScores (engine.assessAll noHistory requests) trace) := by
  rw [Partition.run_part, traceScores, assessAll_eq_run, Partition.run_answers]
  have h := engine.runPart_history []
    (requests.filter fun request => traceIdentity request = some trace)
  rw [List.nil_append, Partition.keepLast_nil] at h
  exact h

theorem assessAll_append (history : TraceRiskHistory) (before after : List ToolRequest) :
    engine.assessAll history (before ++ after) =
      engine.assessAll history before ++ engine.assessAll
        (Partition.run traceIdentity engine.assessTrace history before).1 after := by
  rw [assessAll_eq_run, assessAll_eq_run, assessAll_eq_run, Partition.run_append]

/-! ## Scores without the state -/

/-- The risky results among the last ones of a trace. -/
def recentRisky (results : List (ToolRequest × RiskAssessment)) (trace : Option Text) : ℕ :=
  match trace with
  | none => 0
  | some trace =>
    (Partition.keepLast engine.window (traceScores results trace)).countP engine.risky

/-- What is added to a risky request after so many risky ones. -/
def bonus (recentRisky : ℕ) : ℕ := if 2 ≤ recentRisky then 45 else if 1 ≤ recentRisky then 20 else 0

theorem score_append (signals : List RiskSignal) (signal : RiskSignal) :
    (score (signals ++ [signal])).val = min ((score signals).val + signal.score.val) 100 := by
  simp only [score, List.map_append, List.sum_append, List.map_cons, List.map_nil, List.sum_cons,
    List.sum_nil]
  omega

theorem score_cumulative (signals : List RiskSignal) (history : Option (List Score)) :
    (score (signals ++
        (engine.cumulativeTraceSignal history (score signals)).toList)).val =
      min ((score signals).val + if engine.risky (score signals) then
        bonus ((history.getD []).countP engine.risky) else 0) 100 := by
  have hplain : (score signals).val = min ((score signals).val + 0) 100 :=
    (Nat.min_eq_left (score signals).property).symm
  cases history with
  | none =>
    have hbonus : bonus (([] : List Score).countP engine.risky) = 0 := rfl
    simp only [cumulativeTraceSignal, Option.toList_none, List.append_nil, Option.getD_none, hbonus,
      ite_self]
    exact hplain
  | some history =>
    simp only [cumulativeTraceSignal, Option.getD_some]
    cases hrisky : engine.risky (score signals) with
    | false =>
      simp only [Bool.not_false, if_true, Option.toList_none, List.append_nil, Bool.false_eq_true,
        if_false]
      exact hplain
    | true =>
      simp only [Bool.not_true, Bool.false_eq_true, if_false, if_true, bonus]
      by_cases htwo : 2 ≤ history.countP engine.risky
      · simp only [htwo, if_true, Option.toList_some, score_append]
      · by_cases hone : 1 ≤ history.countP engine.risky
        · simp only [htwo, hone, if_true, if_false, Option.toList_some, score_append]
        · simp only [htwo, hone, if_false, Option.toList_none, List.append_nil]
          exact hplain

end RiskEngine

/-- The requests of a trace are assessed as if no other trace were there, in every interleaving. -/
theorem traces_independent (engine : RiskEngine) (requests : List ToolRequest) (trace : Text) :
    (engine.assessAll RiskEngine.noHistory requests).filter
        (fun result => traceIdentity result.1 = some trace) =
      engine.assessAll RiskEngine.noHistory
        (requests.filter fun request => traceIdentity request = some trace) := by
  rw [engine.assessAll_eq_run, engine.assessAll_eq_run, Partition.run_independent]

end Rygnal.Risk
