import Mathlib.Data.List.Basic

/-!
# Logs of calls

A log records when calls begin and when they return.  It is serial if every
call returns before the next one begins.
-/

inductive CallEvent (Call : Type u) where
  | began (call : Call)
  | returned (call : Call)
  deriving DecidableEq

namespace CallEvent

variable {Call : Type u}

def began? : CallEvent Call → Option Call
  | .began call => some call
  | .returned _ => none

def returned? : CallEvent Call → Option Call
  | .began _ => none
  | .returned call => some call

/-- The calls that began, oldest first. -/
def begun (log : List (CallEvent Call)) : List Call := log.filterMap began?

/-- The calls that returned, oldest first. -/
def finished (log : List (CallEvent Call)) : List Call :=
  log.filterMap returned?

@[simp] theorem begun_nil : begun ([] : List (CallEvent Call)) = [] :=
  rfl

@[simp] theorem finished_nil : finished ([] : List (CallEvent Call)) = [] :=
  rfl

@[simp] theorem begun_append (first second : List (CallEvent Call)) :
    begun (first ++ second) = begun first ++ begun second :=
  List.filterMap_append

@[simp] theorem finished_append (first second : List (CallEvent Call)) :
    finished (first ++ second) = finished first ++ finished second :=
  List.filterMap_append

@[simp] theorem begun_began (call : Call) :
    begun [.began call] = [call] :=
  rfl

@[simp] theorem begun_returned (call : Call) :
    begun [.returned call] = [] :=
  rfl

@[simp] theorem finished_began (call : Call) :
    finished [.began call] = [] :=
  rfl

@[simp] theorem finished_returned (call : Call) :
    finished [.returned call] = [call] :=
  rfl

/-- Serial logs, with the call that has not returned yet. -/
inductive Serial : Option Call → List (CallEvent Call) → Prop where
  | nil : Serial none []
  | began {log : List (CallEvent Call)} (call : Call) :
      Serial none log → Serial (some call) (log ++ [.began call])
  | returned {log : List (CallEvent Call)} {call : Call} :
      Serial (some call) log → Serial none (log ++ [.returned call])

theorem Serial.begun_eq {running : Option Call}
    {log : List (CallEvent Call)} (serial : Serial running log) :
    begun log = finished log ++ running.toList := by
  induction serial with
  | nil => rfl
  | began call _ induction => simpa using induction
  | returned _ induction => simpa using induction

/-- When a call begins, all earlier ones have returned. -/
theorem Serial.finished_before {running : Option Call}
    {log before after : List (CallEvent Call)} {call : Call}
    (serial : Serial running log)
    (split : log = before ++ .began call :: after) :
    begun before = finished before := by
  induction serial generalizing after with
  | nil => simp at split
  | began last earlier induction =>
      rcases List.eq_nil_or_concat after with rfl | ⟨rest, event, rfl⟩
      · obtain ⟨rfl, -⟩ := List.append_inj' split rfl
        simpa using earlier.begun_eq
      · rw [List.concat_eq_append, ← List.cons_append,
          ← List.append_assoc] at split
        exact induction (List.append_inj' split rfl).1
  | returned _ induction =>
      rcases List.eq_nil_or_concat after with rfl | ⟨rest, event, rfl⟩
      · have sameLast := (List.append_inj' split rfl).2
        cases sameLast
      · rw [List.concat_eq_append, ← List.cons_append,
          ← List.append_assoc] at split
        exact induction (List.append_inj' split rfl).1

end CallEvent

namespace CallLog

variable {Entry : Type u} {expected : List Entry → Entry → Prop}
  {log : List Entry} {entry : Entry}

/-- Every entry of the log is as expected after the entries before it. -/
def Each (expected : List Entry → Entry → Prop) (log : List Entry) : Prop :=
  ∀ before entry after, log = before ++ entry :: after →
    expected before entry

theorem each_nil : Each expected [] := by
  intro before entry after split
  simp at split

/-- A log is continued by an entry that is expected after it. -/
theorem Each.concat (each : Each expected log)
    (isExpected : expected log entry) : Each expected (log ++ [entry]) := by
  intro before other after split
  rcases List.eq_nil_or_concat after with rfl | ⟨rest, last, rfl⟩
  · obtain ⟨rfl, same⟩ := List.append_inj' split rfl
    cases same
    exact isExpected
  · rw [List.concat_eq_append, ← List.cons_append,
      ← List.append_assoc] at split
    exact each before other rest (List.append_inj' split rfl).1

theorem each_concat_iff :
    Each expected (log ++ [entry]) ↔ Each expected log ∧ expected log entry := by
  constructor
  · intro each
    constructor
    · intro before other after split
      apply each before other (after ++ [entry])
      rw [split, List.append_assoc, List.cons_append]
    · exact each log entry [] rfl
  · rintro ⟨each, isExpected⟩
    exact each.concat isExpected

end CallLog
