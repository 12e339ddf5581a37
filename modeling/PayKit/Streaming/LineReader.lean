import PayKit.Control.Refusal
import Mathlib.Data.List.Basic
import Mathlib.Tactic.Ring

/-!
# Reading a stream line by line

A reader of lines keeps the line in progress and hands it to a handler when its separator comes.
Lines have a greatest length. What the reader does depends on the symbols in their order and not
on how many of them come at once: it handles the lines of the text up to the last separator, and
keeps what is after it.

The reader here takes one symbol after the other. A reader that takes several at once is as good
as this one if it does with them what this one does.
-/

namespace PayKit.Streaming

open Control

/-! ### Feeding -/

section

variable {Input State Failure Output : Type}

/-- Take the inputs in their order, until one fails, and keep all outputs. -/
def feed (step : Input → State → Except Failure (List Output × State)) :
    List Input → State → Except Failure (List Output × State)
  | [], state => .ok ([], state)
  | input :: inputs, state => do
      let (outputs, state) ← step input state
      let (others, state) ← feed step inputs state
      return (outputs ++ others, state)

variable {step : Input → State → Except Failure (List Output × State)} {inputs others : List Input}
  {state final : State} {outputs : List Output}

theorem feed_cons_eq_ok {input : Input} :
    feed step (input :: inputs) state = .ok (outputs, final) ↔
      ∃ first next later, step input state = .ok (first, next) ∧
        feed step inputs next = .ok (later, final) ∧ outputs = first ++ later := by
  simp only [feed, bind_eq_ok, Prod.exists]
  constructor
  · rintro ⟨first, next, hFirst, later, last, hLater, hOutputs⟩
    cases hOutputs
    exact ⟨first, next, later, hFirst, hLater, rfl⟩
  · rintro ⟨first, next, later, hFirst, hLater, rfl⟩
    exact ⟨first, next, hFirst, later, final, hLater, rfl⟩

theorem feed_singleton_eq_ok {input : Input} :
    feed step [input] state = .ok (outputs, final) ↔ step input state = .ok (outputs, final) := by
  rw [feed_cons_eq_ok]
  constructor
  · rintro ⟨first, next, later, hFirst, hLater, rfl⟩
    cases hLater
    rw [List.append_nil]
    exact hFirst
  · intro hInput
    exact ⟨outputs, final, [], hInput, rfl, (List.append_nil outputs).symm⟩

theorem feed_append_eq_ok :
    feed step (inputs ++ others) state = .ok (outputs, final) ↔
      ∃ first next later, feed step inputs state = .ok (first, next) ∧
        feed step others next = .ok (later, final) ∧ outputs = first ++ later := by
  induction inputs generalizing state outputs with
  | nil =>
      constructor
      · intro hOthers
        exact ⟨[], state, outputs, rfl, hOthers, rfl⟩
      · rintro ⟨first, next, later, hFirst, hLater, rfl⟩
        cases hFirst
        exact hLater
  | cons input inputs hInduction =>
      simp only [List.cons_append, feed_cons_eq_ok, hInduction]
      constructor
      · rintro ⟨first, next, _, hStep, ⟨second, middle, later, hRest, hOthers, rfl⟩, rfl⟩
        exact ⟨first ++ second, middle, later, ⟨first, next, second, hStep, hRest, rfl⟩, hOthers,
          (List.append_assoc _ _ _).symm⟩
      · rintro ⟨_, middle, later, ⟨first, next, second, hStep, hRest, rfl⟩, hOthers, rfl⟩
        exact ⟨first, next, second ++ later, hStep, ⟨second, middle, later, hRest, hOthers, rfl⟩,
          List.append_assoc _ _ _⟩

/-- What every input preserves holds at the end. -/
theorem feed_preserves (Holds : State → Prop) (hStep : ∀ input state outputs next, Holds state →
      step input state = .ok (outputs, next) → Holds next) (hState : Holds state)
    (hFed : feed step inputs state = .ok (outputs, final)) : Holds final := by
  induction inputs generalizing state outputs with
  | nil =>
      cases hFed
      exact hState
  | cons input inputs hInduction =>
      rcases feed_cons_eq_ok.mp hFed with ⟨first, next, later, hFirst, hLater, -⟩
      exact hInduction (hStep input state first next hState hFirst) hLater

end

/-! ### Lines -/

section

variable {Symbol State Failure Output : Type} [DecidableEq Symbol]

/-- The line in progress, and the state of what handles the lines. -/
structure Reader (Symbol State : Type) where
  line : List Symbol
  state : State

variable (separator : Symbol) (limit : ℕ) (tooLong : Failure)
  (handle : List Symbol → State → Except Failure (List Output × State))

/-- Take one symbol. -/
def readSymbol (symbol : Symbol) (reader : Reader Symbol State) :
    Except Failure (List Output × Reader Symbol State) :=
  if symbol = separator then do
    let (outputs, state) ← handle reader.line reader.state
    return (outputs, ⟨[], state⟩)
  else if limit ≤ reader.line.length then .error tooLong
  else .ok ([], ⟨reader.line ++ [symbol], reader.state⟩)

variable {separator limit tooLong handle} {text : List Symbol} {reader final : Reader Symbol State}
  {outputs : List Output}

theorem readSymbol_separator_eq_ok :
    readSymbol separator limit tooLong handle separator reader = .ok (outputs, final) ↔
      final.line = [] ∧ handle reader.line reader.state = .ok (outputs, final.state) := by
  simp only [readSymbol, if_pos, bind_eq_ok, Prod.exists]
  constructor
  · rintro ⟨first, state, hHandled, hFinal⟩
    cases hFinal
    exact ⟨rfl, hHandled⟩
  · rintro ⟨hLine, hHandled⟩
    refine ⟨outputs, final.state, hHandled, ?_⟩
    rw [← hLine]
    rfl

/-- The line in progress is no longer than a line may be. -/
theorem readSymbol_fits {symbol : Symbol}
    (hRead : readSymbol separator limit tooLong handle symbol reader = .ok (outputs, final)) :
    final.line.length ≤ limit := by
  unfold readSymbol at hRead
  split at hRead
  · rcases bind_eq_ok.mp hRead with ⟨_, -, hFinal⟩
    cases hFinal
    exact Nat.zero_le limit
  · split at hRead
    · cases hRead
    · cases hRead
      simp only [List.length_append, List.length_singleton]
      omega

/-- Symbols that are no separators are put behind the line. -/
theorem feed_plain_eq_ok (hText : separator ∉ text) (hFits : reader.line.length ≤ limit) :
    feed (readSymbol separator limit tooLong handle) text reader = .ok (outputs, final) ↔
      reader.line.length + text.length ≤ limit ∧ outputs = [] ∧
        final = ⟨reader.line ++ text, reader.state⟩ := by
  induction text generalizing reader outputs with
  | nil =>
      simp only [feed, Except.ok.injEq, Prod.mk.injEq, List.length_nil, Nat.add_zero,
        List.append_nil]
      constructor
      · rintro ⟨rfl, rfl⟩
        exact ⟨hFits, rfl, rfl⟩
      · rintro ⟨-, rfl, rfl⟩
        exact ⟨rfl, rfl⟩
  | cons symbol text hInduction =>
      simp only [List.mem_cons, not_or] at hText
      rw [feed_cons_eq_ok, readSymbol, if_neg (Ne.symm hText.1), List.length_cons]
      split
      · rename_i hFull
        constructor
        · rintro ⟨_, _, _, ⟨⟩, -⟩
        · rintro ⟨hLength, -⟩
          omega
      · rename_i hRoom
        have hNext := @hInduction ⟨reader.line ++ [symbol], reader.state⟩ outputs hText.2
          (by simp; omega)
        simp only [List.length_append, List.length_singleton, List.append_assoc,
          List.singleton_append] at hNext
        rw [← Nat.add_right_comm, ← Nat.add_assoc] at *
        constructor
        · rintro ⟨_, _, later, ⟨⟩, hLater, rfl⟩
          exact hNext.mp hLater
        · intro hFinal
          exact ⟨[], _, outputs, rfl, hNext.mpr hFinal, rfl⟩

/-- A line and its separator, and then what is after them. -/
theorem feed_line_eq_ok {line rest : List Symbol} (hLine : separator ∉ line)
    (hFits : reader.line.length ≤ limit) :
    feed (readSymbol separator limit tooLong handle) (line ++ separator :: rest) reader =
        .ok (outputs, final) ↔
      reader.line.length + line.length ≤ limit ∧ ∃ first state later,
        handle (reader.line ++ line) reader.state = .ok (first, state) ∧
          feed (readSymbol separator limit tooLong handle) rest ⟨[], state⟩ = .ok (later, final) ∧
            outputs = first ++ later := by
  simp only [feed_append_eq_ok, feed_plain_eq_ok hLine hFits, feed_cons_eq_ok,
    readSymbol_separator_eq_ok]
  constructor
  · rintro ⟨_, _, _, ⟨hLength, rfl, rfl⟩, ⟨first, ⟨_, state⟩, later, ⟨rfl, hHandled⟩, hRest, rfl⟩,
      rfl⟩
    exact ⟨hLength, first, state, later, hHandled, hRest, rfl⟩
  · rintro ⟨hLength, first, state, later, hHandled, hRest, rfl⟩
    exact ⟨[], _, first ++ later, ⟨hLength, rfl, rfl⟩,
      ⟨first, ⟨[], state⟩, later, ⟨rfl, hHandled⟩, hRest, rfl⟩, rfl⟩

/-- A text is read if all its lines fit and the complete ones are handled. What is after the last
separator stays in progress. -/
theorem feed_text_eq_ok {state : State} :
    feed (readSymbol separator limit tooLong handle) text ⟨[], state⟩ = .ok (outputs, final) ↔
      (∀ line ∈ text.splitOn separator, line.length ≤ limit) ∧
        feed handle (text.splitOn separator).dropLast state = .ok (outputs, final.state) ∧
          (text.splitOn separator).getLast? = some final.line := by
  induction hLength : text.length using Nat.strong_induction_on generalizing text state outputs with
  | _ length hInduction =>
      by_cases hSeparator : separator ∈ text
      · rcases List.eq_append_cons_of_mem hSeparator with ⟨before, after, rfl, hBefore⟩
        have hShorter : after.length < length := by
          rw [← hLength, List.length_append, List.length_cons]
          omega
        have hRest := fun state outputs => @hInduction _ hShorter after state outputs rfl
        have hFilled := List.splitOn_ne_nil separator after
        rw [feed_line_eq_ok hBefore (Nat.zero_le limit),
          List.splitOn_append_cons_self_of_not_mem hBefore, List.dropLast_cons_of_ne_nil hFilled,
          List.forall_mem_cons, feed_cons_eq_ok, List.getLast?_cons_of_ne_nil hFilled]
        simp only [hRest, List.length_nil, Nat.zero_add, List.nil_append]
        constructor
        · rintro ⟨hFits, first, next, later, hHandled, ⟨hOthers, hLater, hLast⟩, rfl⟩
          exact ⟨⟨hFits, hOthers⟩, ⟨first, next, later, hHandled, hLater, rfl⟩, hLast⟩
        · rintro ⟨⟨hFits, hOthers⟩, ⟨first, next, later, hHandled, hLater, rfl⟩, hLast⟩
          exact ⟨hFits, first, next, later, hHandled, ⟨hOthers, hLater, hLast⟩, rfl⟩
      · rw [feed_plain_eq_ok hSeparator (Nat.zero_le limit), List.splitOn_eq_singleton hSeparator]
        simp only [List.mem_singleton, forall_eq, List.dropLast_singleton, feed, Except.ok.injEq,
          Prod.mk.injEq, List.getLast?_singleton, Option.some.injEq, List.length_nil, Nat.zero_add,
          List.nil_append]
        constructor
        · rintro ⟨hFits, rfl, rfl⟩
          exact ⟨hFits, ⟨rfl, rfl⟩, rfl⟩
        · rintro ⟨hFits, ⟨rfl, rfl⟩, rfl⟩
          exact ⟨hFits, rfl, rfl⟩

end

end PayKit.Streaming
