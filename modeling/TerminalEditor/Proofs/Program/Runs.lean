import TerminalEditor.Program.Stage
import TerminalEditor.Proofs.Screen.Delivery

/-!
# Runs of the program

A run is a sequence of exchanges with the system.  The terminal tells the modes
that it has, and every other reply is as the system likes.  To act on a reply takes
storage; where the system has none, the run is aborted on the spot, and nothing is
cleaned up.
-/

namespace TerminalEditor

variable {Termios : Type}

/-- Whether a request reads or sets the modes. -/
def Request.concernsModes : Request Termios → Bool
  | .readModes => true
  | .setModes _ => true
  | _ => false

/-- Whether a sink asks to be offered the bytes again. -/
def Acceptance.isInterrupted : Acceptance → Bool
  | .interrupted => true
  | _ => false

/-- The failure that ends a wait, if it is a failure. -/
def Arrival.failure? : Arrival → Option Failure
  | .failed failure => some failure
  | _ => none

theorem Arrival.eq_failed {arrival : Arrival} {failure : Failure}
    (fails : arrival.failure? = some failure) :
    arrival = .failed failure := by
  cases arrival with
  | failed =>
    cases fails
    rfl
  | _ => cases fails

namespace Exchange

/-! ## Exchanges -/

/-- The failure of a reply that may fail. -/
def errorOf {α : Type} : Except Failure α → Option Failure
  | .ok _ => none
  | .error failure => some failure

theorem eq_error {α : Type} {reply : Except Failure α} {failure : Failure}
    (fails : errorOf reply = some failure) :
    reply = .error failure := by
  cases reply with
  | ok => cases fails
  | error =>
    cases fails
    rfl

theorem exists_ok {α : Type} {reply : Except Failure α}
    (succeeds : errorOf reply = none) :
    ∃ value : α, reply = .ok value := by
  cases reply with
  | ok value => exact ⟨value, rfl⟩
  | error => cases succeeds

/-- The modes are read. -/
def readModes (reply : Except Failure Termios) : Exchange Termios :=
  ⟨.readModes, reply⟩

/-- Modes are set. -/
def setModes
    (modes : Termios)
    (reply : Except Failure Unit) :
    Exchange Termios :=
  ⟨.setModes modes, reply⟩

/-- The input is started. -/
def startInput (reply : Except Failure Unit) : Exchange Termios :=
  ⟨.startInput, reply⟩

/-- The size of the terminal is asked for. -/
def querySize (reply : Except Failure ScreenVector) : Exchange Termios :=
  ⟨.querySize, reply⟩

/-- Bytes are offered to the screen. -/
def write
    (bytes : Bytes)
    (answer : Acceptance) :
    Exchange Termios :=
  ⟨.write bytes, answer⟩

/-- Input is awaited. -/
def awaitInput (arrival : Arrival) : Exchange Termios :=
  ⟨.awaitInput, arrival⟩

/-- The bytes that an exchange brings to the screen. -/
def shown : Exchange Termios → Bytes
  | ⟨.write bytes, answer⟩ => bytes.take (Acceptance.count answer)
  | _ => []

/-- The piece of the input that arrives in an exchange, if one does. -/
def pieces : Exchange Termios → List Bytes
  | ⟨.awaitInput, arrival⟩ =>
    match (arrival : Arrival) with
    | .bytes bytes => [bytes]
    | _ => []
  | _ => []

/-- The bytes that arrive in an exchange. -/
def arrived (exchange : Exchange Termios) : Bytes :=
  exchange.pieces.flatten

/-- Whether bytes were offered and are to be offered again. -/
def isInterrupted : Exchange Termios → Bool
  | ⟨.write _, answer⟩ => Acceptance.isInterrupted answer
  | _ => false

/-- The failure that an exchange comes to, if it fails. -/
def failure? : Exchange Termios → Option Failure
  | ⟨.readModes, reply⟩ => errorOf (α := Termios) reply
  | ⟨.setModes _, reply⟩ => errorOf (α := Unit) reply
  | ⟨.startInput, reply⟩ => errorOf (α := Unit) reply
  | ⟨.querySize, reply⟩ => errorOf (α := ScreenVector) reply
  | ⟨.write _, answer⟩ => Acceptance.refusal? answer
  | ⟨.awaitInput, arrival⟩ => Arrival.failure? arrival

/-- The exchanges that enter raw mode. -/
def entering
    [TerminalModes Termios]
    (initial : Termios) :
    List (Exchange Termios) :=
  [readModes (.ok initial),
    setModes (TerminalModes.raw initial) (.ok ())]

/-- The modes after an exchange: only a request that succeeds sets them. -/
def modesAfter
    (modes : Termios) :
    Exchange Termios → Termios
  | ⟨.setModes set, reply⟩ =>
    match (reply : Except Failure Unit) with
    | .ok () => set
    | .error _ => modes
  | _ => modes

/-- Whether a terminal that has these modes may reply so. -/
def IsPermitted
    (modes : Termios) :
    Exchange Termios → Prop
  | ⟨.readModes, reply⟩ =>
    match (reply : Except Failure Termios) with
    | .ok read => read = modes
    | .error _ => True
  | _ => True

theorem modesAfter_of_quiet {exchange : Exchange Termios}
    (quiet : exchange.request.concernsModes = false)
    (modes : Termios) :
    exchange.modesAfter modes = modes := by
  rcases exchange with ⟨request, reply⟩
  cases request with
  | setModes => cases quiet
  | _ => rfl

/-- An offer leaves what was shown and what remains the same bytes together. -/
theorem shown_append_drop
    (exchanges : List (Exchange Termios))
    (remaining : Bytes)
    (answer : Acceptance) :
    (exchanges ++ [write remaining answer]).flatMap shown ++
        remaining.drop answer.count =
      exchanges.flatMap shown ++ remaining := by
  rw [List.flatMap_append, List.flatMap_singleton, List.append_assoc]
  exact
    congrArg (exchanges.flatMap shown ++ ·)
      (List.take_append_drop answer.count remaining)

theorem flatMap_arrived (trace : List (Exchange Termios)) :
    trace.flatMap arrived = (trace.flatMap pieces).flatten := by
  induction trace with
  | nil => rfl
  | cons exchange later ih =>
    rw [List.flatMap_cons, List.flatMap_cons, List.flatten_append, ih,
      arrived]

end Exchange

/-! ## Runs -/

/-- A run that has come so far, and the modes of its terminal. -/
structure Loan (Termios : Type) where
  stage : Stage Termios
  modes : Termios
  /-- Whether the run was aborted, which cleans up nothing. -/
  isAborted : Bool := false

/--
Some exchanges one after the other, where `allocates` tells whether all storage is
there that it takes to act on a reply at some stage.
-/
inductive Loan.Runs
    [TerminalModes Termios]
    (capacity : Nat)
    (allocates : Stage Termios → Exchange Termios → Prop)
    (first : Loan Termios) :
    List (Exchange Termios) → Loan Termios → Prop
  | none : Runs capacity allocates first [] first
  | step {trace : List (Exchange Termios)} {loan : Loan Termios}
    (earlier : Runs capacity allocates first trace loan)
    (exchange : Exchange Termios)
    {resume : exchange.request.Reply → Stage Termios × List Entry}
    (alive : loan.isAborted = false)
    (asks : loan.stage.next capacity = .asks exchange.request resume)
    (permitted : exchange.IsPermitted loan.modes)
    (allocated : allocates loan.stage exchange) :
    Runs capacity allocates first (trace ++ [exchange])
      ⟨(resume exchange.reply).1, exchange.modesAfter loan.modes, false⟩
  | abort {trace : List (Exchange Termios)} {loan : Loan Termios}
    (earlier : Runs capacity allocates first trace loan)
    (exchange : Exchange Termios)
    {resume : exchange.request.Reply → Stage Termios × List Entry}
    (alive : loan.isAborted = false)
    (asks : loan.stage.next capacity = .asks exchange.request resume)
    (permitted : exchange.IsPermitted loan.modes)
    (refused : ¬ allocates loan.stage exchange) :
    Runs capacity allocates first (trace ++ [exchange])
      ⟨loan.stage, exchange.modesAfter loan.modes, true⟩

namespace Loan

variable
    [TerminalModes Termios]
    {capacity : Nat}
    {Allocates : Stage Termios → Exchange Termios → Prop}
    {first loan last : Loan Termios}
    {trace : List (Exchange Termios)}

/-- The last exchange of a run was acted on, or aborted it. -/
theorem Runs.exists_of_append {exchange : Exchange Termios}
    (runs : Runs capacity Allocates first (trace ++ [exchange]) last) :
    ∃ (loan : Loan Termios)
      (resume : exchange.request.Reply → Stage Termios × List Entry),
      Runs capacity Allocates first trace loan ∧
        loan.stage.next capacity = .asks exchange.request resume ∧
        (Allocates loan.stage exchange ∧
            last =
              ⟨(resume exchange.reply).1,
                exchange.modesAfter loan.modes, false⟩ ∨
          ¬ Allocates loan.stage exchange ∧
            last =
              ⟨loan.stage, exchange.modesAfter loan.modes, true⟩) := by
  generalize whole : trace ++ [exchange] = exchanges at runs
  cases runs with
  | none => exact absurd whole (List.concat_ne_nil exchange trace)
  | step earlier other alive asks permitted allocated =>
    rcases List.append_inj' whole rfl with ⟨rfl, same⟩
    cases same
    exact ⟨_, _, earlier, asks, Or.inl ⟨allocated, rfl⟩⟩
  | abort earlier other alive asks permitted refused =>
    rcases List.append_inj' whole rfl with ⟨rfl, same⟩
    cases same
    exact ⟨_, _, earlier, asks, Or.inr ⟨refused, rfl⟩⟩

/-- What a run comes to is told by its exchanges. -/
theorem Runs.unique
    (runs : Runs capacity Allocates first trace loan)
    (others : Runs capacity Allocates first trace last) :
    loan = last := by
  induction runs generalizing last with
  | none =>
    generalize empty : [] = exchanges at others
    cases others with
    | none => rfl
    | step => exact absurd empty.symm (List.concat_ne_nil _ _)
    | abort => exact absurd empty.symm (List.concat_ne_nil _ _)
  | step _ exchange _ asks _ allocated ih =>
    rcases others.exists_of_append with ⟨reached, resume, earlier, asked, came⟩
    cases ih earlier
    cases asks.symm.trans asked
    rcases came with ⟨-, rfl⟩ | ⟨refused, -⟩
    · rfl
    · exact absurd allocated refused
  | abort _ exchange _ asks _ refused ih =>
    rcases others.exists_of_append with ⟨reached, resume, earlier, asked, came⟩
    cases ih earlier
    rcases came with ⟨allocated, -⟩ | ⟨-, rfl⟩
    · exact absurd allocated refused
    · rfl

end Loan

end TerminalEditor
