/-
  Conditions on words and files.

  A condition is read and decided in one pass over its words: alternatives of conjunctions of tests, of
  which each may be negated or stand between brackets.  A word that has the form of an operator is an
  operand where no operator can stand.

  Part of the stand-in for the machine (`Machine/System`).
-/
import BenchSweep.Machine.Shell.Session

namespace BenchSweep.Machine.Shell.Condition

/-- What a word may mean. -/
inductive Kind where
  | operand
  | unary
  | binary
  | not
  | and
  | or
  | opening
  | closing
deriving DecidableEq, Repr

/-- The operators with one operand behind them. -/
def unaryOperators : List String :=
  ["-r", "-w", "-x", "-e", "-f", "-d", "-c", "-b", "-p", "-u", "-g", "-k", "-s", "-t", "-z", "-n", "-h",
    "-L", "-O", "-G", "-S"]

/-- The operators between two operands. -/
def binaryOperators : List String :=
  ["=", "!=", "<", ">", "-eq", "-ne", "-ge", "-gt", "-le", "-lt", "-nt", "-ot", "-ef"]

/-- What a word means by its form alone. -/
def formOf (word : Bytes) : Kind :=
  let text := textOf word
  if unaryOperators.contains text then .unary
  else if binaryOperators.contains text then .binary
  else if text = "!" then .not
  else if text = "-a" then .and
  else if text = "-o" then .or
  else if text = "(" then .opening
  else if text = ")" then .closing
  else .operand

/-- What the first of some words means.  An operator of one word is an operand at the end and in front of
    an operator of two words with another word behind it; an opening bracket is one at the end. -/
def kindOf : List Bytes → Option Kind
  | [] => none
  | word :: rest =>
    match formOf word, rest with
    | .unary, [] => some .operand
    | .unary, [_] => some .unary
    -- in front of an operator of two words it is its left operand
    | .unary, next :: _ => some (if formOf next = .binary then .operand else .unary)
    | .opening, [] => some .operand
    | kind, _ => some kind

/-- Why words are no condition. -/
inductive Fault where
  | unexpected (word : Bytes)
  | argumentExpected (operator : Bytes)
  | bracketExpected
  | illegalNumber (word : Bytes)
deriving DecidableEq, Repr

/-- What is said of a fault. -/
def Fault.message : Fault → Bytes
  | .unexpected word => word ++ bytesOf ": unexpected operator"
  | .argumentExpected operator => operator ++ bytesOf ": argument expected"
  | .bracketExpected => bytesOf "closing paren expected"
  | .illegalNumber word => bytesOf "Illegal number: " ++ word

/-- The number that an operand spells. -/
def numberOf (word : Bytes) : Except Fault Int :=
  match integer? word with
  | some n => .ok n
  | none => .error (.illegalNumber word)

/-- A test of one word. -/
def unaryTest (s : Session) (operator word : Bytes) : Except Fault Bool :=
  let p : Path := ⟨word⟩
  match textOf operator with
  | "-n" => .ok (word ≠ [])
  | "-z" => .ok (word = [])
  -- whatever is there can be read and written by its one owner
  | "-e" | "-r" | "-w" | "-O" | "-G" => .ok (s.files.pathExists p)
  | "-f" => .ok (s.files.isFile p && !hasBytes word "/dev/null")
  | "-d" => .ok (s.files.isDirectory p)
  | "-c" => .ok (hasBytes word "/dev/null")
  | "-s" => .ok (match s.files.read p with
    | .ok content => content ≠ []
    | .error _ => s.files.isDirectory p)
  | "-x" => .ok (match s.files.nodeOf? p with
    | some (.file _ executable) => executable
    | some (.directory _) => true
    | none => false)
  | "-t" => do
    let _ ← numberOf word
    return false
  | _ => .ok false

/-- Whether one byte string stands before another one. -/
def before : Bytes → Bytes → Bool
  | _, [] => false
  | [], _ :: _ => true
  | a :: r, b :: s => a < b || (a = b && before r s)

/-- A test of two words. -/
def binaryTest (s : Session) (left operator right : Bytes) : Except Fault Bool :=
  let numbers (holds : Int → Int → Bool) : Except Fault Bool := do
    return holds (← numberOf left) (← numberOf right)
  match textOf operator with
  | "=" => .ok (left = right)
  | "!=" => .ok (left ≠ right)
  | "<" => .ok (before left right)
  | ">" => .ok (before right left)
  | "-eq" => numbers (· == ·)
  | "-ne" => numbers (· != ·)
  | "-lt" => numbers (· < ·)
  | "-le" => numbers (· ≤ ·)
  | "-gt" => numbers (· > ·)
  | "-ge" => numbers (· ≥ ·)
  | "-ef" => .ok (match s.files.find ⟨left⟩, s.files.find ⟨right⟩ with
    | .ok a, .ok b => a.location = b.location
    | _, _ => false)
  | _ => .ok false

/-- A value, the last word that was used for it, and the words behind it. -/
structure Reading where
  value : Bool
  last : Bytes
  rest : List Bytes

mutual

/-- Alternatives. -/
def alternatives (s : Session) (fuel : Nat) (words : List Bytes) : Except Fault Reading :=
  match fuel with
  | 0 => .error .bracketExpected
  | fuel + 1 => do
    let first ← conjunction s fuel words
    if kindOf first.rest = some .or then
      let others ← alternatives s fuel first.rest.tail
      return { others with value := first.value || others.value }
    else return first

/-- Tests of which all must hold. -/
def conjunction (s : Session) (fuel : Nat) (words : List Bytes) : Except Fault Reading :=
  match fuel with
  | 0 => .error .bracketExpected
  | fuel + 1 => do
    let first ← negation s fuel words
    if kindOf first.rest = some .and then
      let others ← conjunction s fuel first.rest.tail
      return { others with value := first.value && others.value }
    else return first

/-- A test that may be negated. -/
def negation (s : Session) (fuel : Nat) (words : List Bytes) : Except Fault Reading :=
  match fuel with
  | 0 => .error .bracketExpected
  | fuel + 1 =>
    if kindOf words = some .not then
      match words.tail with
      | [] => .ok ⟨true, words.headD [], []⟩
      | rest => do
        let inner ← negation s fuel rest
        return { inner with value := !inner.value }
    else single s fuel words

/-- One test, or a condition between brackets. -/
def single (s : Session) (fuel : Nat) (words : List Bytes) : Except Fault Reading :=
  match fuel with
  | 0 => .error .bracketExpected
  | fuel + 1 =>
    match words with
    | [] => .ok ⟨false, [], []⟩
    | word :: rest =>
      match kindOf words with
      | some .opening =>
        -- nothing between brackets does not hold
        if kindOf rest = some .closing then .ok ⟨false, rest.headD [], rest.tail⟩
        else do
          let inner ← alternatives s fuel rest
          if kindOf inner.rest = some .closing then
            return { inner with last := inner.rest.headD [], rest := inner.rest.tail }
          else throw .bracketExpected
      | some .unary =>
        match rest with
        | [] => .error (.argumentExpected word)
        | operand :: rest => do return ⟨← unaryTest s word operand, operand, rest⟩
      | _ =>
        if kindOf rest = some .binary then
          match rest with
          | operator :: right :: rest => do return ⟨← binaryTest s word operator right, right, rest⟩
          | operator :: [] => .error (.argumentExpected operator)
          | [] => .ok ⟨word ≠ [], word, rest⟩
        else .ok ⟨word ≠ [], word, rest⟩

end

/-- Words as alternatives, of which none may be left. -/
def whole (s : Session) (words : List Bytes) : Except Fault Bool := do
  let reading ← alternatives s (4 * words.length + 8) words
  if reading.rest.isEmpty then return reading.value else throw (.unexpected reading.last)

/-- Whether a condition holds.  Of three words the one in the middle decides first; of three or four words
    a negation or brackets around them come next. -/
def holds (s : Session) : Nat → List Bytes → Except Fault Bool
  | 0, _ => .ok false
  | fuel + 1, words =>
    match words with
    | [] => .ok false
    | [left, operator, right] =>
      -- with an operator in the middle the others are operands, whatever they look like
      if formOf operator = .binary then binaryTest s left operator right
      else if hasBytes left "(" ∧ hasBytes right ")" then whole s [operator]
      else if hasBytes left "!" then (holds s fuel [operator, right]).map (!·)
      else whole s words
    | [first, second, third, fourth] =>
      if hasBytes first "(" ∧ hasBytes fourth ")" then whole s [second, third]
      else if hasBytes first "!" then (holds s fuel [second, third, fourth]).map (!·)
      else whole s words
    | _ => whole s words

/-- The value of a condition. -/
def value (s : Session) (words : List Bytes) : Except Fault Bool := holds s 3 words

end BenchSweep.Machine.Shell.Condition
