/-
  Arithmetic expressions of the shell.

  Values are integers of 64 bits that wrap around.  An expression is read as a whole and then evaluated;
  what is on the side that does not count of `&&`, `||` and `?` is not evaluated.

  Part of the stand-in for the machine (`Machine/System`).
-/
import BenchSweep.Machine.Shell.Session

namespace BenchSweep.Machine.Shell.Arithmetic

/-- Why an expression has no value. -/
inductive Fault where
  | expectingPrimary
  | expectingEnd
  | expectingBracket
  | expectingColon
  | divisionByZero
  /-- A variable whose value is no number. -/
  | illegalNumber (value : Bytes)
  | readOnly (name : String)
deriving DecidableEq, Repr

/-- What is wrong with the expression itself. -/
def Fault.reason : Fault → String
  | .expectingPrimary => "expecting primary"
  | .expectingEnd => "expecting EOF"
  | .expectingBracket => "expecting ')'"
  | .expectingColon => "expecting ':'"
  | .divisionByZero => "division by zero"
  | .illegalNumber _ => "illegal number"
  | .readOnly _ => "read only"

/-- The message about an expression. -/
def Fault.message (expression : Bytes) : Fault → Bytes
  | .illegalNumber value => bytesOf "Illegal number: " ++ value
  | .readOnly name => bytesOf (name ++ ": is read only")
  | fault =>
    bytesOf ("arithmetic expression: " ++ fault.reason ++ ": \"") ++ expression ++ bytesOf "\""

/-! ## Lexemes

  A text is cut into numbers, names and signs, the longest sign first.  Blanks end a lexeme and are no part
  of any. -/

/-- An operation on two values. -/
inductive Operation where
  | multiply | divide | remainder | add | subtract | shiftLeft | shiftRight
  | less | atMost | greater | atLeast | equal | different | bitAnd | bitXor | bitOr
deriving DecidableEq, Repr

/-- How closely an operation binds. -/
def Operation.rank : Operation → Nat
  | .multiply | .divide | .remainder => 8
  | .add | .subtract => 7
  | .shiftLeft | .shiftRight => 6
  | .less | .atMost | .greater | .atLeast => 5
  | .equal | .different => 4
  | .bitAnd => 3
  | .bitXor => 2
  | .bitOr => 1

/-- The parts of an expression as they are read. -/
inductive Token where
  | number (n : Int64)
  | named (s : String)
  | operation (op : Operation)
  /-- `=`, or an operation and `=`. -/
  | assign (op : Option Operation)
  | both
  | either
  | not
  | complement
  | opening
  | closing
  /-- Something else. -/
  | unknown
  | question
  | colon
deriving DecidableEq, Repr

/-- The value of a digit in a base up to sixteen. -/
def digitValue (c : Char) : Nat :=
  if c.isDigit then c.toNat - 48
  else if 'a' ≤ c ∧ c ≤ 'f' then c.toNat - 87
  else if 'A' ≤ c ∧ c ≤ 'F' then c.toNat - 55
  else 16

/-- The digits of a base at the front, as a number that stops at the largest value, and the rest. -/
def digits (base : Nat) (s : List Char) : Int64 × List Char :=
  let ds := s.takeWhile fun c => digitValue c < base
  let n : Nat := ds.foldl (fun n c => base * n + digitValue c) 0
  (if Int64.maxValue.toNatClampNeg < n then Int64.maxValue else Int64.ofNat n, s.drop ds.length)

/-- The number at the front, in base sixteen behind `0x`, eight behind `0`, and else ten. -/
def number (s : List Char) : Int64 × List Char :=
  match s with
  | '0' :: x :: d :: r =>
    if (x = 'x' ∨ x = 'X') ∧ digitValue d < 16 then digits 16 (d :: r) else digits 8 s
  | '0' :: _ => digits 8 s
  | _ => digits 10 s

/-- The sign at the front, and the rest. -/
def sign (s : List Char) : Option (Token × List Char) :=
  match s with
  | '<' :: '<' :: '=' :: r => some (.assign (some .shiftLeft), r)
  | '>' :: '>' :: '=' :: r => some (.assign (some .shiftRight), r)
  | '<' :: '<' :: r => some (.operation .shiftLeft, r)
  | '>' :: '>' :: r => some (.operation .shiftRight, r)
  | '<' :: '=' :: r => some (.operation .atMost, r)
  | '>' :: '=' :: r => some (.operation .atLeast, r)
  | '<' :: r => some (.operation .less, r)
  | '>' :: r => some (.operation .greater, r)
  | '=' :: '=' :: r => some (.operation .equal, r)
  | '!' :: '=' :: r => some (.operation .different, r)
  | '=' :: r => some (.assign none, r)
  | '!' :: r => some (.not, r)
  | '~' :: r => some (.complement, r)
  | '&' :: '&' :: r => some (.both, r)
  | '|' :: '|' :: r => some (.either, r)
  | '&' :: '=' :: r => some (.assign (some .bitAnd), r)
  | '|' :: '=' :: r => some (.assign (some .bitOr), r)
  | '^' :: '=' :: r => some (.assign (some .bitXor), r)
  | '*' :: '=' :: r => some (.assign (some .multiply), r)
  | '/' :: '=' :: r => some (.assign (some .divide), r)
  | '%' :: '=' :: r => some (.assign (some .remainder), r)
  | '+' :: '=' :: r => some (.assign (some .add), r)
  | '-' :: '=' :: r => some (.assign (some .subtract), r)
  | '&' :: r => some (.operation .bitAnd, r)
  | '|' :: r => some (.operation .bitOr, r)
  | '^' :: r => some (.operation .bitXor, r)
  | '*' :: r => some (.operation .multiply, r)
  | '/' :: r => some (.operation .divide, r)
  | '%' :: r => some (.operation .remainder, r)
  | '+' :: r => some (.operation .add, r)
  | '-' :: r => some (.operation .subtract, r)
  | '(' :: r => some (.opening, r)
  | ')' :: r => some (.closing, r)
  | '?' :: r => some (.question, r)
  | ':' :: r => some (.colon, r)
  | _ => none

/-- The lexemes of an expression, up to something that is none. -/
def tokens : Nat → List Char → List Token
  | 0, _ => [.unknown]
  | _, [] => []
  | fuel + 1, c :: r =>
    if c = ' ' ∨ c = '\t' ∨ c = '\n' then tokens fuel r
    else if c.isDigit then
      let (n, rest) := number (c :: r)
      .number n :: tokens fuel rest
    else if c.isAlpha ∨ c = '_' then
      let name := (c :: r).takeWhile fun d => d.isAlphanum || d == '_'
      .named (String.ofList name) :: tokens fuel ((c :: r).drop name.length)
    else
      match sign (c :: r) with
      | some (token, rest) => token :: tokens fuel rest
      | none => [.unknown]

/-! ## Expressions

  Each function reads one level of binding and hands what binds more closely to the next one.  They are
  mutual, since brackets lead back to the first, and the bound counts the calls: six levels for each token.
-/

/-- Expressions with numbers and variables. -/
inductive Expression where
  | number (n : Int64)
  | named (s : String)
  | negate (e : Expression)
  | not (e : Expression)
  | complement (e : Expression)
  | binary (op : Operation) (left right : Expression)
  | both (left right : Expression)
  | either (left right : Expression)
  | choice (condition yes no : Expression)
  | assign (name : String) (op : Option Operation) (value : Expression)

/-- What reading comes to: an expression and the tokens behind it. -/
abbrev Reading := Except Fault (Expression × List Token)

mutual

/-- An assignment or a choice, and the rest. -/
def expression (fuel : Nat) (ts : List Token) : Reading :=
  match fuel with
  | 0 => .error .expectingPrimary
  | fuel + 1 =>
    match ts with
    | .named s :: .assign op :: r => do
      let (e, r) ← expression fuel r
      return (.assign s op e, r)
    | _ => choice fuel ts

/-- A choice, and the rest. -/
def choice (fuel : Nat) (ts : List Token) : Reading :=
  match fuel with
  | 0 => .error .expectingPrimary
  | fuel + 1 => do
    let (condition, r) ← connected fuel 0 ts
    match r with
    | .question :: r =>
      let (yes, r) ← expression fuel r
      match r with
      | .colon :: r =>
        let (no, r) ← choice fuel r
        return (.choice condition yes no, r)
      | _ => .error .expectingColon
    | _ => return (condition, r)

/-- Values between operators; those between `||` are values between `&&`, and those are values between
    operations.  `level` counts from the outside. -/
def connected (fuel level : Nat) (ts : List Token) : Reading :=
  match fuel with
  | 0 => .error .expectingPrimary
  | fuel + 1 => do
    if level < 2 then
      let (left, r) ← connected fuel (level + 1) ts
      match level, r with
      | 0, .either :: r =>
        let (right, r) ← connected fuel 0 r
        return (.either left right, r)
      | 1, .both :: r =>
        let (right, r) ← connected fuel 1 r
        return (.both left right, r)
      | _, _ => return (left, r)
    else
      let (left, r) ← primary fuel ts
      operations fuel left 1 r

/-- What follows a value in operations that bind at least as closely as a rank. -/
def operations (fuel : Nat) (left : Expression) (rank : Nat) (ts : List Token) : Reading :=
  match fuel with
  | 0 => .error .expectingPrimary
  | fuel + 1 =>
    match ts with
    | .operation op :: r =>
      if op.rank < rank then .ok (left, ts)
      else do
        let (next, r) ← primary fuel r
        -- operations of one rank go from the left, so what follows must bind more closely
        let (right, r) ← operations fuel next (op.rank + 1) r
        operations fuel (.binary op left right) rank r
    | _ => .ok (left, ts)

/-- A number, a name, brackets, or a sign with one of these, and the rest. -/
def primary (fuel : Nat) (ts : List Token) : Reading :=
  match fuel with
  | 0 => .error .expectingPrimary
  | fuel + 1 =>
    match ts with
    | .number n :: r => .ok (.number n, r)
    | .named s :: r => .ok (.named s, r)
    | .opening :: r => do
      let (e, r) ← expression fuel r
      match r with
      | .closing :: r => return (e, r)
      | _ => .error .expectingBracket
    | .operation .subtract :: r => do
      let (e, r) ← primary fuel r
      return (.negate e, r)
    | .operation .add :: r => primary fuel r
    | .not :: r => do
      let (e, r) ← primary fuel r
      return (.not e, r)
    | .complement :: r => do
      let (e, r) ← primary fuel r
      return (.complement e, r)
    | _ => .error .expectingPrimary

end

/-- The expression of a text. -/
def read (text : List Char) : Except Fault Expression :=
  let ts := tokens (text.length + 1) text
  match expression (6 * ts.length + 6) ts with
  | .error fault => .error fault
  | .ok (e, []) => .ok e
  | .ok _ => .error .expectingEnd

/-! ## Values

  Evaluation goes along the expression from the left and carries the session, because an assignment within
  an expression is seen by what stands behind it. -/

/-- What holds counts as one. -/
def ofBool (b : Bool) : Int64 := if b then 1 else 0

/-- The value of an operation. -/
def Operation.apply (op : Operation) (a b : Int64) : Except Fault Int64 :=
  match op with
  | .multiply => .ok (a * b)
  | .divide => if b = 0 then .error .divisionByZero else .ok (a / b)
  | .remainder => if b = 0 then .error .divisionByZero else .ok (a % b)
  | .add => .ok (a + b)
  | .subtract => .ok (a - b)
  | .shiftLeft => .ok (a <<< b)
  | .shiftRight => .ok (a >>> b)
  | .less => .ok (ofBool (a < b))
  | .atMost => .ok (ofBool (a ≤ b))
  | .greater => .ok (ofBool (b < a))
  | .atLeast => .ok (ofBool (b ≤ a))
  | .equal => .ok (ofBool (a = b))
  | .different => .ok (ofBool (a ≠ b))
  | .bitAnd => .ok (a &&& b)
  | .bitXor => .ok (a ^^^ b)
  | .bitOr => .ok (a ||| b)

/-- The number that a value of a variable is, with blanks around it; nothing counts as zero. -/
def valueOfBytes (value : Bytes) : Except Fault Int64 :=
  let isSpace (c : Char) : Bool := c = ' ' || c = '\t' || c = '\n'
  let text := (Text.Utf8.lossy value).dropWhile isSpace
  let (negative, text) := match text with
    | '-' :: r => (true, r)
    | '+' :: r => (false, r)
    | r => (false, r)
  let (n, rest) := number text
  -- a value that is no number at all is a fault, but an empty one is zero
  if (rest.dropWhile isSpace).isEmpty ∧ (text.head?.any Char.isDigit ∨ value.isEmpty) then
    .ok (if negative then -n else n)
  else .error (.illegalNumber value)

/-- The value of a variable. -/
def valueOfName (s : Session) (name : String) : Except Fault Int64 :=
  valueOfBytes ((s.valueOf? name).getD [])

/-- The value of an expression, and the session with the variables that it sets. -/
def Expression.evaluate (s : Session) : Expression → Except Fault (Int64 × Session)
  | .number n => .ok (n, s)
  | .named name => do return (← valueOfName s name, s)
  | .negate e => do
    let (n, s) ← e.evaluate s
    return (-n, s)
  | .not e => do
    let (n, s) ← e.evaluate s
    return (ofBool (n = 0), s)
  | .complement e => do
    let (n, s) ← e.evaluate s
    return (~~~ n, s)
  | .binary op left right => do
    let (a, s) ← left.evaluate s
    let (b, s) ← right.evaluate s
    return (← op.apply a b, s)
  | .both left right => do
    let (a, s) ← left.evaluate s
    -- the right side does not count and is not evaluated, nor are its assignments made
    if a = 0 then return (0, s)
    let (b, s) ← right.evaluate s
    return (ofBool (b ≠ 0), s)
  | .either left right => do
    let (a, s) ← left.evaluate s
    if a ≠ 0 then return (1, s)
    let (b, s) ← right.evaluate s
    return (ofBool (b ≠ 0), s)
  | .choice condition yes no => do
    let (a, s) ← condition.evaluate s
    if a ≠ 0 then yes.evaluate s else no.evaluate s
  | .assign name op value => do
    let (n, s) ← value.evaluate s
    let n ← match op with
      | none => pure n
      | some op => op.apply (← valueOfName s name) n
    if s.isReadOnly name then throw (.readOnly name)
    return (n, s.assignAnew name (bytesOf (toString n.toInt)))

/-- The value of the expression that a text is. -/
def value (s : Session) (text : Bytes) : Except Fault (Int64 × Session) := do
  (← read (Text.Utf8.lossy text)).evaluate s

end BenchSweep.Machine.Shell.Arithmetic
