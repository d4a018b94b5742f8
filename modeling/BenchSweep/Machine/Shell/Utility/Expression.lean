/-
  The program that computes the value of an expression.

  Each word is an operand, an operator or a bracket; a value is an integer or a text.

  Part of the stand-in for the machine (`Machine/System`).
-/
import BenchSweep.Machine.Shell.Utility.Lines
import BenchSweep.Machine.Shell.Utility.Order
import BenchSweep.Machine.Shell.Utility.Regex

namespace BenchSweep.Machine.Shell.Utility

/-- What may be wrong with an expression. -/
inductive ValueFault where
  | missingAfter (word : Bytes)
  | unexpected (word : Bytes)
  | expectingBracket (word : Bytes)
  | nonInteger
  | divisionByZero
  | invalidExpression
deriving DecidableEq, Repr

/-- What `expr` says of it. -/
def ValueFault.message : ValueFault → Bytes
  | .missingAfter word => bytesOf "syntax error: missing argument after " ++ shown word
  | .unexpected word => bytesOf "syntax error: unexpected argument " ++ shown word
  | .expectingBracket word => bytesOf "syntax error: expecting ')' after " ++ shown word
  | .nonInteger => bytesOf "non-integer argument"
  | .divisionByZero => bytesOf "division by zero"
  | .invalidExpression => bytesOf "Invalid regular expression"

/-- The integer that a value is, without blanks around it. -/
def wholeNumber? (s : Bytes) : Option Int :=
  let (negative, digits) := match s with
    | 0x2D :: r => (true, r)
    | r => (false, r)
  (countOf? digits).map fun n => if negative then -(n : Int) else n

/-- A value that counts as false: nothing, or zero. -/
def isNull (s : Bytes) : Bool := s.isEmpty || wholeNumber? s = some 0

/-- What an expression matches at the front of a text: the first group, or how long the match is. -/
def matchedPart (text pattern : Bytes) : Except ValueFault Bytes :=
  match Regex.parse? false pattern with
  | none => .error .invalidExpression
  | some r =>
    -- whether the expression has a group decides what is told, match or no match
    let grouped := (List.range pattern.length).any fun i => (pattern.drop i).take 2 = [0x5C, 0x28]
    match Regex.longest? ⟨false⟩ r ⟨none, text, 0, []⟩ with
    | some state => .ok (if grouped then (state.groups.lookup 1).getD [] else Session.decimal state.position)
    | none => .ok (if grouped then [] else Session.decimal 0)

/-- How closely an operator binds; none for a word that is none. -/
def operatorRank? (word : Bytes) : Option Nat :=
  match textOf word with
  | "|" => some 0
  | "&" => some 1
  | "<" | "<=" | "=" | "==" | "!=" | ">=" | ">" => some 2
  | "+" | "-" => some 3
  | "*" | "/" | "%" => some 4
  | ":" => some 5
  | _ => none

/-- The value of an operator. -/
def operate (operator left right : Bytes) : Except ValueFault Bytes :=
  let integers (f : Int → Int → Except ValueFault Int) : Except ValueFault Bytes :=
    match wholeNumber? left, wholeNumber? right with
    | some a, some b => do return bytesOf (toString (← f a b))
    | _, _ => .error .nonInteger
  -- numbers are compared as numbers if both sides are numbers
  let order : Ordering := match wholeNumber? left, wholeNumber? right with
    | some a, some b => compare a b
    | _, _ => compareBytes left right
  let truth (b : Bool) : Except ValueFault Bytes := .ok (bytesOf (if b then "1" else "0"))
  match textOf operator with
  | "|" => .ok (if !isNull left then left else if !isNull right then right else bytesOf "0")
  | "&" => .ok (if isNull left ∨ isNull right then bytesOf "0" else left)
  | "<" => truth (order = .lt)
  | "<=" => truth (order ≠ .gt)
  | "=" | "==" => truth (order = .eq)
  | "!=" => truth (order ≠ .eq)
  | ">=" => truth (order ≠ .lt)
  | ">" => truth (order = .gt)
  | "+" => integers fun a b => .ok (a + b)
  | "-" => integers fun a b => .ok (a - b)
  | "*" => integers fun a b => .ok (a * b)
  | "/" => integers fun a b => if b = 0 then .error .divisionByZero else .ok (a.tdiv b)
  | "%" => integers fun a b => if b = 0 then .error .divisionByZero else .ok (a.tmod b)
  | _ => matchedPart left right

/-- What reading comes to: a value, the last word read, and the words behind it. -/
abbrev ValueReading := Except ValueFault (Bytes × Bytes × List Bytes)

mutual

/-- A value and the operators behind it that bind at least as closely as a rank: the value, the last word
    that was used, and the rest. -/
def valueFrom (fuel rank : Nat) (before : Bytes) (words : List Bytes) : ValueReading :=
  match fuel with
  | 0 => .error .nonInteger
  | fuel + 1 => do
    let (value, last, rest) ← singleValue fuel before words
    moreValues fuel rank value last rest

/-- Operations of a rank or a higher one behind a value. -/
def moreValues (fuel rank : Nat) (left last : Bytes) (words : List Bytes) : ValueReading :=
  match fuel with
  | 0 => .error .nonInteger
  | fuel + 1 =>
    match words with
    | [] => .ok (left, last, [])
    | operator :: rest =>
      match operatorRank? operator with
      | none => .ok (left, last, words)
      | some r =>
        if r < rank then .ok (left, last, words)
        else do
          -- operators of one rank go from the left
          let (right, last, rest) ← valueFrom fuel (r + 1) operator rest
          moreValues fuel rank (← operate operator left right) last rest

/-- A word, a function of words, or a value between brackets. -/
def singleValue (fuel : Nat) (before : Bytes) (words : List Bytes) : ValueReading :=
  match fuel with
  | 0 => .error .nonInteger
  | fuel + 1 =>
    match words with
    | [] => .error (.missingAfter before)
    | word :: rest =>
      match textOf word, rest with
      | "(", _ => do
        let (value, last, rest) ← valueFrom fuel 0 word rest
        match rest with
        | [0x29] :: rest => return (value, [0x29], rest)
        | _ => throw (.expectingBracket last)
      | ")", _ => .error (.unexpected word)
      -- a plus in front makes any word an operand
      | "+", next :: rest => .ok (next, next, rest)
      | "length", next :: rest => do
        let (value, last, rest) ← singleValue fuel word (next :: rest)
        return (Session.decimal value.length, last, rest)
      | "match", _ :: _ => do
        let (text, last, rest) ← singleValue fuel word rest
        let (pattern, last, rest) ← singleValue fuel last rest
        return (← matchedPart text pattern, last, rest)
      | "index", _ :: _ => do
        let (text, last, rest) ← singleValue fuel word rest
        let (set, last, rest) ← singleValue fuel last rest
        return (Session.decimal ((text.findIdx? set.contains).elim 0 (· + 1)), last, rest)
      | "substr", _ :: _ => do
        let (text, last, rest) ← singleValue fuel word rest
        let (first, last, rest) ← singleValue fuel last rest
        let (size, last, rest) ← singleValue fuel last rest
        match wholeNumber? first, wholeNumber? size with
        | some i, some n =>
          return (if i ≤ 0 ∨ n ≤ 0 then [] else (text.drop (i.toNat - 1)).take n.toNat, last, rest)
        | _, _ => return ([], last, rest)
      | _, _ => .ok (word, word, rest)

end

/-- Works out its words as an expression. -/
def expr : Program := fun words s =>
  let words := if words.head?.any (hasBytes · "--") then words.tail else words
  if words.isEmpty then misuse "expr" 2 "missing operand" s
  else match valueFrom (4 * words.length + 8) 0 [] words with
    | .error fault => fail "expr" 2 fault.message s
    | .ok (value, _, []) => (s.print (value ++ [0x0A])).withStatus (if isNull value then 1 else 0)
    | .ok (_, _, word :: _) => fail "expr" 2 (ValueFault.unexpected word).message s

end BenchSweep.Machine.Shell.Utility
