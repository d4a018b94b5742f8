/-
  Log lines.

  A line has a message and fields.  Its text is the message, in which the controls on which a terminal would
  act are spelled out, and behind it the fields as they are.
-/

namespace BenchSweep.Log

/-- How much a line matters. -/
inductive Level where
  | error
  | warn
  | info
  | debug
  | trace
deriving DecidableEq, Repr

namespace Level

/-- The word for a level. -/
def text : Level → String
  | .error => "ERROR"
  | .warn => "WARN"
  | .info => "INFO"
  | .debug => "DEBUG"
  | .trace => "TRACE"

/-- The place of a level: the lower, the more it matters. -/
def rank : Level → Nat
  | .error => 1
  | .warn => 2
  | .info => 3
  | .debug => 4
  | .trace => 5

end Level

/-- A line of the log. -/
structure Event where
  level : Level
  /-- The part of the program that wrote it. -/
  target : String
  message : String
  /-- What the line is about, by names. -/
  fields : List (String × String) := []
deriving DecidableEq, Repr

namespace Event

/-- A character of a message: bell, backspace, form feed, escape, delete and the controls above them are
    spelled out. -/
def shownChar (c : Char) : List Char :=
  let n := c.toNat
  if n ∈ [0x07, 0x08, 0x0C, 0x1B, 0x7F] then ['\\', 'x', Nat.digitChar (n / 16), Nat.digitChar (n % 16)]
  else if 0x80 ≤ n ∧ n ≤ 0x9F then '\\' :: 'u' :: '\x7b' :: Nat.toDigits 16 n ++ ['\x7d']
  else [c]

/-- The text of a line. -/
def text (event : Event) : String :=
  String.ofList (event.message.toList.flatMap shownChar) ++
    String.join (event.fields.map fun (name, value) => s!" {name}={value}")

/-- Whether a line has a field of that name; the message is one of them. -/
def hasField (event : Event) (name : String) : Bool :=
  name == "message" || (event.fields.lookup name).isSome

example : (Event.mk .info "t" "a\x1bb\u0080\n" [("plan", "c\x1b")]).text =
    "a\\x1bb\\u\x7b80\x7d\n plan=c\x1b" := by
  decide

end Event

end BenchSweep.Log
