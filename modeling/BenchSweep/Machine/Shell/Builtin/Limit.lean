/-
  Commands for what processes may take and what may be done with the files that they make.

  Part of the stand-in for the machine (`Machine/System`).
-/
import BenchSweep.Machine.Shell.Builtin.Basic
import BenchSweep.Machine.Shell.Format

namespace BenchSweep.Machine.Shell.Builtin

/-! ## Masks -/

/-- The bits that letters stand for, for all users alike. -/
def permissionOf (letters : Bytes) : Nat :=
  let bit (letter : UInt8) (n : Nat) : Nat := if letters.contains letter then n else 0
  bit 0x72 4 + bit 0x77 2 + bit 0x78 1

/-- The permissions, three bits for each of three users, after the part of a mode that begins with a sign. -/
def changedBy (users : Bytes) (sign : UInt8) (letters : Bytes) (permissions : Nat) : Nat :=
  let wanted := permissionOf letters
  let change (user : UInt8) (n : Nat) : Nat :=
    let old := permissions / n % 8
    let new := if !(users.isEmpty || users.contains user || users.contains 0x61) then old
      else if sign = 0x2B then old ||| wanted
      else if sign = 0x2D then old &&& (7 - wanted)
      else wanted
    new * n
  change 0x75 64 + change 0x67 8 + change 0x6F 1

/-- The permissions after the parts of a mode for some users, with at most `fuel` signs. -/
def changedByAll (users : Bytes) : (fuel : Nat) → Bytes → Nat → Option Nat
  | _, [], permissions => some permissions
  | 0, _, _ => none
  | fuel + 1, sign :: r, permissions =>
    let letters := r.takeWhile (bytesOf "rwxXst").contains
    if (bytesOf "+-=").contains sign then
      changedByAll users fuel (r.drop letters.length) (changedBy users sign letters permissions)
    else none

/-- The permissions after a mode such as `u=rwx,go-w`. -/
def changedPermissions (mode : Bytes) (permissions : Nat) : Option Nat :=
  (List.splitOn 0x2C mode).foldlM (fun permissions clause =>
    let users := clause.takeWhile (bytesOf "ugoa").contains
    let rest := clause.drop users.length
    if rest.isEmpty then none else changedByAll users rest.length rest permissions) permissions

/-- Sets or writes the rights that new files lack. -/
def umask (words : List Bytes) : Act Unit := do
  let (letters, operands) ← options "umask" "S" words
  let s ← get
  let digit (n : Nat) : Nat := s.mask / Nat.pow 8 n % 8
  match operands with
  | [] =>
    if letters.isEmpty then
      emit "umask" (bytesOf "0" ++ ([digit 2, digit 1, digit 0].flatMap Session.decimal) ++ [0x0A]) 0
    else
      let shown (n : Nat) : String :=
        (if n / 4 % 2 = 0 then "r" else "") ++ (if n / 2 % 2 = 0 then "w" else "") ++
          (if n % 2 = 0 then "x" else "")
      let text := "u=" ++ shown (digit 2) ++ ",g=" ++ shown (digit 1) ++ ",o=" ++ shown (digit 0)
      emit "umask" (bytesOf (text ++ "\n")) 0
  | word :: _ =>
    if word.head?.any isDecimal then
      if word.all isOctal then
        set { s with mask := (octal word.length word).1 % 512 }
        leave 0
      else refuse "umask" (bytesOf "Illegal number: " ++ word)
    else match changedPermissions word (511 - s.mask) with
      | some permissions =>
        set { s with mask := 511 - permissions }
        leave 0
      | none => refuse "umask" (bytesOf "Illegal mode: " ++ word)

/-! ## Limits -/

/-- A limit as it is told. -/
def shownLimit (unit : Nat) : Option Nat → Bytes
  | some n => Session.decimal (n / unit)
  | none => bytesOf "unlimited"

/-- Whether one limit is higher than another one. -/
def isAbove : Option Nat → Option Nat → Bool
  | _, none => false
  | none, some _ => true
  | some a, some b => b < a

/-- A limit with other values, if they may be set. -/
def Limit.changed? (limit : Limit) (soft hard : Option Nat) : Except String Limit :=
  if isAbove soft hard then .error "Invalid argument"
  else if isAbove hard limit.hard then .error "Operation not permitted"
  else .ok { limit with soft, hard }

/-- The value that a word stands for, in the unit of a limit; none inside for no limit. -/
def limitValue? (unit : Nat) (word : Bytes) : Option (Option Nat) :=
  if hasBytes word "unlimited" then some none
  else if word.all isDecimal then
    some (some (word.foldl (fun n b => 10 * n + (b.toNat - 0x30)) 0 * unit))
  else none

/-- Sets or writes limits of the process. -/
def ulimit (words : List Bytes) : Act Unit := do
  let (letters, operands) ← options "ulimit" "HSatfdscmlpnvwr" words
  let s ← get
  let side := (letters.filter fun c => c = 'H' || c = 'S').getLast?
  let what := ((letters.filter fun c => !(['H', 'S', 'a'].contains c)).getLast?).getD 'f'
  let shown (limit : Limit) : Bytes :=
    shownLimit limit.unit (if side = some 'H' then limit.hard else limit.soft) ++ [0x0A]
  match s.limits.find? (·.letter = what), operands with
  | _, _ :: _ :: _ => refuse "ulimit" (bytesOf "too many arguments")
  | none, _ => leave 0
  | some limit, [] =>
    if letters.contains 'a' then
      emit "ulimit" (s.limits.flatMap fun l =>
        bytesOf l.title ++ List.replicate (21 - l.title.length) 0x20 ++ shown l) 0
    else emit "ulimit" (shown limit) 0
  | some limit, [word] =>
    if letters.contains 'a' then refuse "ulimit" (bytesOf "too many arguments")
    match limitValue? limit.unit word with
    | none => refuse "ulimit" (bytesOf "bad number")
    | some value =>
      let soft := if side = some 'H' then limit.soft else value
      let hard := if side = some 'S' then limit.hard else value
      match Limit.changed? limit soft hard with
      | .error reason => refuse "ulimit" (bytesOf ("error setting limit (" ++ reason ++ ")"))
      | .ok new =>
        set { s with limits := s.limits.map fun (l : Limit) => if l.letter = what then new else l }
        leave 0

end BenchSweep.Machine.Shell.Builtin
