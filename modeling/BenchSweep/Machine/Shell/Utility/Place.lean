/-
  Programs that tell where files are and what they are.

  Part of the stand-in for the machine (`Machine/System`).
-/
import BenchSweep.Machine.Shell.Utility.Tree

namespace BenchSweep.Machine.Shell.Utility

/-- The path from the root of what a path names, or of what it would name if the last name were there. -/
def wholePath? (files : Files) (word : Bytes) (mustBe : Bool) : Except Files.Fault Bytes :=
  let shownAs (location : Location) : Bytes := Path.slash :: List.intercalate [Path.slash] location.reverse
  match files.find ⟨word⟩ with
  | .ok place => .ok (shownAs place.location)
  | .error .notFound =>
    if mustBe then .error .notFound
    else match files.destination ⟨word⟩ with
      | .ok (some d) => .ok (shownAs (d.last :: d.parent))
      | .ok none => .ok [Path.slash]
      | .error fault => .error fault
  | .error fault => .error fault

/-- Writes where paths lead, from the root. -/
def realpath : Program :=
  withOptions "realpath" (spec "emqsz" "" [("canonicalize-existing", 'e'), ("canonicalize-missing", 'm')]) 1
    fun a s =>
      if a.operands.isEmpty then misuse "realpath" 1 "missing operand" s
      else eachOperand "realpath" a.operands (fun w s =>
        match wholePath? s.files w (a.has 'e') with
        | .ok path => .ok (s.print (path ++ [0x0A]))
        | .error fault => .error (w ++ because fault)) s

/-- Without links there is nothing to read but whole paths. -/
def readlink : Program :=
  withOptions "readlink" (spec "femnqsvz" "" [("canonicalize", 'f'), ("canonicalize-existing", 'e'),
      ("canonicalize-missing", 'm'), ("no-newline", 'n')]) 1 fun a s =>
    if a.operands.isEmpty then misuse "readlink" 1 "missing operand" s
    else a.operands.foldl (fun s w =>
      match if (a.last? "fem").isSome then wholePath? s.files w (a.has 'e') else .error .notFound with
      | .ok path => s.print (if a.has 'n' then path else path ++ [0x0A])
      | .error _ => s.withStatus 1) s

/-- The text of a form for a file. -/
def statText (word : Bytes) (node : Node) : List Char → Bytes
  | '%' :: c :: r =>
    let (size, kind, mode) : Nat × String × String := match node with
      | .directory _ => (4096, "directory", "755")
      | .file content executable =>
        (content.length, if content.isEmpty then "regular empty file" else "regular file",
          if executable then "755" else "644")
    let part : Bytes := match c with
      | 's' => Session.decimal size
      | 'n' => word
      | 'F' => bytesOf kind
      | 'a' => bytesOf mode
      | 'U' | 'G' => bytesOf "root"
      | 'u' | 'g' => bytesOf "0"
      | 'h' => bytesOf "1"
      | '%' => bytesOf "%"
      | c => bytesOf (String.ofList ['%', c])
    part ++ statText word node r
  | c :: r => Text.Utf8.encodeChar c ++ statText word node r
  | [] => []

/-- Writes what is known of files. -/
def stat : Program :=
  withOptions "stat" (spec "Lft" "c" [("format", 'c'), ("printf", 'c')]) 1 fun a s =>
    if a.operands.isEmpty then misuse "stat" 1 "missing operand" s
    else eachOperand "stat" a.operands (fun w s =>
      match s.files.find ⟨w⟩ with
      | .ok place =>
        let form := Text.Utf8.lossy ((a.value? 'c').getD (bytesOf "  File: %n"))
        .ok (s.print (statText w place.node form ++ [0x0A]))
      | .error fault => .error (bytesOf "cannot statx " ++ shown w ++ because fault)) s

end BenchSweep.Machine.Shell.Utility
