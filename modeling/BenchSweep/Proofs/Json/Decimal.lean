/-
  Decimals are JSON numbers.

  A finite number is written with its shortest digits, laid out with a point in its place or with a power of
  ten behind them.  Both are texts that JSON has for a number (`numberAt?_scientific`), because there is at
  least one digit and the first one is not zero.
-/
import BenchSweep.Proofs.Json.ReadBack
import BenchSweep.Proofs.Number.Shortest

namespace BenchSweep.Binary64

open Json.Reader (isWhole IsFraction IsTenPower numberAt? numberAt?_decimal)
open Toml (IsDigits isDigits_toDigits)

/-! ## Digits

  The digits of a number lose the zeros at their end, never the first one, so they stay what JSON asks for
  in front of a point. -/

/-- There are digits, and the first one is not zero. -/
structure Digits.IsProper (d : Digits) : Prop where
  ne_nil : d.digits ≠ []
  isDigits : IsDigits d.digits
  head : d.digits.head? ≠ some '0'

/-- What is dropped from the front stops at the end at the latest. -/
theorem dropWhile_append_singleton {α : Type} {p : α → Bool} {x : α} (hx : p x = false) (xs : List α) :
    (xs ++ [x]).dropWhile p = xs.dropWhile p ++ [x] := by
  rw [List.dropWhile_append]
  split
  · next h => rw [List.isEmpty_iff.1 h, List.dropWhile_cons_of_neg (by rw [hx]; exact Bool.false_ne_true)]; rfl
  · rfl

/-- Without the zeros at its end, a positive number still has its first digit. -/
theorem Digits.isProper_ofDecimal {n : Nat} (hn : 0 < n) (k : Int) : (ofDecimal n k).IsProper := by
  obtain ⟨c, r, hcons⟩ := List.exists_cons_of_ne_nil (Nat.toDigits_ne_nil (b := 10) (n := n))
  have hhead : c ≠ '0' := by
    rintro rfl
    exact Toml.Numbers.head?_toDigits hn (by rw [hcons]; rfl)
  -- the first digit is the last one to be met from behind, and it stops the zeros
  have hdigits : ∃ t, (ofDecimal n k).digits = c :: t ∧ ∀ d ∈ t, d ∈ r := by
    refine ⟨(r.reverse.dropWhile (· = '0')).reverse, ?_, fun d hd => ?_⟩
    · have hstop := dropWhile_append_singleton (p := (· = '0')) (decide_eq_false hhead) r.reverse
      rw [ofDecimal]
      dsimp only
      rw [hcons, List.reverse_cons, hstop, List.reverse_append]
      rfl
    · exact List.mem_reverse.1 ((List.dropWhile_sublist _).mem (List.mem_reverse.1 hd))
  obtain ⟨t, ht, hmem⟩ := hdigits
  have hall := isDigits_toDigits n
  rw [hcons] at hall
  refine ⟨by rw [ht]; exact List.cons_ne_nil c t, ?_, ?_⟩
  · rw [ht]
    intro d hd
    rcases List.mem_cons.1 hd with rfl | hd
    · exact hall d List.mem_cons_self
    · exact hall d (List.mem_cons_of_mem c (hmem d hd))
  · rw [ht]
    exact fun h => hhead (Option.some.inj h)

/-- Digits in front of a point, of which the first one is not zero. -/
theorem isWhole_of_head {ds : List Char} (hne : ds ≠ []) (hd : IsDigits ds) (hhead : ds.head? ≠ some '0') :
    isWhole ds = true := by
  unfold isWhole
  split
  · exact absurd rfl hne
  · rfl
  · next d ds _ =>
    rw [List.all_eq_true.2 hd, Bool.and_true, bne_iff_ne]
    rintro rfl
    exact hhead rfl

/-- Zeros are digits. -/
theorem isDigits_replicate (n : Nat) : IsDigits (List.replicate n '0') := by
  intro c hc
  obtain rfl : c = '0' := List.eq_of_mem_replicate hc
  decide

/-- Digits behind digits are digits. -/
theorem isDigits_append {a b : List Char} (ha : IsDigits a) (hb : IsDigits b) : IsDigits (a ++ b) := by
  intro c hc
  rcases List.mem_append.1 hc with hc | hc
  · exact ha c hc
  · exact hb c hc

/-! ## Layouts

  JSON wants a whole part without a zero in front, and behind it a fraction, a power of ten or both.  Each
  layout is shown to be of that form by naming its parts. -/

/-- A text of digits, and of a fraction, a power of ten or both. -/
def IsUnsigned (s : List Char) : Prop :=
  ∃ whole f p, s = whole ++ (f ++ p) ∧ isWhole whole = true ∧ IsDigits whole ∧ IsFraction f ∧
    IsTenPower p ∧ f ++ p ≠ []

/-- With the point in its place there is a digit on either side. -/
theorem Digits.IsProper.isUnsigned_positional {d : Digits} (hd : d.IsProper) : IsUnsigned d.positional := by
  obtain ⟨hne, hdigits, hhead⟩ := hd
  rw [positional]
  split
  · -- a zero stands alone in front of the point
    refine ⟨['0'], '.' :: (List.replicate (-d.point).toNat '0' ++ d.digits), [], by simp, rfl,
      fun c hc => by obtain rfl := List.mem_singleton.1 hc; decide, .point ?_ ?_, .nothing, by simp⟩
    · exact fun h => hne (List.append_eq_nil_iff.1 h).2
    · exact isDigits_append (isDigits_replicate _) hdigits
  · dsimp only
    split
    · -- zeros fill the places in front of the point
      have hwhole := isDigits_append hdigits (isDigits_replicate (d.point.toNat - d.digits.length))
      refine ⟨_, ['.', '0'], [], by rw [List.append_nil], isWhole_of_head ?_ hwhole ?_, hwhole,
        .point (by simp) (isDigits_replicate 1), .nothing, by simp⟩
      · exact fun h => hne (List.append_eq_nil_iff.1 h).1
      · rwa [List.head?_append_of_ne_nil _ hne]
    · next hpoint hlength =>
      -- the point is among the digits
      obtain ⟨c, r, hcons⟩ := List.exists_cons_of_ne_nil hne
      obtain ⟨m, hm⟩ : ∃ m, d.point.toNat = m + 1 := ⟨d.point.toNat - 1, by omega⟩
      have hwhole : IsDigits (d.digits.take d.point.toNat) := fun c hc => hdigits c (List.mem_of_mem_take hc)
      refine ⟨_, '.' :: d.digits.drop d.point.toNat, [], by rw [List.append_nil], isWhole_of_head ?_ hwhole ?_,
        hwhole, .point ?_ fun c hc => hdigits c (List.mem_of_mem_drop hc), .nothing, by simp⟩
      · rw [hcons, hm]
        exact List.cons_ne_nil c _
      · rw [hcons] at hhead ⊢
        rw [hm]
        exact hhead
      · exact fun h => hlength (List.drop_eq_nil_iff.1 h)

/-- With a power of ten one digit is in front of the point, if there is a point. -/
theorem Digits.IsProper.isUnsigned_withPower {d : Digits} (hd : d.IsProper) : IsUnsigned d.withPower := by
  obtain ⟨hne, hdigits, hhead⟩ := hd
  obtain ⟨c, r, hcons⟩ := List.exists_cons_of_ne_nil hne
  rw [hcons] at hdigits hhead
  have hsign : (if d.point - 1 < 0 then '-' else '+') = '-' ∨ (if d.point - 1 < 0 then '-' else '+') = '+' := by
    split
    · exact Or.inl rfl
    · exact Or.inr rfl
  refine ⟨[c], if d.digits.length ≤ 1 then [] else '.' :: d.digits.drop 1,
    'e' :: (if d.point - 1 < 0 then '-' else '+') :: Nat.toDigits 10 (d.point - 1).natAbs, ?_,
    isWhole_of_head (by simp) (fun x hx => ?_) hhead, fun x hx => ?_, ?_,
    .power hsign Nat.toDigits_ne_nil (isDigits_toDigits _), by simp⟩
  · rw [withPower, hcons]
    simp
  · exact hdigits x (by rw [List.mem_singleton.1 hx]; exact List.mem_cons_self)
  · exact hdigits x (by rw [List.mem_singleton.1 hx]; exact List.mem_cons_self)
  · rw [hcons]
    split
    · exact .nothing
    · next hlength =>
      refine .point (fun h => hlength ?_) fun x hx => hdigits x (List.mem_cons_of_mem c hx)
      obtain rfl : r = [] := h
      exact Nat.le_refl 1

/-- **Finite numbers are written as JSON numbers.** -/
theorem numberAt?_scientific {x : Binary64} {text : String}
    (htext : x.scientific = some text) : numberAt? text.toList = some (.decimal text, []) := by
  match x with
  | .nan => cases htext
  | .infinite _ => cases htext
  | @finite negative significand exponent fits =>
    obtain rfl := Option.some.inj htext
    -- zero is written by itself, and of any other number the shortest digits, in one of the two layouts
    have hbody : IsUnsigned (if significand = 0 then "0.0".toList
        else if -5 < (shortest .toEven significand exponent).point ∧
            (shortest .toEven significand exponent).point ≤ 16 then
          (shortest .toEven significand exponent).positional
        else (shortest .toEven significand exponent).withPower) := by
      split
      · exact ⟨['0'], ['.', '0'], [], rfl, rfl, isDigits_replicate 1,
          .point (by simp) (isDigits_replicate 1), .nothing, by simp⟩
      · next hzero =>
        obtain ⟨n, k, hn, heq⟩ := exists_shortest_eq (Nat.pos_of_ne_zero hzero) fits .toEven
        have hproper := Digits.isProper_ofDecimal hn k
        rw [heq]
        split
        · exact hproper.isUnsigned_positional
        · exact hproper.isUnsigned_withPower
    obtain ⟨whole, f, p, heq, hwhole, hd, hf, hp, hne⟩ := hbody
    rw [String.toList_ofList, numberAt?_decimal negative hwhole hd hf hp hne (by rw [← heq]; rfl)]

end BenchSweep.Binary64
