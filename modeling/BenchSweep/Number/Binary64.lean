/-
  Floating-point numbers of 64 bits, as what they denote.

  A finite number is a sign and a natural number times a power of two, within the bounds of the format:
  the significand has 53 bits, or fewer with the least exponent, and the exponent lies between -1074 and
  971 (`Fits`).  A number carries that with it, so nothing else can be built, and every number other than
  zero is written in one way.

  All arithmetic here is exact arithmetic on natural numbers, and the format comes in at one place only:
  `ofRatio` rounds a ratio to the nearest number, a tie to the even neighbour.  To show that the result is
  a number of the format (`fits_roundedPair`), the file goes through three steps.

  1. **Scaling.**  Multiplying a ratio by a power of two moves factors between its two parts; what that
     does to an inequality between them is `scale_add`.

  2. **The logarithm** (`scale_floorLog2`).  The lengths of both parts give it, or one more than it, and a
     comparison tells which.

  3. **Rounding.**  A ratio that is scaled to its logarithm has 53 bits, and one more only by a carry,
     which goes into the exponent.

  Addition, decimals, texts and durations are built on `ofRatio`.
-/

namespace BenchSweep

/-- A ratio of a natural number and a positive one. -/
structure Ratio where
  num : Nat
  den : Nat
  den_pos : 0 < den

namespace Ratio

/-- A natural number over one. -/
def ofNat (n : Nat) : Ratio := ⟨n, 1, Nat.one_pos⟩

/-- The ratio times `base ^ k`. -/
def scale (r : Ratio) {base : Nat} (hbase : 0 < base) (k : Int) : Ratio where
  num := r.num * base.pow k.toNat
  den := r.den * base.pow (-k).toNat
  den_pos := Nat.mul_pos r.den_pos (Nat.pow_pos hbase)

/-- The base of decimals is positive. -/
theorem ten_pos : 0 < 10 := by decide

/-- The ratio `n * 2 ^ k`. -/
def ofBinary (n : Nat) (k : Int) : Ratio := (ofNat n).scale Nat.two_pos k

/-- The ratio `n * 10 ^ k`. -/
def ofDecimal (n : Nat) (k : Int) : Ratio := (ofNat n).scale ten_pos k

/-- One ratio is at most another, told by multiplying crosswise. -/
def le (a b : Ratio) : Bool := a.num * b.den ≤ b.num * a.den

/-- The same for less. -/
def lt (a b : Ratio) : Bool := a.num * b.den < b.num * a.den

/-- The natural number that is nearest to a ratio; a tie goes to the even one. -/
def nearest (r : Ratio) : Nat :=
  let below := r.num / r.den
  let rest := r.num % r.den
  if 2 * rest < r.den then below
  else if r.den < 2 * rest then below + 1
  else below + below % 2

/-- The greatest `k` for which `2 ^ k` is at most the ratio, if that is positive. -/
def floorLog2 (r : Ratio) : Int :=
  let guess : Int := (r.num.log2 : Int) - r.den.log2
  let scaled := r.scale Nat.two_pos (-guess)
  if scaled.den ≤ scaled.num then guess else guess - 1

/-! ## Scaling -/

section Scaling

variable (r : Ratio)

/-- Scaling by `n` more multiplies the ratio by `2 ^ n`, told without dividing. -/
theorem scale_add (k : Int) (n : Nat) :
    (r.scale Nat.two_pos (k + n)).num * (r.scale Nat.two_pos k).den =
      Nat.pow 2 n * (r.scale Nat.two_pos k).num * (r.scale Nat.two_pos (k + n)).den := by
  -- both sides have the same factors, since the powers of two add up to the same
  have hpow : Nat.pow 2 (k + n).toNat * Nat.pow 2 (-k).toNat =
      Nat.pow 2 n * Nat.pow 2 k.toNat * Nat.pow 2 (-(k + n)).toNat := by
    simp only [Nat.pow_eq, ← Nat.pow_add]
    congr 1
    omega
  calc r.num * Nat.pow 2 (k + n).toNat * (r.den * Nat.pow 2 (-k).toNat)
      = r.num * r.den * (Nat.pow 2 (k + n).toNat * Nat.pow 2 (-k).toNat) := by ac_rfl
    _ = r.num * r.den * (Nat.pow 2 n * Nat.pow 2 k.toNat * Nat.pow 2 (-(k + n)).toNat) := by rw [hpow]
    _ = Nat.pow 2 n * (r.num * Nat.pow 2 k.toNat) * (r.den * Nat.pow 2 (-(k + n)).toNat) := by ac_rfl

variable {r}

/-- An upper bound of a ratio, scaled by `n` more. -/
theorem scale_add_lt {k : Int} {bound : Nat} (h : (r.scale Nat.two_pos k).num < bound * (r.scale Nat.two_pos k).den)
    (n : Nat) : (r.scale Nat.two_pos (k + n)).num < Nat.pow 2 n * bound * (r.scale Nat.two_pos (k + n)).den := by
  refine Nat.lt_of_mul_lt_mul_right (a := (r.scale Nat.two_pos k).den) ?_
  calc (r.scale Nat.two_pos (k + n)).num * (r.scale Nat.two_pos k).den
      = Nat.pow 2 n * (r.scale Nat.two_pos (k + n)).den * (r.scale Nat.two_pos k).num := by rw [scale_add]; ac_rfl
    _ < Nat.pow 2 n * (r.scale Nat.two_pos (k + n)).den * (bound * (r.scale Nat.two_pos k).den) :=
      Nat.mul_lt_mul_of_pos_left h (Nat.mul_pos (Nat.pow_pos Nat.two_pos) (r.scale Nat.two_pos (k + n)).den_pos)
    _ = Nat.pow 2 n * bound * (r.scale Nat.two_pos (k + n)).den * (r.scale Nat.two_pos k).den := by ac_rfl

/-- A lower bound of a ratio, scaled by `n` more. -/
theorem le_scale_add {k : Int} {bound : Nat} (h : bound * (r.scale Nat.two_pos k).den ≤ (r.scale Nat.two_pos k).num)
    (n : Nat) : Nat.pow 2 n * bound * (r.scale Nat.two_pos (k + n)).den ≤ (r.scale Nat.two_pos (k + n)).num := by
  refine Nat.le_of_mul_le_mul_right (c := (r.scale Nat.two_pos k).den) ?_ (r.scale Nat.two_pos k).den_pos
  calc Nat.pow 2 n * bound * (r.scale Nat.two_pos (k + n)).den * (r.scale Nat.two_pos k).den
      = Nat.pow 2 n * (r.scale Nat.two_pos (k + n)).den * (bound * (r.scale Nat.two_pos k).den) := by ac_rfl
    _ ≤ Nat.pow 2 n * (r.scale Nat.two_pos (k + n)).den * (r.scale Nat.two_pos k).num := Nat.mul_le_mul_left _ h
    _ = (r.scale Nat.two_pos (k + n)).num * (r.scale Nat.two_pos k).den := by rw [scale_add]; ac_rfl

/-- An upper bound that holds after scaling by `n` more holds before. -/
theorem scale_lt_of_scale_add_lt {k : Int} {n bound : Nat}
    (h : (r.scale Nat.two_pos (k + n)).num < bound * (r.scale Nat.two_pos (k + n)).den) :
    (r.scale Nat.two_pos k).num < bound * (r.scale Nat.two_pos k).den := by
  have hpow : 1 ≤ Nat.pow 2 n := Nat.pow_pos Nat.two_pos
  refine Nat.lt_of_mul_lt_mul_right (a := (r.scale Nat.two_pos (k + n)).den) ?_
  calc (r.scale Nat.two_pos k).num * (r.scale Nat.two_pos (k + n)).den
      ≤ Nat.pow 2 n * ((r.scale Nat.two_pos k).num * (r.scale Nat.two_pos (k + n)).den) :=
        Nat.le_mul_of_pos_left _ hpow
    _ = (r.scale Nat.two_pos (k + n)).num * (r.scale Nat.two_pos k).den := by rw [scale_add]; ac_rfl
    _ < bound * (r.scale Nat.two_pos (k + n)).den * (r.scale Nat.two_pos k).den :=
      Nat.mul_lt_mul_of_pos_right h (r.scale Nat.two_pos k).den_pos
    _ = bound * (r.scale Nat.two_pos k).den * (r.scale Nat.two_pos (k + n)).den := by ac_rfl

end Scaling

/-! ## The logarithm -/

/-- Two numbers that are moved to the same length differ by less than the factor two. -/
theorem mul_pow_lt_two_mul {m n i j : Nat} (hn : n ≠ 0) (hlength : m.log2 + i = n.log2 + j) :
    m * Nat.pow 2 i < 2 * (n * Nat.pow 2 j) := by
  have hpow : Nat.pow 2 (m.log2 + 1) * Nat.pow 2 i = 2 * (Nat.pow 2 n.log2 * Nat.pow 2 j) := by
    simp only [Nat.pow_eq, ← Nat.pow_add]
    rw [← Nat.pow_add_one', Nat.add_right_comm, hlength]
  calc m * Nat.pow 2 i < Nat.pow 2 (m.log2 + 1) * Nat.pow 2 i :=
        Nat.mul_lt_mul_of_pos_right Nat.lt_log2_self (Nat.pow_pos Nat.two_pos)
    _ = 2 * (Nat.pow 2 n.log2 * Nat.pow 2 j) := hpow
    _ ≤ 2 * (n * Nat.pow 2 j) := Nat.mul_le_mul_left 2 (Nat.mul_le_mul_right _ (Nat.log2_self_le hn))

/-- A positive ratio that is scaled down to its logarithm lies between one and two. -/
theorem scale_floorLog2 {r : Ratio} (hnum : r.num ≠ 0) :
    (r.scale Nat.two_pos (-r.floorLog2)).den ≤ (r.scale Nat.two_pos (-r.floorLog2)).num ∧
      (r.scale Nat.two_pos (-r.floorLog2)).num < 2 * (r.scale Nat.two_pos (-r.floorLog2)).den := by
  have hden : r.den ≠ 0 := Nat.pos_iff_ne_zero.1 r.den_pos
  generalize hguess : (r.num.log2 : Int) - r.den.log2 = guess
  -- the guess leaves it between a half and two
  have hlow : (r.scale Nat.two_pos (-guess)).den < 2 * (r.scale Nat.two_pos (-guess)).num :=
    mul_pow_lt_two_mul hnum (by omega)
  have hhigh : (r.scale Nat.two_pos (-guess)).num < 2 * (r.scale Nat.two_pos (-guess)).den :=
    mul_pow_lt_two_mul hden (by omega)
  rw [floorLog2, hguess]
  split
  · next hle => exact ⟨hle, hhigh⟩
  · next hlt =>
    rw [show -(guess - 1) = -guess + (1 : Nat) by omega]
    have hone : (r.scale Nat.two_pos (-guess)).num < 1 * (r.scale Nat.two_pos (-guess)).den := by omega
    refine ⟨Nat.le_of_mul_le_mul_right (c := (r.scale Nat.two_pos (-guess)).den) ?_ (Ratio.den_pos _),
      scale_add_lt hone 1⟩
    calc (r.scale Nat.two_pos (-guess + (1 : Nat))).den * (r.scale Nat.two_pos (-guess)).den
        ≤ (r.scale Nat.two_pos (-guess + (1 : Nat))).den * (2 * (r.scale Nat.two_pos (-guess)).num) :=
          Nat.mul_le_mul_left _ (Nat.le_of_lt hlow)
      _ = Nat.pow 2 1 * (r.scale Nat.two_pos (-guess)).num * (r.scale Nat.two_pos (-guess + (1 : Nat))).den :=
          Nat.mul_comm _ _
      _ = (r.scale Nat.two_pos (-guess + (1 : Nat))).num * (r.scale Nat.two_pos (-guess)).den :=
          (r.scale_add _ 1).symm

/-! ## Rounding to a natural number -/

/-- A ratio below a bound is not rounded past it. -/
theorem nearest_le {r : Ratio} {bound : Nat} (h : r.num < bound * r.den) : r.nearest ≤ bound := by
  have hdiv : r.num / r.den < bound := (Nat.div_lt_iff_lt_mul r.den_pos).2 h
  rw [nearest]
  split
  · omega
  · split <;> omega

/-- A ratio from a bound on is not rounded below it. -/
theorem le_nearest {r : Ratio} {bound : Nat} (h : bound * r.den ≤ r.num) : bound ≤ r.nearest := by
  have hdiv : bound ≤ r.num / r.den := (Nat.le_div_iff_mul_le r.den_pos).2 h
  rw [nearest]
  split
  · exact hdiv
  · split <;> omega

end Ratio

/-! ## The format -/

namespace Binary64

/-- The least significand of 53 bits. -/
def leastNormal : Nat := Nat.pow 2 52

/-- The least exponent of the format. -/
def minExponent : Int := -1074

/-- The greatest exponent of the format. -/
def maxExponent : Int := 971

/-- The bounds of the format for `significand * 2 ^ exponent`. -/
structure Fits (significand : Nat) (exponent : Int) : Prop where
  bits : significand < 2 * leastNormal
  /-- The significand is short only where the exponent cannot be less. -/
  normal : leastNormal ≤ significand ∨ exponent = minExponent
  min_le : minExponent ≤ exponent
  le_max : exponent ≤ maxExponent

instance (significand : Nat) (exponent : Int) : Decidable (Fits significand exponent) :=
  decidable_of_iff (significand < 2 * leastNormal ∧ (leastNormal ≤ significand ∨ exponent = minExponent) ∧
      minExponent ≤ exponent ∧ exponent ≤ maxExponent)
    ⟨fun h => ⟨h.1, h.2.1, h.2.2.1, h.2.2.2⟩, fun h => ⟨h.bits, h.normal, h.min_le, h.le_max⟩⟩

end Binary64

/-- A number of the format. -/
inductive Binary64 where
  | nan
  | infinite (negative : Bool)
  /-- The number `significand * 2 ^ exponent`. -/
  | finite (negative : Bool) (significand : Nat) (exponent : Int)
    {fits : Binary64.Fits significand exponent}
deriving DecidableEq, Repr

namespace Binary64

instance : Inhabited Binary64 := ⟨.nan⟩

/-- Zero has the least exponent, and either sign. -/
def zero (negative : Bool) : Binary64 := @finite negative 0 minExponent (by decide)

/-! ## Rounding to the format -/

/-- The exponent with which a positive ratio has 53 bits, or the least one. -/
def exponentOf (r : Ratio) : Int := max minExponent (r.floorLog2 - 52)

/-- The significand and the exponent of a positive ratio.  Rounding may carry into a 54th bit. -/
def roundedPair (r : Ratio) : Nat × Int :=
  let exponent := exponentOf r
  let significand := (r.scale Nat.two_pos (-exponent)).nearest
  if significand = 2 * leastNormal then (leastNormal, exponent + 1) else (significand, exponent)

/-- Scaled to its exponent, a positive ratio has at most 53 bits. -/
theorem scale_exponentOf_lt {r : Ratio} (hnum : r.num ≠ 0) :
    (r.scale Nat.two_pos (-exponentOf r)).num <
      2 * leastNormal * (r.scale Nat.two_pos (-exponentOf r)).den := by
  have hscaled := Ratio.scale_add_lt (Ratio.scale_floorLog2 hnum).2 52
  -- the exponent is at least `floorLog2 - 52`, and a greater one divides by more
  obtain ⟨n, hn⟩ : ∃ n : Nat, -r.floorLog2 + (52 : Nat) = -exponentOf r + n :=
    ⟨(exponentOf r - (r.floorLog2 - 52)).toNat, by rw [exponentOf]; omega⟩
  rw [hn] at hscaled
  exact Nat.mul_comm 2 leastNormal ▸ Ratio.scale_lt_of_scale_add_lt hscaled

/-- It has just 53 bits if the exponent is not the least one. -/
theorem le_scale_exponentOf {r : Ratio} (hnum : r.num ≠ 0) (hmin : exponentOf r ≠ minExponent) :
    leastNormal * (r.scale Nat.two_pos (-exponentOf r)).den ≤
      (r.scale Nat.two_pos (-exponentOf r)).num := by
  have hone : 1 * (r.scale Nat.two_pos (-r.floorLog2)).den ≤ (r.scale Nat.two_pos (-r.floorLog2)).num :=
    Nat.le_trans (Nat.le_of_eq (Nat.one_mul _)) (Ratio.scale_floorLog2 hnum).1
  have hscaled := Ratio.le_scale_add hone 52
  have hexponent : -r.floorLog2 + (52 : Nat) = -exponentOf r := by
    rw [exponentOf] at hmin ⊢
    omega
  rwa [hexponent, Nat.mul_one] at hscaled

/-- What is rounded is a number of the format, unless it is too great. -/
theorem fits_roundedPair {r : Ratio} (hnum : r.num ≠ 0) (hmax : (roundedPair r).2 ≤ maxExponent) :
    Fits (roundedPair r).1 (roundedPair r).2 := by
  have hhigh := Ratio.nearest_le (scale_exponentOf_lt hnum)
  have hlow := fun hmin => Ratio.le_nearest (le_scale_exponentOf hnum hmin)
  have hmin : minExponent ≤ exponentOf r := by rw [exponentOf]; omega
  have hpos : 0 < leastNormal := by decide
  rw [roundedPair] at hmax ⊢
  split
  · next hcarry =>
    rw [if_pos hcarry] at hmax
    exact ⟨by omega, .inl (Nat.le_refl _), by omega, hmax⟩
  · next hcarry =>
    rw [if_neg hcarry] at hmax
    exact ⟨by omega, Decidable.or_iff_not_imp_right.2 hlow, hmin, hmax⟩

/-- The number that is nearest to a ratio. -/
def ofRatio (negative : Bool) (r : Ratio) : Binary64 :=
  if hnum : r.num = 0 then zero negative
  else if hmax : (roundedPair r).2 ≤ maxExponent then
    @finite negative (roundedPair r).1 (roundedPair r).2 (fits_roundedPair hnum hmax)
  else .infinite negative

/-! ## Addition -/

/-- The integer `(-1) ^ negative * significand * 2 ^ shift`. -/
def signed (negative : Bool) (significand shift : Nat) : Int :=
  if negative then -(significand * Nat.pow 2 shift : Nat) else (significand * Nat.pow 2 shift : Nat)

/-- The number that is nearest to a sum.  A sum of zero is negative only if both numbers are. -/
def add : Binary64 → Binary64 → Binary64
  | .nan, _ => .nan
  | _, .nan => .nan
  | .infinite a, .infinite b => if a = b then .infinite a else .nan
  | .infinite a, .finite .. => .infinite a
  | .finite .., .infinite b => .infinite b
  | .finite a m i, .finite b n j =>
    let low := min i j
    let sum := signed a m (i - low).toNat + signed b n (j - low).toNat
    ofRatio (if sum = 0 then a && b else sum < 0) (.ofBinary sum.natAbs low)

/-! ## Decimals -/

/-- The number that is nearest to `digits * 10 ^ k`.  Far outside the range of the format the answer is
    known without the power. -/
def ofDecimal (negative : Bool) (digits : Nat) (k : Int) : Binary64 :=
  let size : Int := (Nat.toDigits 10 digits).length + k
  if digits = 0 ∨ size < -400 then zero negative
  else if 400 < size then .infinite negative
  else ofRatio negative (.ofDecimal digits k)

/-- The number that decimal digits spell. -/
def ofDigits (ds : List Char) : Nat := ds.foldl (fun n c => 10 * n + (c.toNat - 48)) 0

/-- A sign in front of a text, if there is one, and the rest. -/
def takeSign : List Char → Bool × List Char
  | '-' :: r => (true, r)
  | '+' :: r => (false, r)
  | r => (false, r)

/-- The power of ten behind an `e`; without one it is zero. -/
def exponentOf? : List Char → Option Int
  | [] => some 0
  | e :: r =>
    let (negative, ds) := takeSign r
    if (e = 'e' ∨ e = 'E') ∧ ds ≠ [] ∧ ds.all Char.isDigit then
      some (if negative then -(ofDigits ds : Int) else ofDigits ds)
    else none

/-- The number that is nearest to a decimal text: digits, perhaps a point among them, and perhaps a
    power of ten behind an `e`. -/
def ofUnsignedDecimal? (negative : Bool) (s : List Char) : Option Binary64 :=
  let whole := s.takeWhile Char.isDigit
  let (fraction, rest) := match s.dropWhile Char.isDigit with
    | '.' :: r => (r.takeWhile Char.isDigit, r.dropWhile Char.isDigit)
    | r => ([], r)
  if whole = [] ∧ fraction = [] then none
  else (exponentOf? rest).map fun k =>
    ofDecimal negative (ofDigits (whole ++ fraction)) (k - fraction.length)

/-- The number of a decimal text, or of one of the names `inf`, `infinity` and `nan`, in which case does
    not count; a sign may stand in front. -/
def ofText? (s : List Char) : Option Binary64 :=
  let (negative, r) := takeSign s
  let name := r.map Char.toLower
  if name = "inf".toList ∨ name = "infinity".toList then some (.infinite negative)
  else if name = "nan".toList then some .nan
  else ofUnsignedDecimal? negative r

example : ofText? "0.5".toList = some (@finite false leastNormal (-53) (by decide)) := by decide +kernel
example : ofText? "1e400".toList = some (.infinite false) := by decide +kernel
example : ofText? "-4.9e-324".toList = some (@finite true 1 (-1074) (by decide)) := by decide +kernel

/-! ## Durations -/

/-- A span of nanoseconds as a number of seconds.  The whole seconds and the rest become numbers of the
    format each, and their sum is rounded once more. -/
def ofNanoseconds (n : Nat) : Binary64 :=
  (ofRatio false (.ofNat (n / 1000000000))).add (ofRatio false ⟨n % 1000000000, 1000000000, by decide⟩)

-- the number that is nearest to 17.565052605 is another one
example : ofNanoseconds 17565052605 ≠ ofDecimal false 17565052605 (-9) := by decide +kernel

end Binary64
end BenchSweep
