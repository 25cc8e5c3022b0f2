import CallCheck.Proofs.Congruence
import Mathlib.Algebra.Group.Int.Defs
import Mathlib.Algebra.Group.Nat.Defs

/-!
# Integers compared as doubles

Numbers are compared by the doubles nearest to them. An integer of 64 bits may have more binary places
than the 53 of a double, and is then rounded to a multiple of a power of two (`Binary64.roundInt`), so
that neighbours become equal. Two integers are told apart if one of them is below `2 ^ 53` in magnitude,
or if both are doubles themselves (`Binary64.Separated`), and then they are only equal if they are the
same. `Json.integers_compare_rounded` says this of values of integers, where it comes to equality up to
the order of keys, and of rules for exact inputs.
-/

namespace CallCheck
namespace Binary64

/-! ### The double nearest to an integer -/

/-- How many binary places of a natural number a double has no room for. -/
def excess (n : Nat) : Nat := n.log2 - 52

/-- A natural number rounded to the 53 binary places that a double has room for. -/
def roundNat (n : Nat) : Nat := roundQuotient n (2 ^ excess n) * 2 ^ excess n

/-- The integer that is the double nearest to an integer. -/
def roundInt (i : Int) : Int := if i < 0 then -(roundNat i.natAbs : Int) else roundNat i.natAbs

theorem roundQuotient_one (n : Nat) : roundQuotient n 1 = n := by
  simp [roundQuotient, Nat.mod_one]

theorem binade_one {n : Nat} (hn : n ≠ 0) : binade n 1 = n.log2 := by
  have hlog : Nat.log2 1 = 0 := rfl
  have hle : 2 ^ n.log2 ≤ n := Nat.log2_self_le hn
  simp [binade, hlog, hle]

theorem one_eq : one = 2 ^ (-leastExponent).toNat := by
  unfold one
  rw [← Nat.pow_eq]
  congr 1

theorem one_pos : 0 < one := Nat.lt_of_lt_of_eq (Nat.two_pow_pos _) one_eq.symm

/-- Moving a factor of two between significand and exponent keeps the number. -/
theorem magnitude_carry {negative : Bool} {e : Int} (he : leastExponent ≤ e) :
    (⟨negative, Nat.pow 2 52, e + 1⟩ : Binary64).magnitude =
      (⟨negative, Nat.pow 2 53, e⟩ : Binary64).magnitude := by
  have hsucc : (e + 1 - leastExponent).toNat = (e - leastExponent).toNat + 1 := by omega
  rw [magnitude, magnitude, hsucc]
  show 2 ^ 52 * 2 ^ ((e - leastExponent).toNat + 1) = 2 ^ 53 * 2 ^ (e - leastExponent).toNat
  rw [← Nat.pow_add, ← Nat.pow_add]
  congr 1
  omega

/-- The significand and the exponent that a natural number is given make up the rounded number. -/
theorem magnitude_rounded {n : Nat} {e : Int} (he : e = n.log2 - 52) (negative : Bool) :
    (⟨negative, roundQuotient (n * Nat.pow 2 (-e).toNat) (1 * Nat.pow 2 e.toNat), e⟩ :
      Binary64).magnitude = roundNat n * one := by
  have hleast : leastExponent = -1074 := rfl
  rw [magnitude, roundNat, one_eq, Nat.one_mul]
  simp only [Nat.pow_eq]
  rcases Nat.lt_or_ge n.log2 52 with hsmall | hlarge
  · -- the number fits, and its significand is filled up with zeros
    have hexcess : excess n = 0 := by unfold excess; omega
    have hpos : e.toNat = 0 := by omega
    rw [hexcess, hpos, Nat.pow_zero, roundQuotient_one, roundQuotient_one, Nat.mul_one, Nat.mul_assoc,
      ← Nat.pow_add]
    congr 2
    omega
  · have hexcess : e.toNat = excess n := by unfold excess; omega
    have hneg : (-e).toNat = 0 := by omega
    rw [hexcess, hneg, Nat.pow_zero, Nat.mul_one, Nat.mul_assoc, ← Nat.pow_add]
    congr 2
    omega

theorem exists_ofRatio? {n : Nat} (hn : n < 2 ^ 64) (negative : Bool) :
    ∃ b, ofRatio? negative n 1 = some b ∧ b.negative = negative ∧ b.magnitude = roundNat n * one := by
  by_cases hzero : n = 0
  · subst hzero
    refine ⟨zero negative, rfl, rfl, ?_⟩
    simp [zero, magnitude, roundNat, roundQuotient]
  · have hlog : n.log2 < 64 := (Nat.log2_lt hzero).mpr hn
    obtain ⟨e, he⟩ : ∃ e : Int, e = n.log2 - 52 := ⟨_, rfl⟩
    have hmax : max (binade n 1 - 52) leastExponent = e := by
      rw [binade_one hzero, leastExponent]
      omega
    have hmagnitude := magnitude_rounded he negative
    have hleast : leastExponent ≤ e := by rw [leastExponent]; omega
    have hgreatest : ¬ greatestExponent < e + 1 := by rw [greatestExponent]; omega
    rw [ofRatio?, if_neg hzero, hmax]
    dsimp only
    split
    case isTrue hcarry =>
      -- rounding up has made the significand one place longer
      rw [hcarry, ← magnitude_carry hleast] at hmagnitude
      exact ⟨_, rfl, rfl, hmagnitude⟩
    case isFalse =>
      rw [if_neg (by omega)]
      exact ⟨_, rfl, rfl, hmagnitude⟩

/-- An integer of 64 bits, signed or unsigned, becomes the rounded one as a double. -/
theorem units_ofInt {i : Int} (hi : i.natAbs < 2 ^ 64) : (ofInt i).units = roundInt i * one := by
  obtain ⟨b, hb, hnegative, hmagnitude⟩ := exists_ofRatio? hi (decide (i < 0))
  rw [ofInt, hb, Option.getD_some, units, roundInt, hnegative, hmagnitude, Int.natCast_mul]
  by_cases hneg : i < 0
  · simp only [hneg, decide_true, if_true, Int.neg_mul]
  · simp only [hneg, decide_false, Bool.false_eq_true, if_false]

/-! ### What rounding keeps -/

/-- A multiple of the divisor is not rounded. -/
theorem roundQuotient_mul_of_dvd {n d : Nat} (hd : 0 < d) (h : d ∣ n) : roundQuotient n d * d = n := by
  obtain ⟨q, rfl⟩ := h
  rw [roundQuotient, Nat.mul_div_cancel_left q hd, Nat.mul_mod_right]
  rw [if_pos (show 2 * 0 < d from hd), Nat.mul_comm]

theorem div_le_roundQuotient (n d : Nat) : n / d ≤ roundQuotient n d := by
  unfold roundQuotient
  dsimp only
  split
  · exact Nat.le_refl _
  · split <;> omega

/-- Rounding does not lead below `2 ^ 53`. -/
theorem le_roundNat {n : Nat} (h : 2 ^ 53 ≤ n) : 2 ^ 53 ≤ roundNat n := by
  have hn : n ≠ 0 := by omega
  have hlog : 53 ≤ n.log2 := (Nat.le_log2 hn).mpr h
  have hplaces : n.log2 = 52 + excess n := by unfold excess; omega
  have hquotient : 2 ^ 52 ≤ n / 2 ^ excess n := by
    rw [Nat.le_div_iff_mul_le (Nat.two_pow_pos _), ← Nat.pow_add, ← hplaces]
    exact Nat.log2_self_le hn
  calc 2 ^ 53 = 2 ^ 52 * 2 ^ 1 := rfl
    _ ≤ roundQuotient n (2 ^ excess n) * 2 ^ excess n := by
      apply Nat.mul_le_mul (Nat.le_trans hquotient (div_le_roundQuotient _ _))
      exact Nat.pow_le_pow_right (by decide) (by unfold excess; omega)

theorem natAbs_roundInt (i : Int) : (roundInt i).natAbs = roundNat i.natAbs := by
  unfold roundInt
  split <;> omega

/-- Whether an integer is a double: at most 53 binary places, times a power of two. -/
def IsDouble (i : Int) : Prop := ∃ (m : Int) (k : Nat), m.natAbs < 2 ^ 53 ∧ i = m * 2 ^ k

theorem isDouble_of_lt {i : Int} (h : i.natAbs < 2 ^ 53) : IsDouble i :=
  ⟨i, 0, h, by simp⟩

/-- A double has no places beyond those that a double has room for. -/
theorem two_pow_excess_dvd {m k : Nat} (hm : m < 2 ^ 53) : 2 ^ excess (m * 2 ^ k) ∣ m * 2 ^ k := by
  by_cases hzero : m * 2 ^ k = 0
  · rw [hzero]
    exact Nat.dvd_zero _
  · have hlt : m * 2 ^ k < 2 ^ (53 + k) := by
      rw [Nat.pow_add]
      exact Nat.mul_lt_mul_of_pos_right hm (Nat.two_pow_pos k)
    have hlog : (m * 2 ^ k).log2 < 53 + k := (Nat.log2_lt hzero).mpr hlt
    have hexcess : excess (m * 2 ^ k) ≤ k := by unfold excess; omega
    exact Nat.dvd_trans (Nat.pow_dvd_pow 2 hexcess) (Nat.dvd_mul_left _ _)

theorem roundInt_of_isDouble {i : Int} (h : IsDouble i) : roundInt i = i := by
  obtain ⟨m, k, hm, rfl⟩ := h
  have habs : (m * 2 ^ k).natAbs = m.natAbs * 2 ^ k := by
    rw [Int.natAbs_mul, Int.natAbs_pow]
    rfl
  have hround : roundNat (m * 2 ^ k).natAbs = (m * 2 ^ k).natAbs := by
    rw [habs]
    exact roundQuotient_mul_of_dvd (Nat.two_pow_pos _) (two_pow_excess_dvd hm)
  unfold roundInt
  rw [hround]
  split <;> omega

/-- Whether two integers are told apart as doubles: one of them has at most 53 binary places, or both
are doubles. -/
def Separated (i j : Int) : Prop :=
  i.natAbs < 2 ^ 53 ∨ j.natAbs < 2 ^ 53 ∨ (IsDouble i ∧ IsDouble j)

/-- Nothing is rounded to an integer of at most 53 binary places but that integer. -/
theorem eq_of_roundInt_eq {i j : Int} (hi : i.natAbs < 2 ^ 53) (h : roundInt i = roundInt j) :
    i = j := by
  rw [roundInt_of_isDouble (isDouble_of_lt hi)] at h
  by_cases hj : j.natAbs < 2 ^ 53
  · rw [h, roundInt_of_isDouble (isDouble_of_lt hj)]
  · have hle : 2 ^ 53 ≤ roundNat j.natAbs := le_roundNat (Nat.le_of_not_lt hj)
    rw [← natAbs_roundInt, ← h] at hle
    omega

theorem roundInt_eq_iff {i j : Int} (h : Separated i j) : roundInt i = roundInt j ↔ i = j := by
  constructor
  · intro heq
    rcases h with hi | hj | ⟨hi, hj⟩
    · exact eq_of_roundInt_eq hi heq
    · exact (eq_of_roundInt_eq hj heq.symm).symm
    · rw [← roundInt_of_isDouble hi, heq, roundInt_of_isDouble hj]
  · exact congrArg roundInt

end Binary64

/-! ### Values of integers -/

/-- Whether an integer has 64 bits, signed or unsigned. -/
def Is64Bit (i : Int) : Prop := -2 ^ 63 ≤ i ∧ i < 2 ^ 64

namespace Number

/-- Integers compare as what they are rounded to. -/
theorem sameValue_int {i j : Int} (hi : Is64Bit i) (hj : Is64Bit j) :
    (int i).sameValue (.int j) = true ↔ Binary64.roundInt i = Binary64.roundInt j := by
  have hi' : i.natAbs < 2 ^ 64 := by unfold Is64Bit at hi; omega
  have hj' : j.natAbs < 2 ^ 64 := by unfold Is64Bit at hj; omega
  have hone : (Binary64.one : Int) ≠ 0 := Int.natCast_ne_zero.mpr (Nat.ne_of_gt Binary64.one_pos)
  show (Binary64.ofInt i).sameValue (Binary64.ofInt j) = true ↔ _
  rw [Binary64.sameValue_iff, Binary64.units_ofInt hi', Binary64.units_ofInt hj',
    Int.mul_eq_mul_right_iff hone]

end Number

/-- Whether two numbers are integers that are rounded to the same double. -/
def Number.SameRounded (a b : Number) : Prop :=
  ∃ i j, a = .int i ∧ b = .int j ∧ Binary64.roundInt i = Binary64.roundInt j

namespace Json

variable {x y : Json}

/-- Whether all numbers in a value are integers of 64 bits. -/
def HoldsIntegers (v : Json) : Prop := ∀ n, HasNumber n v → ∃ i, n = .int i ∧ Is64Bit i

/-- Whether every integer in one value is told apart from every integer in another. -/
def Separated (x y : Json) : Prop :=
  ∀ i j, HasNumber (.int i) x → HasNumber (.int j) y → Binary64.Separated i j

/-- Values of integers are equal if their integers are rounded to the same doubles. -/
theorem sameValue_iff_matches_rounded (hkeys : x.UniqueKeys) (hx : x.HoldsIntegers)
    (hy : y.HoldsIntegers) : x.sameValue y = true ↔ Matches Number.SameRounded x y := by
  rw [sameValue, agree_iff_matches hkeys]
  constructor
  · intro h
    refine h.imp ?_
    intro a b ha hb hab
    obtain ⟨i, rfl, hi⟩ := hx a ha
    obtain ⟨j, rfl, hj⟩ := hy b hb
    exact ⟨i, j, rfl, rfl, (Number.sameValue_int hi hj).mp hab⟩
  · intro h
    refine h.imp ?_
    rintro _ _ ha hb ⟨i, j, rfl, rfl, hround⟩
    obtain ⟨_, ⟨⟩, hi⟩ := hx _ ha
    obtain ⟨_, ⟨⟩, hj⟩ := hy _ hb
    exact (Number.sameValue_int hi hj).mpr hround

/-- Rounding loses nothing between integers that are told apart. -/
theorem matches_rounded_iff_matches_eq (hx : x.HoldsIntegers) (hseparated : Separated x y) :
    Matches Number.SameRounded x y ↔ Matches (· = ·) x y := by
  constructor
  · intro h
    refine h.imp ?_
    rintro _ _ ha hb ⟨i, j, rfl, rfl, hround⟩
    rw [(Binary64.roundInt_eq_iff (hseparated i j ha hb)).mp hround]
  · intro h
    refine h.imp ?_
    rintro a _ ha - rfl
    obtain ⟨i, rfl, -⟩ := hx a ha
    exact ⟨i, i, rfl, rfl, rfl⟩

theorem matches_eq_ofInt_iff {i j : Int} : Matches (· = ·) (ofInt i) (ofInt j) ↔ i = j := by
  constructor
  · intro h
    cases h with
    | number heq => exact Number.int.inj heq
  · rintro rfl
    exact .number rfl

end Json

/-- A rule for an exact integer applies to the calls whose input is written as an equal value. -/
theorem Handle.applies_exactly_seen {ι ο : Type} {h : Handle ι ο} {input : ι} {v : Json}
    (hencode : h.input.encode input = .ok v) (i : Int) (ps : List Predicate) (output : ο)
    (elapsed : Nat) :
    Rule.applies ⟨.exactly (.ofInt i), ps⟩ (h.seen input output elapsed) =
      (Json.ofInt i).sameValue v := by
  show (Json.ofInt i).sameValue (h.seen input output elapsed).rawInput = _
  rw [rawInput_seen hencode]

/-- **Integers are compared rounded.** Values all of whose numbers are integers of 64 bits are equal
exactly when they have one shape and their integers are rounded to the same doubles. If every integer of
one is told apart from every integer of the other, because one of the two is below `2 ^ 53` in magnitude
or both are doubles, that is when they are the same up to the order of keys. So two integers that are
told apart are equal only if they are the same, and then alone a rule or a case for the one is for the
other. -/
theorem Json.integers_compare_rounded (x y : Json) (hkeys : x.UniqueKeys) (hx : x.HoldsIntegers)
    (hy : y.HoldsIntegers) :
    (x.sameValue y = true ↔ Matches Number.SameRounded x y) ∧
    (Separated x y →
      (x.sameValue y = true ↔ Matches (· = ·) x y) ∧
      ∀ i j, x = ofInt i → y = ofInt j → (x.sameValue y = true ↔ i = j) ∧
        ∀ (ι ο : Type) (h : Handle ι ο) (input : ι) (ps : List Predicate),
          h.input.encode input = .ok y →
            (Case.isFor ⟨x, ps⟩ y = true ↔ i = j) ∧ ∀ output elapsed,
              Rule.applies ⟨.exactly x, ps⟩ (h.seen input output elapsed) = true ↔ i = j) := by
  have hrounded := sameValue_iff_matches_rounded hkeys hx hy
  refine ⟨hrounded, ?_⟩
  intro hseparated
  have hsame : x.sameValue y = true ↔ Matches (· = ·) x y :=
    hrounded.trans (matches_rounded_iff_matches_eq hx hseparated)
  refine ⟨hsame, ?_⟩
  rintro i j rfl rfl
  have hint : (ofInt i).sameValue (ofInt j) = true ↔ i = j := hsame.trans matches_eq_ofInt_iff
  refine ⟨hint, ?_⟩
  intro ι ο h input ps hencode
  refine ⟨hint, ?_⟩
  intro output elapsed
  rw [Handle.applies_exactly_seen hencode]
  exact hint

/-- Two lists of identifiers that differ in one are told apart, although the greater one is rounded. -/
theorem Json.integers_compare_rounded_identifiers :
    (list [ofInt 9007199254740991]).sameValue (list [ofInt 9007199254740993]) = false := by
  have hnumber : ∀ {i n}, HasNumber n (list [ofInt i]) → n = .int i := by
    intro i n h
    cases h with
    | list hv h =>
        rw [List.mem_singleton.mp hv] at h
        cases h
        rfl
  have hholds : ∀ i, Is64Bit i → (list [ofInt i]).HoldsIntegers :=
    fun i hi n hn => ⟨i, hnumber hn, hi⟩
  have hseparated : Separated (list [ofInt 9007199254740991]) (list [ofInt 9007199254740993]) := by
    intro i j hi _
    cases hnumber hi
    exact .inl (by decide)
  have hsame := (integers_compare_rounded (list [ofInt 9007199254740991])
    (list [ofInt 9007199254740993]) (.list (List.forall_mem_singleton.mpr (.number _)))
    (hholds _ (by unfold Is64Bit; decide)) (hholds _ (by unfold Is64Bit; decide))).2 hseparated
  rw [← Bool.not_eq_true, hsame.1]
  intro hmatches
  cases hmatches with
  | list hitems =>
      cases hitems with
      | cons hhead _ => exact absurd (matches_eq_ofInt_iff.mp hhead) (by decide)

/-- Neighbours above `2 ^ 53` compare as equal, and so a rule for one of them applies to a call with
the other. -/
theorem Json.neighbours_compare_equal :
    let i : Int := 9007199254740992
    let j : Int := 9007199254740993
    let h := Handle.register "echo" 0 (fun _ v => ⟨.value v, [], 0⟩) .json .json .any
    i ≠ j ∧ Is64Bit i ∧ Is64Bit j ∧ (ofInt i).sameValue (ofInt j) = true ∧
      Rule.applies ⟨.exactly (ofInt i), []⟩ (h.seen (ofInt j) .null 0) = true := by
  intro i j h
  have hi : Is64Bit i := by unfold Is64Bit; decide
  have hj : Is64Bit j := by unfold Is64Bit; decide
  have hsame : (ofInt i).sameValue (ofInt j) = true :=
    (Number.sameValue_int hi hj).mpr (by decide)
  exact ⟨by decide, hi, hj, hsame, hsame⟩

end CallCheck
