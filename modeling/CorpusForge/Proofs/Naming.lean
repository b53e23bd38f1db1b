import CorpusForge.Proofs.Number.Grid
import CorpusForge.Proofs.Spec
import CorpusForge.Proofs.Structure.Layout

/-!
# Names can be decoded

The name of a repository has its number between two dashes, and behind them whatever its template
is. The digits end where the second dash stands, so the number is told even when the template has
digits and dashes itself; and what is left tells the template. The name of a service is a word,
which has no dash, and behind it the round, if it is not the first.

* `repositoryName_inj`: the number and the template of a repository;
* `serviceName?_ofNat`: the name at an index, in binary64 arithmetic;
* `names_decode`: repositories and services.
-/

namespace CorpusForge

variable {i j : Nat}

/-! ### Repositories -/

theorem repositoryName_inj (hi : i < 2 ^ 53) (hj : j < 2 ^ 53) (s t : String) :
    repositoryName (.ofNat i) (some s) = repositoryName (.ofNat j) (some t) ↔ i = j ∧ s = t := by
  refine ⟨fun h => ?_, by rintro ⟨rfl, rfl⟩; rfl⟩
  have hcount : ∀ {n : Nat}, n < 2 ^ 53 → (Number.ofNat n).IsCount n := fun {n} hn => by
    rw [Number.ofNat_eq hn.le]
    exact Number.isCount_real n
  obtain rfl := eq_of_repositoryName_eq (hcount hi) (hcount hj) hi.le hj.le h
  -- what stands before the templates is the same
  rw [repositoryName, repositoryName, String.append_right_inj] at h
  exact ⟨rfl, h⟩

/-! ### Services -/

namespace Number

/-- What is left of a count after whole multiples of another one. -/
theorem mod_natCast (n : Nat) {d : Nat} (hd : 0 < d) : real n % real d = real ((n % d : Nat)) := by
  have hpos : (0 : Rat) < d := by exact_mod_cast hd
  have hnonneg : ¬(n : Rat) / d < 0 := not_lt.2 (div_nonneg (Nat.cast_nonneg n) hpos.le)
  have hfloor : ((n : Rat) / d).floor = (n / d : Nat) := Rat.floor_natCast_div_natCast n d
  have hrest : (n : Rat) - ((n / d : Nat) : Int) * d = (n % d : Nat) := by
    have hsplit : (d : Rat) * (n / d : Nat) + (n % d : Nat) = n := by
      exact_mod_cast Nat.div_add_mod n d
    rw [Int.cast_natCast, ← hsplit]
    ring
  have hsign : (real n).isNegative = false := decide_eq_false (not_lt.2 (Nat.cast_nonneg n))
  have hmod : real n % real d = rem (real n) (real d) := rfl
  simp only [hmod, rem, toRat, if_neg hpos.ne', if_neg hnonneg, hfloor, hrest, hsign]
  split
  next hzero => rw [hzero]; rfl
  next => rfl

theorem zero_le_natCast (n : Nat) : le 0 (real n) = true :=
  le_real_iff.2 (Nat.cast_nonneg n)

theorem zero_lt_natCast (n : Nat) : lt 0 (real n) = true ↔ n ≠ 0 := by
  rw [← Nat.pos_iff_ne_zero, ← Nat.cast_pos (α := Rat)]
  exact lt_real_iff

/-- The whole part of a tenth of a count. -/
theorem floor_div_ten (hi : i < 2 ^ 53) :
    (real i / real (10 : Nat)).floor = real (i / 10 : Nat) := by
  rcases i.eq_zero_or_pos with rfl | hpos
  · decide +kernel
  · exact floor_div_natCast hpos hi (by norm_num) (by norm_num)

end Number

/-- Every index has a name. Its round is exact, though quotients are rounded. -/
theorem serviceName?_ofNat (hi : i < 2 ^ 53) :
    serviceName? (.ofNat i) = some (serviceName i) := by
  have hlength : serviceRotation.length = 10 := rfl
  have hten : Number.ofNat 10 = .real (10 : Nat) := rfl
  have hinteger : (Number.real (i % 10 : Nat)).isInteger = true := rfl
  obtain ⟨name, hname, -⟩ := exists_toList_serviceName i
  have hround : i / 10 < 2 ^ 53 := (Nat.div_le_self i 10).trans_lt hi
  simp only [serviceName?, serviceName, hlength, hten, Number.ofNat_eq hi.le,
    Number.mod_natCast i (Nat.succ_pos 9), Number.floor_div_ten hi, hinteger,
    Number.zero_le_natCast, Number.steps_natCast, Number.zero_lt_natCast, hname,
    Number.text_natCast hround, Bool.and_self, if_true, Option.getD_some, Decimal.natText, ite_not]
  split <;> rfl

/-- Names can be decoded. The name of a repository tells its number and its template, whatever the
    template is, and the name of a service tells its index. -/
theorem names_decode (hi : i < 2 ^ 53) (hj : j < 2 ^ 53) (s t : String) :
    (repositoryName (.ofNat i) (some s) = repositoryName (.ofNat j) (some t) ↔ i = j ∧ s = t) ∧
      serviceName? (.ofNat i) = some (serviceName i) ∧
      (serviceName? (.ofNat i) = serviceName? (.ofNat j) ↔ i = j) := by
  refine ⟨repositoryName_inj hi hj s t, serviceName?_ofNat hi, ?_⟩
  rw [serviceName?_ofNat hi, serviceName?_ofNat hj, Option.some_inj,
    serviceName_injective.eq_iff]

/-- A template that begins like a number, and services of one word. -/
theorem names_decode_dashed :
    repositoryName (.ofNat 12345) (some "6-app") = "repo-12345-6-app" ∧
      repositoryName (.ofNat 123456) (some "app") = "repo-123456-app" ∧
      repositoryName (.ofNat 12345) (some "6-app") ≠ repositoryName (.ofNat 123456) (some "app") ∧
      serviceName? (.ofNat 12345) ≠ serviceName? (.ofNat 123456) := by
  obtain ⟨hrepository, -, hservice⟩ :=
    @names_decode 12345 123456 (by norm_num) (by norm_num) "6-app" "app"
  refine ⟨by decide +kernel, by decide +kernel, fun h => ?_, fun h => ?_⟩
  · exact absurd (hrepository.1 h).1 (by norm_num)
  · exact absurd (hservice.1 h) (by norm_num)

end CorpusForge
