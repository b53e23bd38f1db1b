import CorpusForge.Proofs.Random.Stream

/-!
# What is drawn

What holds of all that a drawing may give, from whatever generator (`Drawing.Yields`), which
drawings are never refused (`Drawing.IsTotal`), which always are (`Drawing.Refuses`), and how many
words they take from the stream (`Drawing.Takes`).
-/

namespace CorpusForge

namespace Drawing

variable {ε α β : Type} {P : α → Prop} {Q : β → Prop} {d : Drawing ε α} {f : α → Drawing ε β}

/-- All that the drawing gives is as `P` says. -/
def Yields (P : α → Prop) (d : Drawing ε α) : Prop := ∀ ⦃g a g'⦄, d.run g = (.ok a, g') → P a

/-- The drawing is not refused, whatever the generator. -/
def IsTotal (d : Drawing ε α) : Prop := ∀ g, ∃ a g', d.run g = (.ok a, g')

/-- The drawing is refused with `e` before anything is drawn. -/
def Refuses (e : ε) (d : Drawing ε α) : Prop := ∀ g, d.run g = (.error e, g)

/-- The drawing is not refused, and takes `n` words from the stream, whatever the generator. -/
def Takes (n : Nat) (d : Drawing ε α) : Prop := ∀ g, ∃ a, d.run g = (.ok a, g.after n)

theorem run_pure (a : α) (g : Gen) : (pure a : Drawing ε α).run g = (.ok a, g) := rfl

theorem run_bind (d : Drawing ε α) (f : α → Drawing ε β) (g : Gen) :
    (d >>= f).run g =
      match d.run g with
      | (.ok a, g') => (f a).run g'
      | (.error e, g') => (.error e, g') := by
  -- a drawing is a function of the generator, so the second one goes on where the first one left it
  change (ExceptT.bindCont f (d g).1) (d g).2 = _
  rw [run]
  rcases d g with ⟨_ | _, _⟩ <;> rfl

/-- What a drawing gives after another, both have drawn. -/
theorem exists_run_of_run_bind {g g' : Gen} {b : β} (h : (d >>= f).run g = (.ok b, g')) :
    ∃ a g₁, d.run g = (.ok a, g₁) ∧ (f a).run g₁ = (.ok b, g') := by
  rw [run_bind] at h
  split at h
  next a g₁ hd => exact ⟨a, g₁, hd, h⟩
  next => exact nomatch h

/-- When a drawing is refused that goes on from another, one of the two is refused. -/
theorem run_bind_eq_error {g g' : Gen} {e : ε} (h : (d >>= f).run g = (.error e, g')) :
    d.run g = (.error e, g') ∨ ∃ a g₁, d.run g = (.ok a, g₁) ∧ (f a).run g₁ = (.error e, g') := by
  rw [run_bind] at h
  split at h
  next a g₁ hd => exact .inr ⟨a, g₁, hd, h⟩
  next e' g₁ hd =>
    cases h
    exact .inl hd

theorem yields_pure {a : α} (ha : P a) : (pure a : Drawing ε α).Yields P := by
  intro g a' g' h
  cases h
  exact ha

theorem Yields.bind (hd : d.Yields P) (hf : ∀ a, P a → (f a).Yields Q) : (d >>= f).Yields Q := by
  intro g b g' h
  obtain ⟨a, g₁, hfirst, hsecond⟩ := exists_run_of_run_bind h
  exact hf a (hd hfirst) hsecond

/-- What is drawn first may be anything. -/
theorem yields_bind_of_forall (hf : ∀ a, (f a).Yields Q) : (d >>= f).Yields Q := by
  intro g b g' h
  obtain ⟨a, g₁, -, hsecond⟩ := exists_run_of_run_bind h
  exact hf a hsecond

theorem isTotal_pure (a : α) : (pure a : Drawing ε α).IsTotal := fun g => ⟨a, g, rfl⟩

/-- The second drawing has to be total only after what the first one may give. -/
theorem IsTotal.bind_of_yields (hd : d.IsTotal) (hyields : d.Yields P)
    (hf : ∀ a, P a → (f a).IsTotal) : (d >>= f).IsTotal := by
  intro g
  obtain ⟨a, g₁, ha⟩ := hd g
  obtain ⟨b, g₂, hb⟩ := hf a (hyields ha) g₁
  exact ⟨b, g₂, by rw [run_bind, ha]; exact hb⟩

theorem IsTotal.bind (hd : d.IsTotal) (hf : ∀ a, (f a).IsTotal) : (d >>= f).IsTotal :=
  hd.bind_of_yields (fun _ _ _ _ => trivial) fun a _ => hf a

/-- What is refused gives nothing. -/
theorem yields_refuse (e : ε) : (refuse e : Drawing ε α).Yields P := by
  intro g a g' h
  cases h

/-- What is refused first is refused. -/
theorem Refuses.bind {e : ε} (hd : d.Refuses e) : (d >>= f).Refuses e := fun g => by
  rw [run_bind, hd g]

/-! ### Words -/

theorem run_word (g : Gen) : (word : Drawing ε UInt32).run g = (.ok g.word, g.advance) := rfl

theorem Takes.isTotal {n : Nat} (hd : d.Takes n) : d.IsTotal := fun g =>
  (hd g).imp fun _ h => ⟨_, h⟩

theorem takes_pure (a : α) : (pure a : Drawing ε α).Takes 0 := fun _ => ⟨a, rfl⟩

theorem takes_word : (word : Drawing ε UInt32).Takes 1 := fun g =>
  ⟨g.word, by rw [run_word, Gen.after_succ, Gen.after_zero]⟩

/-- Two drawings in a row take the words of both. -/
theorem Takes.bind {m n : Nat} (hd : d.Takes m) (hf : ∀ a, (f a).Takes n) :
    (d >>= f).Takes (m + n) := by
  intro g
  obtain ⟨a, ha⟩ := hd g
  obtain ⟨b, hb⟩ := hf a (g.after m)
  exact ⟨b, by rw [run_bind, ha, ← Gen.after_after]; exact hb⟩

theorem isTotal_word : (word : Drawing ε UInt32).IsTotal := takes_word.isTotal

/-! ### Picks -/

/-- The index that a word stands for is one of the indexes. -/
theorem indexOf_lt (u : UInt32) {count : Nat} (hpos : 0 < count) : indexOf u count < count := by
  rw [indexOf, Nat.div_lt_iff_lt_mul (by norm_num)]
  have hu : u.toNat ≤ 4294967295 := Nat.le_of_lt_succ u.toNat_lt
  have hprod : u.toNat * count ≤ 4294967295 * count := Nat.mul_le_mul_right _ hu
  by_cases hexact : u.toNat * count ≤ 2 ^ 53
  · rw [Gen.roundCounter_of_le hexact]
    omega
  · rw [Gen.roundCounter_of_lt (not_le.1 hexact), Int.toNat_lt' (by omega), Rat.floor_lt_iff]
    -- rounding adds less than what the greatest word falls short of one
    have hnormal : Number.pow2 (-1022) ≤ (u.toNat * count : Nat) := by
      have hone : (1 : Rat) ≤ (u.toNat * count : Nat) := by
        exact_mod_cast (by omega : 1 ≤ u.toNat * count)
      exact (Number.pow2_le_pow2 (by norm_num : (-1022 : Int) ≤ 0)).trans hone
    have hround := Number.round53_le hnormal
    have hmost : ((u.toNat * count : Nat) : Rat) ≤ 4294967295 * count := by exact_mod_cast hprod
    have hcount : (0 : Rat) < count := by exact_mod_cast hpos
    push_cast at hround hmost ⊢
    linarith

/-- What is picked is the item at the index that the next word stands for. -/
theorem exists_run_pick {items : List α} (hitems : items ≠ []) (g : Gen) :
    ∃ a, items[indexOf g.word items.length]? = some a ∧
      (pick items).run g = (.ok a, g.advance) := by
  have hindex := indexOf_lt g.word (List.length_pos_of_ne_nil hitems)
  refine ⟨_, List.getElem?_eq_getElem hindex, ?_⟩
  cases items with
  | nil => exact absurd rfl hitems
  | cons first rest =>
    rw [pick, run_bind, run_word]
    dsimp only
    rw [List.getElem?_eq_getElem hindex, Option.getD_some]
    rfl

theorem takes_pick {items : List α} (hitems : items ≠ []) : (pick items).Takes 1 := fun g => by
  obtain ⟨a, -, hrun⟩ := exists_run_pick hitems g
  exact ⟨a, by rw [hrun, Gen.after_succ, Gen.after_zero]⟩

/-- There is something to pick from. -/
theorem isTotal_pick {items : List α} (hitems : items ≠ []) : (pick items).IsTotal :=
  (takes_pick hitems).isTotal

theorem yields_pick {items : List α} : (pick items).Yields (· ∈ items) := by
  intro g a g' h
  by_cases hitems : items = []
  · rw [hitems] at h
    exact nomatch h
  · obtain ⟨b, hb, hrun⟩ := exists_run_pick hitems g
    rw [hrun] at h
    cases h
    exact List.mem_of_getElem? hb

/-! ### Ranges -/

/-- A whole number of a range, by the word that is drawn for it. -/
theorem run_int {low high : Number} (hrange : high.floor.lt low.ceil = false) (g : Gen) :
    (int low high).run g = (.ok (spread g.word low.ceil high.floor), g.advance) := by
  rw [int]
  rw [hrange]
  rfl

/-- There is a whole number in the range. -/
theorem takes_int {low high : Number} (hrange : high.floor.lt low.ceil = false) :
    (int low high).Takes 1 := fun g =>
  ⟨_, by rw [run_int hrange, Gen.after_succ, Gen.after_zero]⟩

/-- From whole numbers that are in order, one is drawn. -/
theorem takes_int_of_le {low high : Number} (hlow : low.isInteger = true)
    (hhigh : high.isInteger = true) (h : low.le high = true) : (int low high).Takes 1 := by
  refine takes_int ?_
  rw [Number.floor_of_isInteger hhigh, Number.ceil_of_isInteger hlow]
  exact Number.lt_eq_false_of_le (Number.isFinite_of_isInteger hlow)
    (Number.isFinite_of_isInteger hhigh) h

theorem isTotal_int_of_le {low high : Number} (hlow : low.isInteger = true)
    (hhigh : high.isInteger = true) (h : low.le high = true) : (int low high).IsTotal :=
  (takes_int_of_le hlow hhigh h).isTotal

end Drawing

end CorpusForge
